import HealthWatch.Failure

/-! # Healthchecks

A `Healthcheck` says how one container is probed. `Healthcheck.ofValues` is the only way to
an enabled one, so every enabled healthcheck has a program to run and every number inside
its bounds.
-/

namespace HealthWatch

/-- The smallest and the largest number that a field may hold. -/
structure Bounds where
  low : Int
  high : Int
  deriving DecidableEq, Repr

/-- How one container is probed. -/
structure Healthcheck where
  /-- The probe's command, program first. -/
  test : List String
  /-- Seconds between two probes. -/
  interval : UInt32
  /-- Seconds that one probe may run. -/
  timeout : UInt32
  /-- Seconds after the start in which failures do not count. -/
  startPeriod : UInt32
  /-- Failures in a row that make the container unhealthy. -/
  retries : UInt32
  enabled : Bool
  deriving DecidableEq, Repr

namespace Healthcheck

/-- The bounds of the interval, in seconds. -/
def intervalBounds : Bounds := ⟨1, 3600⟩

/-- The bounds of the timeout, in seconds. -/
def timeoutBounds : Bounds := ⟨1, 300⟩

/-- The bounds of the start period, in seconds. -/
def startPeriodBounds : Bounds := ⟨0, 3600⟩

/-- The bounds of the number of retries. -/
def retriesBounds : Bounds := ⟨0, 100⟩

/-- The value as a word, if it lies inside the bounds and is a word at all. -/
def checkRange (field : String) (value : Int) (bounds : Bounds) :
    Except HealthcheckFault UInt32 :=
  if bounds.low ≤ value ∧ value ≤ bounds.high then
    if 0 ≤ value ∧ value < 0x100000000 then .ok (UInt32.ofNat value.toNat)
    else .error (.outOfRange field value)
  else .error (.outOfBounds field bounds.low bounds.high value)

/-- Whether a text holds a NUL. -/
def holdsNul (text : String) : Bool := text.toList.contains '\x00'

/-- The fault of a command that cannot be run, if it has one. -/
def testFault? : List String → Option HealthcheckFault
  | [] => some .emptyTest
  | program :: arguments =>
      if program.isEmpty then some .emptyProgram
      else ((program :: arguments).find? holdsNul).map .nulInArgument

/-- The enabled healthcheck with the given values, each of which is checked in turn. -/
def ofValues (test : List String) (interval timeout startPeriod retries : Int) :
    Except HealthcheckFault Healthcheck :=
  match testFault? test with
  | some fault => .error fault
  | none => do
      let interval ← checkRange "interval" interval intervalBounds
      let timeout ← checkRange "timeout" timeout timeoutBounds
      let startPeriod ← checkRange "start_period" startPeriod startPeriodBounds
      let retries ← checkRange "retries" retries retriesBounds
      .ok { test, interval, timeout, startPeriod, retries, enabled := true }

/-- The healthcheck of a container that is not probed. -/
def disabled : Healthcheck where
  test := []
  interval := 30
  timeout := 30
  startPeriod := 0
  retries := 3
  enabled := false

/-- Whether a timer can probe with this healthcheck. -/
def runnable (check : Healthcheck) : Bool := check.enabled && !check.test.isEmpty

/-- The time between two probes. -/
def intervalSpan (check : Healthcheck) : Span := .ofSeconds check.interval.toNat

/-- The time that one probe may run. -/
def timeoutSpan (check : Healthcheck) : Span := .ofSeconds check.timeout.toNat

/-- The lines that show a healthcheck, with a table of the characters shown as they are. -/
def lines (plain : Char → Bool) (check : Healthcheck) : List (List Char) :=
  let number (value : UInt32) : List Char := Nat.toDigits 10 value.toNat
  [ "test:         ".toList ++ Text.Quoted.encodeAll plain (check.test.map String.toList),
    "interval:     ".toList ++ number check.interval ++ ['s'],
    "timeout:      ".toList ++ number check.timeout ++ ['s'],
    "start period: ".toList ++ number check.startPeriod ++ ['s'],
    "retries:      ".toList ++ number check.retries ]

/-- The text that shows a healthcheck, one line for each of its values. -/
def listing (check : Healthcheck) : String :=
  String.ofList ((check.lines Text.isPlain).flatMap (· ++ ['\n']))

end Healthcheck

end HealthWatch
