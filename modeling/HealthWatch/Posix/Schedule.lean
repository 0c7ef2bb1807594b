import HealthWatch.Posix.Utility

/-! # Scheduling

Processes that are bound to the same processor take turns on it, and one of a higher rank never
waits for one of a lower rank. Two programs change how a process stands: one binds it to a
processor, the other gives it a rank.
-/

namespace HealthWatch.Posix

/-- What comes first on a processor. -/
inductive Rank
  | idle
  | ordinary
  | realTime
  deriving DecidableEq, Repr

/-- The place of a rank among the others. -/
def Rank.height : Rank → Nat
  | idle => 0
  | ordinary => 1
  | realTime => 2

/-- How a process stands to others. -/
structure Standing where
  /-- The one processor that the process may use, if it is bound to one. -/
  processor : Option Nat := none
  rank : Rank := .ordinary
  deriving DecidableEq, Repr

namespace Standing

/-- Whether a process has its processor whenever it wants it, so that another one, which has no
other processor, gets only what is left. -/
def outruns (own other : Standing) : Bool :=
  own.processor.isSome && own.processor == other.processor && other.rank.height < own.rank.height

end Standing

/-- A program that changes how a process stands. -/
inductive Scheduler
  | processor
  | rank
  deriving DecidableEq, Repr

namespace Scheduler

/-- The programs by name. -/
def table : List (String × Scheduler) := [("taskset", processor), ("chrt", rank)]

/-- The name of a program. -/
def name : Scheduler → String
  | processor => "taskset"
  | rank => "chrt"

/-- What a program complains about when there is no process with a number. -/
def complaint (scheduler : Scheduler) (number : Nat) : String :=
  let (step, aspect) := match scheduler with
    | processor => ("get", "affinity")
    | rank => ("set", "policy")
  scheduler.name ++ ": failed to " ++ step ++ " pid " ++ toString number ++ "'s " ++ aspect ++
    ": No such process\n"

/-- The rank that an option letter stands for. -/
def rank? : Char → Option Rank
  | 'i' => some .idle
  | 'o' | 'b' => some .ordinary
  | 'f' | 'r' => some .realTime
  | _ => none

/-- The option letters in front of the operands, and the operands. -/
def options (arguments : List (List Char)) : List Char × List (List Char) :=
  let words := arguments.takeWhile fun argument => argument.head? = some '-'
  (words.flatMap List.tail, arguments.drop words.length)

/-- What a program is asked to do, and the number of the process that it is about. -/
def request? (scheduler : Scheduler) (arguments : List (List Char)) :
    Option (Nat × (Standing → Standing)) :=
  let (letters, operands) := options arguments
  match scheduler, operands.map Signal.number? with
  | .processor, [some only, some number] =>
      if letters.contains 'p' && letters.contains 'c' then
        some (number, fun standing => { standing with processor := some only })
      else none
  | .rank, [some _, some number] =>
      if letters.contains 'p' then
        let given := (letters.findSome? rank?).getD .realTime
        some (number, fun standing => { standing with rank := given })
      else none
  | _, _ => none

end Scheduler

end HealthWatch.Posix
