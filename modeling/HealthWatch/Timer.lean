import HealthWatch.Health.Transition
import HealthWatch.Healthcheck
import HealthWatch.Report.Event

/-! # Timers

A timer watches one container. Started, it runs a loop that waits one interval, calls the
probe, makes a transition of the health, publishes a snapshot and asks for a report when the
transition has to be told. Stopping cancels the loop, lets a probe in flight finish with its
whole tick, and resets the snapshot.
-/

namespace HealthWatch

/-- What a timer lets others see. -/
structure Snapshot where
  status : Status
  failures : UInt32
  remaining : UInt32
  /-- When the timer last took note of the container's health. -/
  lastCheck : Option Int
  active : Bool
  deriving DecidableEq, Repr

/-- The snapshot of a health. -/
def Snapshot.of (health : Health) (lastCheck : Option Int) (active : Bool) : Snapshot :=
  ⟨health.status, health.failures, health.remaining, lastCheck, active⟩

/-- The loop of a started timer. -/
structure TickLoop where
  health : Health
  /-- Whether the probe has been called and has not returned. -/
  probing : Bool
  deriving DecidableEq, Repr

/-- A timer for one container. -/
structure Timer where
  container : String
  check : Healthcheck
  /-- Whether the timer was started and not stopped since. -/
  running : Bool
  /-- Whether the loop may go on. -/
  active : Bool
  /-- The loop, as long as it has not ended. -/
  loop : Option TickLoop
  snapshot : Snapshot
  deriving DecidableEq, Repr

namespace Timer

/-- A timer that has never been started. -/
def create (container : String) (check : Healthcheck) : Timer where
  container := container
  check := check
  running := false
  active := false
  loop := none
  snapshot := .of (.idle check.startPeriod) none false

/-- Starts the loop. A timer that runs, or whose healthcheck cannot be run, does not start. -/
def start (timer : Timer) (now : Int) : Except TimerFault Timer :=
  if !timer.check.runnable then .error .disabled
  else if timer.running then .error .alreadyActive
  else
    let health := Health.starting timer.check.startPeriod
    .ok
      { timer with
        running := true
        active := true
        loop := some ⟨health, false⟩
        snapshot := .of health (some now) true }

/-- An interval is over: a loop that waits calls the probe. -/
def callProbe (timer : Timer) : Timer :=
  match timer.active, timer.loop with
  | true, some loop => { timer with loop := some { loop with probing := true } }
  | _, _ => timer

/-- Whether a probe is in flight. -/
def probing (timer : Timer) : Bool := timer.loop.any TickLoop.probing

/-- The probe in flight returns: the tick is completed, and gives the event to be reported if
its transition has to be told. A loop that was cancelled ends after it. -/
def tick (timer : Timer) (now : Int) (outcome : Outcome) : Timer × Option StatusEvent :=
  match timer.loop with
  | some ⟨health, true⟩ =>
      let transition := health.step timer.check.interval timer.check.retries outcome
      let event : StatusEvent :=
        .of timer.container transition.health.status outcome.exitCode now
      ({ timer with
          loop := if timer.active then some ⟨transition.health, false⟩ else none
          snapshot := .of transition.health (some now) true },
        if transition.report then some event else none)
  | _ => (timer, none)

/-- The probe in flight brings the loop down, which leaves everything else as it was. -/
def crash (timer : Timer) : Timer :=
  if timer.probing then { timer with loop := none } else timer

/-- Cancels the loop. A loop that waits ends at once, a probe in flight goes on. -/
def cancel (timer : Timer) : Timer :=
  { timer with
    running := false
    active := false
    loop := timer.loop.filter TickLoop.probing }

/-- Shows the timer as one that does not run, once its loop has ended. -/
def reset (timer : Timer) : Timer :=
  { timer with
    loop := none
    snapshot := .of (.idle timer.check.startPeriod) timer.snapshot.lastCheck false }

/-- What a probe in flight comes to: an outcome, or the end of the loop. -/
inductive Return
  | outcome (outcome : Outcome)
  | crash
  deriving DecidableEq, Repr

/-- The probe in flight comes back. -/
def finishProbe (timer : Timer) (now : Int) : Return → Timer × Option StatusEvent
  | .outcome outcome => timer.tick now outcome
  | .crash => (timer.crash, none)

/-- Stops the timer: cancels the loop, waits for the probe in flight, whose tick is completed,
and resets the snapshot. On a timer that does not run nothing happens. -/
def stop (timer : Timer) (now : Int) (inFlight : Return) : Timer × Option StatusEvent :=
  if timer.running then
    let (timer, event) := timer.cancel.finishProbe now inFlight
    (timer.reset, event)
  else (timer, none)

/-- The greatest number of characters of a short name. -/
def shortLength : Nat := 12

/-- The short name of a container: the first characters of its identifier. -/
def shortName (container : String) : String := String.ofList (container.toList.take shortLength)

end Timer

end HealthWatch
