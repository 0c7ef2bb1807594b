import HealthWatch.Failure
import HealthWatch.Probe.Capture

/-! # Waiting for a probe

The child of a probe is polled until it has terminated, and its standard error is drained
before each poll. The first poll that finds it alive after its time is over kills its whole
group, once.
-/

namespace HealthWatch

/-- How a process ends. -/
inductive Termination
  | exited (code : Nat)
  | killed (signal : Nat)
  deriving DecidableEq, Repr

namespace Wait

open Capture

/-- What one poll of the child gives. -/
inductive Result
  | stillAlive
  | exited (code : Int)
  | signaled (signal : Nat)
  /-- A change of state that is no end. -/
  | other
  | interrupted
  | failed (reason : String)
  deriving DecidableEq, Repr

/-- One poll, so many milliseconds after the start. -/
structure Poll where
  elapsed : Nat
  result : Result
  /-- Whether a signal to the group of the child would be refused now. -/
  refused : Bool := false
  deriving DecidableEq, Repr

/-- A kill of the group of the child. -/
structure Kill where
  elapsed : Nat
  /-- Whether the group could not be killed, and the child was killed alone. -/
  alone : Bool
  deriving DecidableEq, Repr

/-- How the polls of a child came to an end. -/
inductive Ending
  | code (code : Int)
  | unobserved (reason : String)
  /-- The end has not been observed. -/
  | running
  deriving DecidableEq, Repr

/-- What a poll makes the supervisor do. -/
inductive Reaction
  | goOn
  | kill (kill : Kill)
  | stop (ending : Ending)
  deriving DecidableEq, Repr

/-- What waiting for a child has come to. -/
structure Watched where
  ending : Ending
  timedOut : Bool
  kills : List Kill
  captured : Bytes
  /-- The results of the reads that have not been made. -/
  unread : List ReadResult
  deriving DecidableEq, Repr

/-- The code of a process that died by a signal. -/
def signalCode (signal : Nat) : Int := 128 + signal

/-- The reaction to a poll of a child that may run for `timeout` milliseconds. `timedOut` says
whether it has been killed already. -/
def react (timeout : Nat) (timedOut : Bool) (poll : Poll) : Reaction :=
  match poll.result with
  | .stillAlive =>
      if !timedOut && timeout ≤ poll.elapsed then .kill ⟨poll.elapsed, poll.refused⟩ else .goOn
  | .exited code => .stop (.code code)
  | .signaled signal => .stop (.code (signalCode signal))
  | .other => .goOn
  | .interrupted => .goOn
  | .failed reason => .stop (.unobserved reason)

/-- Drains the standard error of a child and polls it, in turn, until it has ended. -/
def watch (timeout limit : Nat) : Bytes → Bool → List ReadResult → List Poll → Watched
  | captured, timedOut, reads, [] =>
      let (captured, left) := drain limit captured reads
      ⟨.running, timedOut, [], captured, left.getD []⟩
  | captured, timedOut, reads, poll :: rest =>
      match drain limit captured reads with
      | (captured, none) => ⟨.running, timedOut, [], captured, []⟩
      | (captured, some left) =>
          match react timeout timedOut poll with
          | .goOn => watch timeout limit captured timedOut left rest
          | .kill kill =>
              let watched := watch timeout limit captured true left rest
              { watched with kills := kill :: watched.kills }
          | .stop ending => ⟨ending, timedOut, [], captured, left⟩

/-- The signals that a poll can name. -/
def lastNamedSignal : Nat := 31

/-- What a poll makes of a process that has ended. Signals beyond those that have a name
cannot be told. -/
def observe : Termination → Result
  | .exited code => .exited code
  | .killed signal =>
      if 1 ≤ signal ∧ signal ≤ lastNamedSignal then .signaled signal
      else .failed "EINVAL: Invalid argument"

end Wait

end HealthWatch
