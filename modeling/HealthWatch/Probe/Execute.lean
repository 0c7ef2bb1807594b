import HealthWatch.Health.Outcome
import HealthWatch.Probe.Capture
import HealthWatch.Probe.Command
import HealthWatch.Probe.Wait

/-! # Executing probes

`Probe.spawnAlong` runs a command along a given course of reads and polls: it waits for the child,
kills it when its time is over, and captures its standard error. What a program does, left to
itself, is a `ProcessRun`, which fixes the course (`Probe.courseOf`). `Probe.spawn` runs a command
given a way to know its run; `Probe.execute` makes an outcome of that.
-/

namespace HealthWatch

/-- Bytes that are written to a standard error. -/
structure Spurt where
  time : Nat
  bytes : Bytes
  /-- When somebody who reads without a pause has caught up with the writer, if ever. -/
  caughtUp : Option Nat
  deriving DecidableEq, Repr

/-- What a process does when nobody interferes. Times are milliseconds after its start. -/
structure ProcessRun where
  /-- When and how it ends, if it does. -/
  ending : Option (Nat × Termination)
  /-- What is written to its standard error, in order of time, by itself and by processes that
  it starts. -/
  stderr : List Spurt
  deriving DecidableEq, Repr

/-- The run of every command. -/
abbrev Programs := List Bytes → ProcessRun

namespace Probe

open Capture

/-- What one run of a probe came to. -/
structure Run where
  exitCode : Int
  stderr : Bytes
  timedOut : Bool
  deriving DecidableEq, Repr

/-- What the supervisor meets while it waits for a child. -/
structure Course where
  reads : List ReadResult
  polls : List Wait.Poll
  deriving DecidableEq, Repr

/-- What waiting for a child comes to. When its end has been observed, its standard error is
drained once more. There is no result as long as the course has not come to an end. -/
def await (timeout limit : Nat) (course : Course) : Option (Except ProbeFault Run) :=
  let watched := Wait.watch timeout limit [] false course.reads course.polls
  match watched.ending with
  | .code code =>
      match drain limit watched.captured watched.unread with
      | (captured, some _) => some (.ok ⟨code, captured, watched.timedOut⟩)
      | (_, none) => none
  | .unobserved reason => some (.error (.unobserved reason))
  | .running => none

/-- Runs a command for at most `timeout` milliseconds along a course. -/
def spawnAlong (course : Course) (arguments : List Bytes) (timeout limit : Nat) :
    Option (Except ProbeFault Run) :=
  match argumentFault? arguments with
  | some fault => some (.error fault)
  | none => await timeout limit course

/-- What running a probe's command comes to as an outcome. -/
def outcomeOf : Except ProbeFault Run → Outcome
  | .ok run => .completed run.exitCode
  | .error fault => .infrastructure (Failure.probeNotRun fault).message

/-- Runs the probe of a container along a course, for as long as its healthcheck allows. -/
def executeAlong (course : Course) (executor : Executor) (check : Healthcheck)
    (container : String) : Option Outcome :=
  (spawnAlong course (executor.arguments check container) check.timeoutSpan.milliseconds
    executor.stderrLimit).map outcomeOf

/-! ## Courses of programs -/

/-- Milliseconds between two polls. -/
def pollInterval : Nat := 10

/-- The number of the first poll at or after a time, if no draining takes any time. -/
def pollAt (time : Nat) : Nat := (time + pollInterval - 1) / pollInterval

/-- When a draining that begins at a moment is over, if ever: it goes on until it has caught up
with every writer. -/
def drainedAt (stderr : List Spurt) (start : Nat) : Option Nat :=
  stderr.foldl
    (fun moment spurt => moment.bind fun time =>
      if spurt.time ≤ time then spurt.caughtUp.map (max time) else some time)
    (some start)

/-- The times of the first polls, of which each follows a draining. -/
def pollTimes (stderr : List Spurt) : Nat → Nat → List Nat
  | 0, _ => []
  | count + 1, start =>
      match drainedAt stderr start with
      | some time => time :: pollTimes stderr count (time + pollInterval)
      | none => []

/-- How many polls there can be of a process. -/
def pollCount (run : ProcessRun) (timeout : Nat) : Nat :=
  match run.ending with
  | some (time, _) => min (pollAt time) (pollAt timeout + 1) + 1
  | none => pollAt timeout + 2

/-- The polls of a process at some times, up to the first that finds it ended. `killed` says
whether it has been killed already. -/
def pollsAt (run : ProcessRun) (timeout : Nat) : Bool → List Nat → List Wait.Poll
  | _, [] => []
  | true, time :: _ => [⟨time, Wait.observe (.killed 9), false⟩]
  | false, time :: rest =>
      match run.ending.filter (·.1 ≤ time) with
      | some (_, termination) => [⟨time, Wait.observe termination, false⟩]
      | none => ⟨time, .stillAlive, false⟩ :: pollsAt run timeout (timeout ≤ time) rest

/-- The results of the reads up to some times, beginning with what is written at a moment. -/
def readsAt (stderr : List Spurt) : Nat → List Nat → List ReadResult
  | _, [] => []
  | start, time :: rest =>
      let spurts := stderr.filter fun spurt => start ≤ spurt.time ∧ spurt.time ≤ time
      readsOf (spurts.flatMap Spurt.bytes) ++ .wouldBlock :: readsAt stderr (time + 1) rest

/-- What is written until a process ends, by itself or because the polls kill it. -/
def writtenUntilEnd (run : ProcessRun) (timeout : Nat) (polls : List Wait.Poll) : List Spurt :=
  let kill := polls.find? fun poll => poll.result = .stillAlive ∧ timeout ≤ poll.elapsed
  match kill.map Wait.Poll.elapsed <|> run.ending.map Prod.fst with
  | some time => run.stderr.filter fun spurt => spurt.time ≤ time
  | none => run.stderr

/-- The course of a process that is waited for. After the last poll nothing is left to read. -/
def courseOf (run : ProcessRun) (timeout : Nat) : Course :=
  let floods := run.stderr.filter fun spurt => spurt.caughtUp ≠ some spurt.time
  let times := pollTimes floods (pollCount run timeout) 0
  let polls := pollsAt run timeout false times
  let written := writtenUntilEnd run timeout polls
  ⟨readsAt written 0 (polls.map Wait.Poll.elapsed) ++ [.endOfFile], polls⟩

/-- Runs a command for at most `timeout` milliseconds. -/
def spawn (programs : Programs) (arguments : List Bytes) (timeout limit : Nat) :
    Except ProbeFault Run :=
  (spawnAlong (courseOf (programs arguments) timeout) arguments timeout limit).getD
    (.error (.unobserved "no end was observed"))

/-- Runs the probe of a container for at most `timeout` milliseconds. -/
def executeFor (programs : Programs) (executor : Executor) (check : Healthcheck)
    (container : String) (timeout : Nat) : Outcome :=
  outcomeOf (spawn programs (executor.arguments check container) timeout executor.stderrLimit)

/-- Runs the probe of a container for as long as its healthcheck allows. -/
def execute (programs : Programs) (executor : Executor) (check : Healthcheck)
    (container : String) : Outcome :=
  executeFor programs executor check container check.timeoutSpan.milliseconds

end Probe

end HealthWatch
