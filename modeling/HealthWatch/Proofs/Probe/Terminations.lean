import HealthWatch.Proofs.Probe.Waiting

/-! # How a probe terminates

A probe that has terminated is meant to have completed, with its exit code or with 128 plus the
signal that killed it. This is so whenever the signal is one that a poll can name. When it is a
real-time signal, the poll fails instead, and the outcome is that the probe could not be run
(`Probe.executeAlong_of_ends`).
-/

namespace HealthWatch

namespace Termination

/-- The code of a process that has terminated. -/
def code : Termination → Int
  | exited code => code
  | killed signal => Wait.signalCode signal

/-- Whether a poll can tell the termination. -/
def Named : Termination → Prop
  | exited _ => True
  | killed signal => 1 ≤ signal ∧ signal ≤ Wait.lastNamedSignal

/-- The last of the signals, of which the real-time ones have no name. -/
def lastSignal : Nat := 64

/-- Whether a process can terminate in this way. -/
def Possible : Termination → Prop
  | exited code => code ≤ 255
  | killed signal => 1 ≤ signal ∧ signal ≤ lastSignal

instance : DecidablePred Named
  | exited _ => inferInstanceAs (Decidable True)
  | killed signal => inferInstanceAs (Decidable (1 ≤ signal ∧ signal ≤ Wait.lastNamedSignal))

instance : DecidablePred Possible
  | exited code => inferInstanceAs (Decidable (code ≤ 255))
  | killed signal => inferInstanceAs (Decidable (1 ≤ signal ∧ signal ≤ lastSignal))

end Termination

namespace Wait

variable {termination : Termination}

/-- A termination that has a name is seen with its code. Any other is an invalid argument to the
poll that should tell it. -/
theorem ending?_observe :
    (observe termination).ending? =
      some (if termination.Named then .code termination.code
        else .unobserved "EINVAL: Invalid argument") := by
  cases termination with
  | exited code => rfl
  | killed signal =>
      rw [observe]
      by_cases named : 1 ≤ signal ∧ signal ≤ lastNamedSignal
      · rw [if_pos named, if_pos (show (Termination.killed signal).Named from named)]
        rfl
      · rw [if_neg named, if_neg (show ¬ (Termination.killed signal).Named from named)]
        rfl

/-- The last poll finds that the child has terminated. Those before it find it alive, or are
interrupted. -/
structure Finds (polls : List Poll) (termination : Termination) : Prop where
  found : ∃ before elapsed refused,
    polls = before ++ [⟨elapsed, observe termination, refused⟩] ∧
      ∀ poll ∈ before, poll.result = .stillAlive ∨ poll.result = .interrupted

/-- The poll that settles how the child ended is the one that finds its termination. -/
theorem Finds.settling? {polls : List Poll} (finds : Finds polls termination) :
    (settling? polls).map Poll.result = some (observe termination) := by
  obtain ⟨before, elapsed, refused, rfl, quiet⟩ := finds.found
  refine Option.map_eq_some_iff.mpr ⟨⟨elapsed, observe termination, refused⟩, ?_, rfl⟩
  refine List.find?_eq_some_iff_append.mpr ⟨?_, before, [], rfl, fun poll mem => ?_⟩
  · rw [Result.settles, ending?_observe]
    rfl
  · rcases quiet poll mem with same | same <;> rw [same] <;> rfl

end Wait

namespace Probe

open Capture Wait

/-- A probe is started, and its termination is seen; every draining returns. -/
structure Ends (arguments : List Bytes) (course : Course) (termination : Termination) : Prop where
  started : argumentFault? arguments = none
  finds : Finds course.polls termination
  drained : course.polls.length < course.reads.countP ReadResult.stops

variable {course : Course} {termination : Termination} {arguments : List Bytes}

/-- Whether it was killed or not, a probe ends as its termination says if that has a name, and
unobserved otherwise. -/
theorem Ends.ending (ends : Ends arguments course termination) (timeout limit : Nat) :
    (watched timeout limit course).ending =
      if termination.Named then .code termination.code
      else .unobserved "EINVAL: Invalid argument" := by
  have follows : Follows timeout false course.polls (watched timeout limit course) :=
    follows_watched (Nat.le_of_lt ends.drained)
  exact follows.ending_of_settling ends.finds.settling? ending?_observe

/-- What becomes of a probe whose end has been seen. -/
theorem Ends.outcome (ends : Ends arguments course termination) (timeout limit : Nat) :
    (await timeout limit course).map outcomeOf =
      some (if termination.Named then .completed termination.code
        else .infrastructure
          "Failed to run probe: waitpid failed: EINVAL: Invalid argument") := by
  have ending := ends.ending timeout limit
  by_cases named : termination.Named
  · rw [if_pos named] at ending ⊢
    obtain ⟨stderr, completed⟩ := await_of_code ends.drained ending
    rw [completed]
    rfl
  · rw [if_neg named] at ending ⊢
    rw [await_of_unobserved ending]
    rfl

theorem executeAlong_of_started {executor : Executor} {check : Healthcheck} {container : String}
    (started : argumentFault? (executor.arguments check container) = none) :
    executeAlong course executor check container =
      (await check.timeoutSpan.milliseconds executor.stderrLimit course).map outcomeOf := by
  rw [executeAlong, spawnAlong, started]

/-- **What becomes of a probe that has terminated.** It has completed with its exit code or with
128 plus its signal, unless this signal has no name: then its outcome is the one of a probe that
could not be run. -/
theorem executeAlong_of_ends (executor : Executor) (check : Healthcheck) (container : String)
    (course : Course) (termination : Termination)
    (ends : Ends (executor.arguments check container) course termination) :
    executeAlong course executor check container =
      some (if termination.Named then .completed termination.code
        else .infrastructure
          "Failed to run probe: waitpid failed: EINVAL: Invalid argument") :=
  (executeAlong_of_started ends.started).trans (ends.outcome _ _)

/-- The course of a probe that is found alive once and interrupted once before it terminates. -/
def courseTo (termination : Termination) : Course where
  reads := [.wouldBlock, .wouldBlock, .wouldBlock, .endOfFile]
  polls := [⟨0, .stillAlive, false⟩, ⟨10, .interrupted, false⟩, ⟨11, observe termination, false⟩]

/-- Every termination is that of some course. -/
theorem ends_courseTo (started : argumentFault? arguments = none) (termination : Termination) :
    Ends arguments (courseTo termination) termination where
  started := started
  finds := ⟨[⟨0, .stillAlive, false⟩, ⟨10, .interrupted, false⟩], 11, false, rfl, by decide⟩
  drained := Nat.lt_succ_self 3

/-- Runs probes as they are. -/
def plain : Executor := ⟨.direct, Executor.defaultStderrLimit⟩

/-- A healthcheck whose probe sends a signal to itself. -/
def selfKilling (signal : Nat) : Healthcheck :=
  ⟨["/bin/sh", "-c", "kill -" ++ toString signal ++ " $$"], 1, 5, 0, 3, true⟩

/-- A probe that kills itself completes with 137. -/
theorem executeAlong_courseTo_killed :
    executeAlong (courseTo (.killed 9)) plain (selfKilling 9) "c1" = some (.completed 137) :=
  executeAlong_of_ends plain (selfKilling 9) "c1" (courseTo (.killed 9)) (.killed 9)
    (ends_courseTo (by decide +kernel) (.killed 9))

/-- A termination by a real-time signal does not count as one. -/
theorem not_completed_of_realtime :
    ¬ ∀ (executor : Executor) (check : Healthcheck) (container : String) (course : Course)
        (termination : Termination), termination.Possible →
      Ends (executor.arguments check container) course termination →
      executeAlong course executor check container = some (.completed termination.code) := by
  intro completes
  have ends : Ends (plain.arguments (selfKilling 34) "c1") (courseTo (.killed 34)) (.killed 34) :=
    ends_courseTo (by decide +kernel) (.killed 34)
  have completed := completes plain (selfKilling 34) "c1" (courseTo (.killed 34)) (.killed 34)
    (by decide) ends
  rw [executeAlong_of_started ends.started, ends.outcome] at completed
  cases completed

end Probe

end HealthWatch
