import HealthWatch.Proofs.Probe.Terminations

/-! # Processes that are left to themselves

What a process does when nobody interferes fixes the course along which it is waited for. A process
whose standard error is never written faster than it is read is polled in fixed intervals. It either
ends in time, and the last poll finds how, or it is killed when it is found overdue
(`Probe.execute_of_quiet`).
-/

namespace HealthWatch

/-- Whether everything that is written to the standard error is read at once. -/
def ProcessRun.Quiet (run : ProcessRun) : Prop :=
  ∀ spurt ∈ run.stderr, spurt.caughtUp = some spurt.time

namespace Capture

/-- The reads that take bytes out of a pipe do not stop a draining. -/
theorem countP_readsOf (bytes : Bytes) : (readsOf bytes).countP ReadResult.stops = 0 := by
  rw [readsOf, List.countP_eq_zero]
  intro read member
  obtain ⟨chunk, -, rfl⟩ := List.mem_map.mp member
  exact Bool.false_ne_true

end Capture

namespace Probe

open Capture Wait

variable {run : ProcessRun} {timeout : Nat}

/-! ## Polls in fixed intervals -/

/-- The polls of a process come in fixed intervals when no draining takes any time. -/
theorem pollTimes_nil (count start : Nat) :
    pollTimes [] count start = List.range' start count pollInterval := by
  induction count generalizing start with
  | zero => rfl
  | succ count ih =>
      rw [List.range'_succ, ← ih]
      rfl

/-- When everything is read at once, the polls of a run come at the beats of the loop. -/
theorem polls_courseOf (quiet : run.Quiet) :
    (courseOf run timeout).polls =
      pollsAt run timeout false (List.range' 0 (pollCount run timeout) pollInterval) := by
  have floods : run.stderr.filter (fun spurt => spurt.caughtUp ≠ some spurt.time) = [] := by
    rw [List.filter_eq_nil_iff]
    intro spurt member
    simp [quiet spurt member]
  rw [courseOf, floods, pollTimes_nil]

/-- The first poll at or after a time is not before it, and every earlier one is. -/
theorem lt_pollAt_iff {time number : Nat} :
    number < pollAt time ↔ number * pollInterval < time := by
  rw [pollAt, pollInterval]
  omega

/-- There is one read that finds nothing at each of the times. -/
theorem countP_readsAt (stderr : List Spurt) (start : Nat) (times : List Nat) :
    (readsAt stderr start times).countP ReadResult.stops = times.length := by
  induction times generalizing start with
  | nil => rfl
  | cons time times ih =>
      rw [readsAt, List.countP_append, countP_readsOf, List.countP_cons_of_pos rfl, ih,
        Nat.zero_add, List.length_cons]

/-- There is one read that stops a draining before each poll of a run, and one more behind the
last. -/
theorem countP_courseOf (run : ProcessRun) (timeout : Nat) :
    (courseOf run timeout).reads.countP ReadResult.stops =
      (courseOf run timeout).polls.length + 1 := by
  unfold courseOf
  dsimp only
  rw [List.countP_append, countP_readsAt, List.length_map]
  rfl

/-! ## How a process is found -/

/-- As long as a process has neither ended nor used up its time, it is found alive. -/
theorem pollsAt_append {before : List Nat}
    (alive : ∀ time ∈ before, run.ending.filter (·.1 ≤ time) = none ∧ time < timeout)
    (rest : List Nat) :
    pollsAt run timeout false (before ++ rest) =
      before.map (fun time => ⟨time, .stillAlive, false⟩) ++ pollsAt run timeout false rest := by
  induction before with
  | nil => rfl
  | cons time before ih =>
      obtain ⟨⟨running, early⟩, later⟩ := List.forall_mem_cons.mp alive
      have inTime : decide (timeout ≤ time) = false := decide_eq_false (Nat.not_le_of_lt early)
      rw [List.cons_append, pollsAt, running, List.map_cons, List.cons_append, inTime, ih later]

/-- How a process terminates that may run for `timeout` milliseconds: by itself if its end can be
seen by the poll that would find it overdue, and otherwise because it is killed. -/
def terminationIn (run : ProcessRun) (timeout : Nat) : Termination :=
  match run.ending with
  | some (time, termination) =>
      if pollAt time ≤ pollAt timeout then termination else .killed 9
  | none => .killed 9

/-- The first polls find a process alive that ends at none of them, in time that it may use. -/
theorem alive_of_lt {count : Nat} (early : count ≤ pollAt timeout)
    (running : ∀ time termination, run.ending = some (time, termination) → count ≤ pollAt time) :
    ∀ time ∈ List.range' 0 count pollInterval,
      run.ending.filter (·.1 ≤ time) = none ∧ time < timeout := by
  intro time member
  obtain ⟨number, below, rfl⟩ := List.mem_range'.mp member
  rw [Nat.zero_add, Nat.mul_comm]
  refine ⟨?_, lt_pollAt_iff.mp (Nat.lt_of_lt_of_le below early)⟩
  rw [Option.filter_eq_none_iff]
  rintro ⟨ends, termination⟩ ending
  have later := running ends termination ending
  rw [decide_eq_true_eq, Nat.not_le]
  exact lt_pollAt_iff.mp (Nat.lt_of_lt_of_le below later)

/-- The first beat that can see a moment is no earlier than that moment. -/
theorem le_pollAt (time : Nat) : time ≤ pollInterval * pollAt time := by
  rw [pollAt, pollInterval]
  omega

/-- A process that ends before it is overdue is found by the first poll at or after its end. -/
theorem finds_of_inTime (quiet : run.Quiet) {time : Nat} {termination : Termination}
    (ending : run.ending = some (time, termination)) (inTime : pollAt time ≤ pollAt timeout) :
    Finds (courseOf run timeout).polls termination := by
  have count : pollCount run timeout = pollAt time + 1 := by
    rw [pollCount, ending]
    dsimp only
    rw [Nat.min_eq_left (Nat.le_succ_of_le inTime)]
  have alive := alive_of_lt inTime fun other _ same => by
    rw [ending] at same
    cases same
    exact Nat.le_refl _
  have ended : run.ending.filter (·.1 ≤ 0 + pollInterval * pollAt time) =
      some (time, termination) := by
    rw [ending, Option.filter_some, Nat.zero_add, if_pos (decide_eq_true (le_pollAt time))]
  rw [polls_courseOf quiet, count, List.range'_concat, pollsAt_append alive, pollsAt, ended]
  refine ⟨_, _, _, rfl, fun poll member => .inl ?_⟩
  obtain ⟨time, -, rfl⟩ := List.mem_map.mp member
  rfl

/-- A process that is found overdue is killed, and the next poll finds it so. -/
theorem finds_of_overdue (quiet : run.Quiet)
    (overdue : ∀ time termination, run.ending = some (time, termination) →
      pollAt timeout < pollAt time) :
    Finds (courseOf run timeout).polls (.killed 9) := by
  have count : pollCount run timeout = pollAt timeout + 1 + 1 := by
    rw [pollCount]
    rcases ending : run.ending with _ | ⟨time, termination⟩
    · rfl
    · dsimp only
      rw [Nat.min_eq_right (overdue time termination ending)]
  have alive := alive_of_lt (Nat.le_refl (pollAt timeout)) fun time termination ending =>
    Nat.le_of_lt (overdue time termination ending)
  have running : run.ending.filter (·.1 ≤ 0 + pollInterval * pollAt timeout) = none := by
    rw [Option.filter_eq_none_iff]
    rintro ⟨time, termination⟩ ending
    have later := lt_pollAt_iff.mp (overdue time termination ending)
    rw [decide_eq_true_eq, Nat.zero_add, Nat.mul_comm, Nat.not_le]
    exact later
  have used : decide (timeout ≤ 0 + pollInterval * pollAt timeout) = true := by
    rw [Nat.zero_add]
    exact decide_eq_true (le_pollAt timeout)
  rw [polls_courseOf quiet, count, List.range'_concat, List.range'_concat, List.append_assoc,
    pollsAt_append alive, List.singleton_append, pollsAt, running]
  dsimp only
  rw [used, pollsAt]
  refine ⟨_ ++ [_], _, _, (List.append_assoc _ [_] [_]).symm, fun poll member => .inl ?_⟩
  rcases List.mem_append.mp member with member | member
  · obtain ⟨time, -, rfl⟩ := List.mem_map.mp member
    rfl
  · rw [List.mem_singleton.mp member]

/-- A process is found alive up to some poll, and that one finds how it has terminated. -/
theorem finds_courseOf (quiet : run.Quiet) (timeout : Nat) :
    Finds (courseOf run timeout).polls (terminationIn run timeout) := by
  rw [terminationIn]
  rcases ending : run.ending with _ | ⟨time, termination⟩
  · apply finds_of_overdue quiet
    intro time termination same
    rw [ending] at same
    cases same
  · dsimp only
    by_cases inTime : pollAt time ≤ pollAt timeout
    · rw [if_pos inTime]
      exact finds_of_inTime quiet ending inTime
    · rw [if_neg inTime]
      apply finds_of_overdue quiet
      intro other _ same
      rw [ending] at same
      cases same
      exact Nat.lt_of_not_le inTime

/-- A run whose standard error is read at once ends, by itself or because it is killed. -/
theorem ends_courseOf {arguments : List Bytes} (started : argumentFault? arguments = none)
    (quiet : run.Quiet) (timeout : Nat) :
    Ends arguments (courseOf run timeout) (terminationIn run timeout) where
  started := started
  finds := finds_courseOf quiet timeout
  drained := by
    rw [countP_courseOf]
    exact Nat.lt_succ_self _

/-! ## Executing programs -/

section Execute

variable (programs : Programs) (executor : Executor) (check : Healthcheck) (container : String)

/-- A probe comes to what the process that is started with its arguments comes to. -/
theorem execute_eq :
    execute programs executor check container =
      (executeAlong
        (courseOf (programs (executor.arguments check container)) check.timeoutSpan.milliseconds)
        executor check container).getD
          (.infrastructure (Failure.probeNotRun (.unobserved "no end was observed")).message) := by
  rw [execute, executeFor, spawn, executeAlong]
  exact (Option.getD_map outcomeOf _ _).symm

variable {programs executor check container}

/-- A probe depends on what its own command does and on nothing else that programs do. -/
theorem execute_congr {other : Programs}
    (same : programs (executor.arguments check container) =
      other (executor.arguments check container)) :
    execute programs executor check container = execute other executor check container := by
  rw [execute_eq, execute_eq, same]

/-- What becomes of a probe that is not refused, and whose process is quiet. -/
theorem execute_of_quiet
    (started : argumentFault? (executor.arguments check container) = none)
    (quiet : (programs (executor.arguments check container)).Quiet) :
    execute programs executor check container =
      let termination := terminationIn (programs (executor.arguments check container))
        check.timeoutSpan.milliseconds
      if termination.Named then .completed termination.code
      else .infrastructure
        "Failed to run probe: waitpid failed: EINVAL: Invalid argument" := by
  have ends := ends_courseOf started quiet check.timeoutSpan.milliseconds
  rw [execute_eq, executeAlong_of_started ends.started, ends.outcome]
  rfl

end Execute

end Probe

end HealthWatch
