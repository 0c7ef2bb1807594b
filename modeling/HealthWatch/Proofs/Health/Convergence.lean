import HealthWatch.Proofs.Health.History

/-! # Every health settles

Whatever a health is, reachable or not, its past is forgotten. Probes that pass use up what is left
of the start period and then make the container healthy, and failed probes after the start period
make it unhealthy, each after a number of ticks that is known beforehand; more of the same change
nothing (`Health.converges`). The failure counter stops at the largest word and never starts again
from zero, and the start period that is left never grows.
-/

namespace HealthWatch

/-- Whether all probes passed. -/
def AllPass (outcomes : List Outcome) : Prop := ∀ outcome ∈ outcomes, outcome.passed = true

/-- Whether all probes failed, in whatever way. -/
def AllFail (outcomes : List Outcome) : Prop := ∀ outcome ∈ outcomes, outcome.passed = false

namespace Health

variable (health : Health) (interval retries : UInt32)

/-- The container is healthy and nothing of a bad past is left. -/
structure Recovered (health : Health) : Prop where
  status : health.status = .healthy
  failures : health.failures = 0
  remaining : health.remaining = 0

/-! ## One tick -/

section Tick

variable (outcome : Outcome)

/-- Every tick uses up an interval of what is left of the start period. -/
theorem toNat_remaining_step :
    (health.step interval retries outcome).health.remaining.toNat =
      health.remaining.toNat - interval.toNat := by
  unfold step
  split
  · exact toNat_subSaturating _ _
  · rename_i past
    have spent : health.remaining.toNat = 0 :=
      Nat.eq_zero_of_not_pos fun left => past (UInt32.lt_iff_toNat_lt.mpr left)
    cases passed : outcome.passed with
    | true =>
        rw [verdictStep_of_passed _ _ passed]
        dsimp only
        omega
    | false =>
        rw [verdictStep_of_failed _ _ passed]
        split
        all_goals
          dsimp only
          omega

/-- Failures count after the start period, up to the largest word, and a probe that passes there
makes them start again. -/
theorem toNat_failures_step :
    (health.step interval retries outcome).health.failures.toNat =
      if 0 < health.remaining then health.failures.toNat
      else if outcome.passed then 0
      else min (health.failures.toNat + 1) (2 ^ 32 - 1) := by
  unfold step
  split
  · rfl
  · cases passed : outcome.passed with
    | true =>
        rw [verdictStep_of_passed _ _ passed]
        rfl
    | false =>
        have count := toNat_succSaturating health.failures
        rw [verdictStep_of_failed _ _ passed, if_neg Bool.false_ne_true]
        split <;> exact count

variable {health} {outcome}

/-- Inside the start period a probe only counts towards its end. -/
theorem step_of_inside (inside : 0 < health.remaining) :
    health.step interval retries outcome = health.graceStep interval outcome :=
  if_pos inside

/-- Past the start period a probe decides the status. -/
theorem step_of_past (past : health.remaining = 0) :
    health.step interval retries outcome = health.verdictStep retries outcome := by
  rw [step, past]
  rfl

/-- One passing probe past the start period recovers a health, whatever was before. -/
theorem recovered_step (past : health.remaining = 0) (passed : outcome.passed = true) :
    (health.step interval retries outcome).health.Recovered := by
  rw [step_of_past interval retries past, verdictStep_of_passed _ _ passed]
  exact ⟨rfl, rfl, past⟩

/-- A container that has recovered is left as it is by a probe that passes, which is reported. -/
theorem Recovered.step_eq (recovered : health.Recovered) (passed : outcome.passed = true) :
    health.step interval retries outcome = ⟨health, true⟩ := by
  obtain ⟨status, failures, remaining⟩ := recovered
  rw [step_of_past interval retries remaining, verdictStep_of_passed _ _ passed, ← status,
    ← failures]

/-- A failed probe that brings the failures to the threshold makes the container unhealthy, and is
reported. -/
theorem condemned_step (past : health.remaining = 0) (failed : outcome.passed = false)
    (many : retries.toNat ≤ health.failures.toNat + 1) :
    (health.step interval retries outcome).health.status = .unhealthy ∧
      (health.step interval retries outcome).report = true := by
  have bound := retries.toNat_lt
  have enough : retries ≤ succSaturating health.failures := by
    rw [UInt32.le_iff_toNat_le, toNat_succSaturating]
    omega
  rw [step_of_past interval retries past, verdictStep_of_failed _ _ failed, if_pos (.inl enough)]
  exact ⟨rfl, rfl⟩

end Tick

/-! ## Many ticks -/

theorem after_cons (outcome : Outcome) (outcomes : List Outcome) :
    health.after interval retries (outcome :: outcomes) =
      (health.step interval retries outcome).health.after interval retries outcomes :=
  rfl

theorem after_concat (outcomes : List Outcome) (outcome : Outcome) :
    health.after interval retries (outcomes ++ [outcome]) =
      ((health.after interval retries outcomes).step interval retries outcome).health :=
  List.foldl_concat _ _ _ _

/-- The last transition of a run leads to the health after it. -/
theorem getLast?_run (outcomes : List Outcome) (outcome : Outcome) :
    (run interval retries health (outcomes ++ [outcome])).getLast? =
      some ((health.after interval retries outcomes).step interval retries outcome) := by
  induction outcomes generalizing health with
  | nil => rfl
  | cons first outcomes ih =>
      rw [List.cons_append, run, List.getLast?_cons, ih, after_cons]
      rfl

/-- Each probe takes one interval off the start period, until nothing of it remains. -/
theorem toNat_remaining_after (outcomes : List Outcome) :
    (health.after interval retries outcomes).remaining.toNat =
      health.remaining.toNat - outcomes.length * interval.toNat := by
  induction outcomes generalizing health with
  | nil => simp [after]
  | cons outcome outcomes ih =>
      rw [after_cons, ih, toNat_remaining_step, List.length_cons, Nat.succ_mul]
      omega

/-- The start period does not come back. -/
theorem remaining_after_of_past (past : health.remaining = 0) (outcomes : List Outcome) :
    (health.after interval retries outcomes).remaining = 0 := by
  apply UInt32.toNat_inj.mp
  rw [toNat_remaining_after, past]
  exact Nat.zero_sub _

/-- After the start period every failed probe counts, as long as the counter can. -/
theorem toNat_failures_after (past : health.remaining = 0) {outcomes : List Outcome}
    (failing : AllFail outcomes) :
    (health.after interval retries outcomes).failures.toNat =
      min (health.failures.toNat + outcomes.length) (2 ^ 32 - 1) := by
  induction outcomes using List.reverseRecOn with
  | nil =>
      have bound := health.failures.toNat_lt
      simp only [after, List.foldl_nil, List.length_nil]
      omega
  | append_singleton outcomes outcome ih =>
      obtain ⟨failing, failed⟩ := List.forall_mem_append.mp failing
      have spent := remaining_after_of_past health interval retries past outcomes
      have last : outcome.passed = false := failed outcome (List.mem_singleton_self _)
      have before := ih failing
      rw [after_concat, toNat_failures_step, spent, last, if_neg (UInt32.lt_irrefl _),
        if_neg Bool.false_ne_true, before, List.length_append, List.length_singleton]
      omega

/-- As long as no probe passes, the counter never goes down. -/
theorem failures_le_after {outcomes : List Outcome} (failing : AllFail outcomes) :
    health.failures ≤ (health.after interval retries outcomes).failures := by
  induction outcomes generalizing health with
  | nil => exact UInt32.le_refl _
  | cons outcome outcomes ih =>
      obtain ⟨failed, failing⟩ := List.forall_mem_cons.mp failing
      refine UInt32.le_trans ?_ (ih _ failing)
      have bound := health.failures.toNat_lt
      rw [UInt32.le_iff_toNat_le, toNat_failures_step, failed]
      split
      · exact Nat.le_refl _
      · rw [if_neg Bool.false_ne_true]
        omega

/-! ## Probes that pass -/

section Passing

variable {health interval retries} {outcomes : List Outcome}

/-- More probes that pass leave a recovered container as it is, and are all reported. -/
theorem Recovered.run_eq (recovered : health.Recovered) (passing : AllPass outcomes) :
    ∀ transition ∈ run interval retries health outcomes, transition = ⟨health, true⟩ := by
  induction outcomes with
  | nil => exact List.forall_mem_nil _
  | cons outcome outcomes ih =>
      obtain ⟨passed, passing⟩ := List.forall_mem_cons.mp passing
      rw [run, recovered.step_eq interval retries passed]
      exact List.forall_mem_cons.mpr ⟨rfl, ih passing⟩

variable (positive : 0 < interval)
include positive

/-- Inside the start period the status is that of a timer which has just been started. -/
theorem starting_after (some : outcomes ≠ [])
    (inside : outcomes.length ≤ graceTicks health.remaining interval) :
    (health.after interval retries outcomes).status = .starting := by
  obtain ⟨before, last, rfl⟩ := (outcomes.eq_nil_or_concat').resolve_left some
  rw [List.length_append, List.length_singleton] at inside
  have left : 0 < (health.after interval retries before).remaining := by
    have short : ¬ graceTicks health.remaining interval ≤ before.length := by omega
    rw [graceTicks_le_iff positive] at short
    rw [UInt32.lt_iff_toNat_lt, toNat_remaining_after]
    exact Nat.sub_pos_of_lt (Nat.lt_of_not_le short)
  rw [after_concat, step_of_inside interval retries left]
  rfl

/-- As many passing probes as there are ticks in the start period, and one more, recover a
health. -/
theorem recovered_after (passing : AllPass outcomes)
    (enough : outcomes.length = graceTicks health.remaining interval + 1) :
    (health.after interval retries outcomes).Recovered := by
  have some : outcomes ≠ [] := List.ne_nil_of_length_eq_add_one enough
  obtain ⟨before, last, rfl⟩ := (outcomes.eq_nil_or_concat').resolve_left some
  rw [List.length_append, List.length_singleton] at enough
  have spent : (health.after interval retries before).remaining = 0 := by
    have past : graceTicks health.remaining interval ≤ before.length := by omega
    have used := (graceTicks_le_iff positive _).mp past
    apply UInt32.toNat_inj.mp
    rw [toNat_remaining_after]
    exact Nat.sub_eq_zero_of_le used
  rw [after_concat]
  exact recovered_step interval retries spent (passing last (by simp))

end Passing

/-! ## Probes that fail -/

section Failing

variable {health} {outcomes : List Outcome} (past : health.remaining = 0)
  (failing : AllFail outcomes)
include past failing

/-- As many failures in a row as there are retries past the start period make a health unhealthy,
and this is reported. -/
theorem condemned_after {outcome : Outcome} (failed : outcome.passed = false)
    (enough : max retries.toNat 1 ≤ outcomes.length + 1) :
    ((health.after interval retries outcomes).step interval retries outcome).health.status =
        .unhealthy ∧
      ((health.after interval retries outcomes).step interval retries outcome).report = true := by
  have bound := retries.toNat_lt
  refine condemned_step interval retries
    (remaining_after_of_past health interval retries past outcomes) failed ?_
  rw [toNat_failures_after health interval retries past failing]
  omega

/-- Every failed probe behind enough others finds the container unhealthy, and is reported. -/
theorem condemned_run {more : List Outcome} (further : AllFail more)
    (enough : max retries.toNat 1 ≤ outcomes.length + 1) :
    ∀ transition ∈ run interval retries (health.after interval retries outcomes) more,
      transition.health.status = .unhealthy ∧ transition.report = true := by
  induction more generalizing outcomes with
  | nil => exact List.forall_mem_nil _
  | cons outcome more ih =>
      obtain ⟨failed, further⟩ := List.forall_mem_cons.mp further
      rw [run, ← after_concat]
      refine List.forall_mem_cons.mpr
        ⟨condemned_after interval retries past failing failed enough, ih ?_ further ?_⟩
      · exact List.forall_mem_append.mpr ⟨failing, List.forall_mem_singleton.mpr failed⟩
      · rw [List.length_append]
        omega

end Failing

/-- What becomes of a health when probes go on passing, or go on failing, and what never becomes of
its numbers. -/
structure Converges (health : Health) (interval retries : UInt32) : Prop where
  /-- Before it recovers, a container is starting. -/
  starts : 0 < interval → ∀ outcomes, outcomes ≠ [] →
    outcomes.length ≤ graceTicks health.remaining interval →
      (health.after interval retries outcomes).status = .starting
  recovers : 0 < interval → ∀ outcomes, AllPass outcomes →
    outcomes.length = graceTicks health.remaining interval + 1 →
      (health.after interval retries outcomes).Recovered
  /-- More probes that pass change nothing, and all are reported. -/
  staysHealthy : 0 < interval → ∀ outcomes more, AllPass outcomes → AllPass more →
    outcomes.length = graceTicks health.remaining interval + 1 →
      ∀ transition ∈ run interval retries (health.after interval retries outcomes) more,
        transition = ⟨health.after interval retries outcomes, true⟩
  condemns : health.remaining = 0 → ∀ outcomes, AllFail outcomes →
    outcomes.length = max retries.toNat 1 →
      (health.after interval retries outcomes).status = .unhealthy ∧
        ∃ last, (run interval retries health outcomes).getLast? = some last ∧ last.report = true
  /-- More failed probes keep the container unhealthy, and all are reported. -/
  staysUnhealthy : health.remaining = 0 → ∀ outcomes more, AllFail outcomes → AllFail more →
    outcomes.length = max retries.toNat 1 →
      ∀ transition ∈ run interval retries (health.after interval retries outcomes) more,
        transition.health.status = .unhealthy ∧ transition.report = true
  /-- The counter stops at the largest word. -/
  counts : ∀ outcome, (health.step interval retries outcome).health.failures.toNat =
    if 0 < health.remaining then health.failures.toNat
    else if outcome.passed then 0
    else min (health.failures.toNat + 1) (2 ^ 32 - 1)
  neverWraps : ∀ outcomes, AllFail outcomes →
    health.failures ≤ (health.after interval retries outcomes).failures
  neverGrows : ∀ outcomes, (health.after interval retries outcomes).remaining ≤ health.remaining

/-- **A health forgets what it was.** From any health, enough probes of one kind lead to what that
kind calls for, and the numbers of them are exact. -/
theorem converges (health : Health) (interval retries : UInt32) :
    Converges health interval retries where
  starts positive _ := starting_after positive
  recovers positive _ := recovered_after positive
  staysHealthy positive _ _ passing further enough :=
    (recovered_after positive passing enough).run_eq further
  condemns past outcomes failing enough := by
    have some : outcomes ≠ [] := List.ne_nil_of_length_pos (by omega)
    obtain ⟨before, last, rfl⟩ := (outcomes.eq_nil_or_concat').resolve_left some
    obtain ⟨failing, failed⟩ := List.forall_mem_append.mp failing
    rw [List.length_append, List.length_singleton] at enough
    obtain ⟨unhealthy, reported⟩ := condemned_after interval retries past failing
      (failed last (List.mem_singleton_self _)) (Nat.le_of_eq enough.symm)
    rw [after_concat, getLast?_run]
    exact ⟨unhealthy, _, rfl, reported⟩
  staysUnhealthy past outcomes _ failing further enough :=
    condemned_run interval retries past failing further (by omega)
  counts := toNat_failures_step health interval retries
  neverWraps _ := failures_le_after health interval retries
  neverGrows outcomes := by
    rw [UInt32.le_iff_toNat_le, toNat_remaining_after]
    exact Nat.sub_le _ _

/-- A counter that has stopped and a start period that takes two ticks are forgotten by the third
probe that passes. -/
example : (Health.after 5 3 ⟨.unhealthy, 0xFFFFFFFF, 7, true⟩
    (List.replicate 3 (.completed 0))) = ⟨.healthy, 0, 0, true⟩ := by decide

end Health

end HealthWatch
