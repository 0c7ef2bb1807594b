import HealthWatch.Health.Transition
import Mathlib.Algebra.Order.Floor.Div
import Mathlib.Data.List.DropRight

/-! # The health as a function of the history

What a loop keeps between two ticks is determined by the outcomes of its probes so far.
`Health.ofHistory` reads it off them, one tick leads from a history to the next
(`Health.step_ofHistory`), and so every transition of a run is given by the history that it
ends.
-/

namespace HealthWatch

/-- The failed probes at the end of a history. -/
def failingBlock (outcomes : List Outcome) : List Outcome :=
  outcomes.rtakeWhile fun outcome => !outcome.passed

@[simp] theorem failingBlock_nil : failingBlock [] = [] := List.rtakeWhile_nil _

/-- A passing probe leaves no failures in a row. -/
theorem failingBlock_concat_of_passed (outcomes : List Outcome) {outcome : Outcome}
    (passed : outcome.passed = true) : failingBlock (outcomes ++ [outcome]) = [] := by
  apply List.rtakeWhile_concat_neg
  rw [passed]
  decide

/-- One more failure lengthens the failures in a row. -/
theorem failingBlock_concat_of_failed (outcomes : List Outcome) {outcome : Outcome}
    (failed : outcome.passed = false) :
    failingBlock (outcomes ++ [outcome]) = failingBlock outcomes ++ [outcome] := by
  apply List.rtakeWhile_concat_pos
  rw [failed]
  rfl

namespace Health

/-- The number of ticks that begin inside the start period. -/
def graceTicks (startPeriod interval : UInt32) : Nat :=
  startPeriod.toNat ⌈/⌉ interval.toNat

/-- The outcomes of a history that count, which are those after the start period. -/
def counted (startPeriod interval : UInt32) (history : List Outcome) : List Outcome :=
  history.drop (graceTicks startPeriod interval)

/-- Whether the failed probes at the end of the outcomes that count make the container
unhealthy: they are many, or one of them could not be run. -/
def Condemned (retries : UInt32) (block : List Outcome) : Prop :=
  block ≠ [] ∧ (retries.toNat ≤ block.length ∨ ∃ outcome ∈ block, outcome.isInfrastructure = true)

instance (retries : UInt32) (block : List Outcome) : Decidable (Condemned retries block) :=
  inferInstanceAs (Decidable (_ ∧ _))

/-- The status that the outcomes which count lead to. -/
def verdict (retries : UInt32) (outcomes : List Outcome) : Status :=
  if Condemned retries (failingBlock outcomes) then .unhealthy
  else if outcomes.any Outcome.passed then .healthy
  else .starting

/-- The health of a timer whose probes had the given outcomes since its start. -/
def ofHistory (startPeriod interval retries : UInt32) (history : List Outcome) : Health where
  status := verdict retries (counted startPeriod interval history)
  failures :=
    .ofNat (min (failingBlock (counted startPeriod interval history)).length (2 ^ 32 - 1))
  remaining := .ofNat (startPeriod.toNat - history.length * interval.toNat)
  announced := 0 < history.length ∧ 0 < startPeriod.toNat

/-- Whether the last tick of a history has to be reported. -/
def reportOf (startPeriod interval retries : UInt32) (before : List Outcome)
    (outcome : Outcome) : Bool :=
  if before.length < graceTicks startPeriod interval then before.isEmpty || !outcome.passed
  else
    outcome.passed || outcome.isInfrastructure ||
      retries.toNat ≤
        (failingBlock (counted startPeriod interval (before ++ [outcome]))).length

theorem toNat_ofNat_of_fits {number : Nat} (fits : number < 2 ^ 32) :
    (UInt32.ofNat number).toNat = number :=
  UInt32.toNat_ofNat_of_lt' fits

section Grace

variable {startPeriod interval : UInt32} (positive : 0 < interval)

include positive in
/-- The start period is over once the ticks have used it up. -/
theorem graceTicks_le_iff (ticks : Nat) :
    graceTicks startPeriod interval ≤ ticks ↔
      startPeriod.toNat ≤ ticks * interval.toNat := by
  have words : 0 < interval.toNat := UInt32.lt_iff_toNat_lt.mp positive
  rw [graceTicks, ceilDiv_le_iff_le_mul words, Nat.mul_comm]

theorem counted_eq_nil {history : List Outcome}
    (inside : history.length ≤ graceTicks startPeriod interval) :
    counted startPeriod interval history = [] :=
  List.drop_eq_nil_of_le inside

theorem counted_concat (outcome : Outcome) {history : List Outcome}
    (past : graceTicks startPeriod interval ≤ history.length) :
    counted startPeriod interval (history ++ [outcome]) =
      counted startPeriod interval history ++ [outcome] :=
  List.drop_append_of_le_length past

include positive in
/-- Only a start period that is not empty has ticks inside it. -/
theorem startPeriod_pos {ticks : Nat} (inside : ticks < graceTicks startPeriod interval) :
    0 < startPeriod.toNat := by
  by_contra none
  have past := (graceTicks_le_iff positive ticks).mpr
    (Nat.le_trans (Nat.le_of_not_lt none) (Nat.zero_le _))
  omega

include positive in
/-- Inside the start period something of it remains. -/
theorem ofHistory_remaining_pos (retries : UInt32) {history : List Outcome}
    (inside : history.length < graceTicks startPeriod interval) :
    0 < (ofHistory startPeriod interval retries history).remaining := by
  have left : history.length * interval.toNat < startPeriod.toNat := by
    by_contra none
    exact absurd ((graceTicks_le_iff positive _).mpr (Nat.le_of_not_lt none))
      (Nat.not_le_of_lt inside)
  have bound := startPeriod.toNat_lt
  rw [UInt32.lt_iff_toNat_lt, ofHistory, toNat_ofNat_of_fits (by omega)]
  exact Nat.sub_pos_of_lt left

include positive in
/-- Past the start period nothing of it remains. -/
theorem ofHistory_remaining_eq_zero (retries : UInt32) {history : List Outcome}
    (past : graceTicks startPeriod interval ≤ history.length) :
    (ofHistory startPeriod interval retries history).remaining = 0 := by
  have used := (graceTicks_le_iff positive _).mp past
  rw [ofHistory, Nat.sub_eq_zero_of_le used]
  rfl

end Grace

section Words

/-- Counting on saturates like the number that is counted. -/
theorem succSaturating_ofNat_min (count : Nat) :
    succSaturating (.ofNat (min count (2 ^ 32 - 1))) = .ofNat (min (count + 1) (2 ^ 32 - 1)) := by
  apply UInt32.toNat_inj.mp
  rw [toNat_succSaturating, toNat_ofNat_of_fits (by omega),
    toNat_ofNat_of_fits (by omega)]
  omega

/-- Using up more of a start period is one subtraction. -/
theorem subSaturating_ofNat_sub (startPeriod interval : UInt32) (used : Nat) :
    subSaturating (.ofNat (startPeriod.toNat - used)) interval =
      .ofNat (startPeriod.toNat - (used + interval.toNat)) := by
  have bound := startPeriod.toNat_lt
  apply UInt32.toNat_inj.mp
  rw [toNat_subSaturating, toNat_ofNat_of_fits (by omega),
    toNat_ofNat_of_fits (by omega)]
  omega

/-- A threshold is reached by the saturated count exactly when the count reaches it. -/
theorem le_ofNat_min_iff (threshold : UInt32) (count : Nat) :
    threshold ≤ .ofNat (min count (2 ^ 32 - 1)) ↔ threshold.toNat ≤ count := by
  have bound := threshold.toNat_lt
  rw [UInt32.le_iff_toNat_le, toNat_ofNat_of_fits (by omega)]
  omega

end Words

section Verdict

variable {retries : UInt32} {outcomes : List Outcome} {outcome : Outcome}

@[simp] theorem verdict_nil : verdict retries [] = .starting := by
  have clear : ¬ Condemned retries [] := fun condemned => condemned.1 rfl
  rw [verdict, failingBlock_nil, if_neg clear]
  rfl

/-- A probe that passes makes the container healthy. -/
theorem verdict_concat_of_passed (passed : outcome.passed = true) :
    verdict retries (outcomes ++ [outcome]) = .healthy := by
  have clear : ¬ Condemned retries [] := fun condemned => condemned.1 rfl
  have any : (outcomes ++ [outcome]).any Outcome.passed = true :=
    List.any_eq_true.mpr ⟨outcome, by simp, passed⟩
  rw [verdict, failingBlock_concat_of_passed _ passed, if_neg clear, if_pos any]

/-- A block that a failed probe prolongs condemns when the probe completes the count, could
not be run, or the block condemned before. -/
theorem condemned_concat_iff (block : List Outcome) :
    Condemned retries (block ++ [outcome]) ↔
      (retries.toNat ≤ block.length + 1 ∨ outcome.isInfrastructure = true) ∨
        Condemned retries block := by
  constructor
  · rintro ⟨-, many | ⟨other, member, infra⟩⟩
    · exact .inl (.inl (by simpa using many))
    · rcases List.mem_append.mp member with earlier | last
      · exact .inr ⟨List.ne_nil_of_mem earlier, .inr ⟨other, earlier, infra⟩⟩
      · rw [List.mem_singleton] at last
        exact .inl (.inr (last ▸ infra))
  · rintro ((many | infra) | ⟨-, many | ⟨other, member, infra⟩⟩)
    · exact ⟨by simp, .inl (by simpa using many)⟩
    · exact ⟨by simp, .inr ⟨outcome, by simp, infra⟩⟩
    · exact ⟨by simp, .inl (by rw [List.length_append]; omega)⟩
    · exact ⟨by simp, .inr ⟨other, List.mem_append_left _ member, infra⟩⟩

/-- A probe that fails makes the container unhealthy or leaves its status alone. -/
theorem verdict_concat_of_failed (failed : outcome.passed = false) :
    verdict retries (outcomes ++ [outcome]) =
      if retries.toNat ≤ (failingBlock outcomes).length + 1 ∨ outcome.isInfrastructure = true then
        .unhealthy
      else verdict retries outcomes := by
  have any : (outcomes ++ [outcome]).any Outcome.passed = outcomes.any Outcome.passed := by
    simp [failed]
  unfold verdict
  rw [failingBlock_concat_of_failed _ failed, any]
  by_cases now : retries.toNat ≤ (failingBlock outcomes).length + 1 ∨
      outcome.isInfrastructure = true
  · rw [if_pos now, if_pos ((condemned_concat_iff _).mpr (.inl now))]
  · rw [if_neg now]
    have same : Condemned retries (failingBlock outcomes ++ [outcome]) ↔
        Condemned retries (failingBlock outcomes) :=
      (condemned_concat_iff _).trans (or_iff_right now)
    simp only [same]

end Verdict

section Step

/-- A passing probe past the start period makes a health healthy and forgets its failures. -/
theorem verdictStep_of_passed (health : Health) (retries : UInt32) {outcome : Outcome}
    (passed : outcome.passed = true) :
    health.verdictStep retries outcome = ⟨{ health with status := .healthy, failures := 0 }, true⟩ := by
  rw [Outcome.passed_eq_true_iff.mp passed]
  rfl

/-- After the start period a probe that fails is counted, and condemns the container once
enough failed or when it could not be run. -/
theorem verdictStep_of_failed (health : Health) (retries : UInt32) {outcome : Outcome}
    (failed : outcome.passed = false) :
    health.verdictStep retries outcome =
      if retries ≤ succSaturating health.failures ∨ outcome.isInfrastructure = true then
        ⟨{ health with status := .unhealthy, failures := succSaturating health.failures }, true⟩
      else ⟨{ health with failures := succSaturating health.failures }, false⟩ := by
  cases outcome with
  | infrastructure reason =>
      rw [if_pos (.inr rfl)]
      rfl
  | completed code =>
      have nonzero : code ≠ 0 := by simpa [Outcome.passed] using failed
      simp only [verdictStep, if_neg nonzero, Outcome.isInfrastructure, Bool.false_eq_true,
        or_false]

variable {startPeriod interval : UInt32} (positive : 0 < interval) (retries : UInt32)
  (before : List Outcome) (outcome : Outcome)

include positive in
/-- A step inside the start period leads to the health of the longer history. -/
theorem step_ofHistory_of_grace (inside : before.length < graceTicks startPeriod interval) :
    (ofHistory startPeriod interval retries before).step interval retries outcome =
      ⟨ofHistory startPeriod interval retries (before ++ [outcome]),
        reportOf startPeriod interval retries before outcome⟩ := by
  have length : (before ++ [outcome]).length = before.length + 1 := by simp
  have begun := startPeriod_pos positive inside
  rw [step, if_pos (ofHistory_remaining_pos positive retries inside), graceStep, reportOf,
    if_pos inside]
  simp only [ofHistory, counted_eq_nil (Nat.le_of_lt inside),
    counted_eq_nil (length.trans_le inside), failingBlock_nil, verdict_nil,
    subSaturating_ofNat_sub, length, Nat.succ_mul, begun]
  cases before <;> simp

include positive in
/-- After the start period an outcome changes nothing but the status and the count. -/
theorem ofHistory_concat (past : graceTicks startPeriod interval ≤ before.length) :
    ofHistory startPeriod interval retries (before ++ [outcome]) =
      { ofHistory startPeriod interval retries before with
        status := verdict retries (counted startPeriod interval before ++ [outcome])
        failures := .ofNat
          (min (failingBlock (counted startPeriod interval before ++ [outcome])).length
            (2 ^ 32 - 1)) } := by
  have overAfter : graceTicks startPeriod interval ≤ (before ++ [outcome]).length := by
    rw [List.length_append]
    omega
  have spent := ofHistory_remaining_eq_zero positive retries past
  have spentAfter := ofHistory_remaining_eq_zero positive retries overAfter
  have used := (graceTicks_le_iff positive _).mp past
  have begun : 0 < startPeriod.toNat → 0 < before.length := by
    intro some
    by_contra none
    rw [Nat.eq_zero_of_not_pos none, Nat.zero_mul] at used
    omega
  simp only [ofHistory] at spent spentAfter
  simp only [ofHistory, counted_concat outcome past, spent, spentAfter, Health.mk.injEq,
    decide_eq_decide, true_and]
  rw [List.length_append]
  omega

include positive in
/-- A step past the start period leads to the health of the longer history. -/
theorem step_ofHistory_of_past (past : graceTicks startPeriod interval ≤ before.length) :
    (ofHistory startPeriod interval retries before).step interval retries outcome =
      ⟨ofHistory startPeriod interval retries (before ++ [outcome]),
        reportOf startPeriod interval retries before outcome⟩ := by
  have ended : ¬ (ofHistory startPeriod interval retries before).remaining > 0 := by
    rw [ofHistory_remaining_eq_zero positive retries past]
    decide
  rw [step, if_neg ended, reportOf, if_neg (Nat.not_lt.mpr past),
    ofHistory_concat positive retries before outcome past, counted_concat outcome past]
  cases passed : outcome.passed with
  | true =>
      rw [verdictStep_of_passed _ _ passed, verdict_concat_of_passed passed,
        failingBlock_concat_of_passed _ passed]
      simp only [Bool.true_or]
      rfl
  | false =>
      have count : succSaturating (ofHistory startPeriod interval retries before).failures =
          .ofNat (min ((failingBlock (counted startPeriod interval before)).length + 1)
            (2 ^ 32 - 1)) :=
        succSaturating_ofNat_min _
      rw [verdictStep_of_failed _ _ passed, verdict_concat_of_failed passed,
        failingBlock_concat_of_failed _ passed, count, List.length_append, List.length_singleton]
      simp only [le_ofNat_min_iff, Bool.false_or]
      split
      · rename_i condemned
        have reported : (outcome.isInfrastructure || decide (retries.toNat ≤
            (failingBlock (counted startPeriod interval before)).length + 1)) = true := by
          simpa [or_comm] using condemned
        rw [reported]
      · rename_i cleared
        have silent : (outcome.isInfrastructure || decide (retries.toNat ≤
            (failingBlock (counted startPeriod interval before)).length + 1)) = false := by
          simpa [and_comm] using cleared
        rw [silent]
        rfl

include positive in
/-- A tick leads from a history to the next. -/
theorem step_ofHistory :
    (ofHistory startPeriod interval retries before).step interval retries outcome =
      ⟨ofHistory startPeriod interval retries (before ++ [outcome]),
        reportOf startPeriod interval retries before outcome⟩ := by
  rcases Nat.lt_or_ge before.length (graceTicks startPeriod interval) with inside | past
  · exact step_ofHistory_of_grace positive retries before outcome inside
  · exact step_ofHistory_of_past positive retries before outcome past

end Step

section Run

/-- Each outcome is one tick. -/
theorem length_run (interval retries : UInt32) (health : Health) (outcomes : List Outcome) :
    (run interval retries health outcomes).length = outcomes.length := by
  induction outcomes generalizing health with
  | nil => rfl
  | cons outcome rest ih => rw [run, List.length_cons, List.length_cons, ih]

/-- A timer that has just been started has no history. -/
theorem starting_eq_ofHistory (startPeriod interval retries : UInt32) :
    starting startPeriod = ofHistory startPeriod interval retries [] := by
  have none : counted startPeriod interval [] = [] := List.drop_nil
  rw [ofHistory, none, verdict_nil, failingBlock_nil, List.length_nil, Nat.zero_mul, Nat.sub_zero,
    UInt32.ofNat_toNat]
  rfl

variable {startPeriod interval : UInt32} (positive : 0 < interval) (retries : UInt32)

include positive in
/-- Every transition of a run that goes on from a history is given by the history it ends. -/
theorem run_ofHistory (before outcomes : List Outcome) (place : Nat) (outcome : Outcome)
    (present : outcomes[place]? = some outcome) :
    (run interval retries (ofHistory startPeriod interval retries before) outcomes)[place]? =
      some ⟨ofHistory startPeriod interval retries (before ++ outcomes.take (place + 1)),
        reportOf startPeriod interval retries (before ++ outcomes.take place) outcome⟩ := by
  induction outcomes generalizing before place with
  | nil => cases present
  | cons first rest ih =>
      rw [run, step_ofHistory positive retries before first]
      cases place with
      | zero =>
          cases present
          simp
      | succ place =>
          rw [List.getElem?_cons_succ] at present ⊢
          rw [ih (before ++ [first]) place present]
          simp only [List.append_assoc, List.singleton_append, List.take_succ_cons]

end Run

/-- What a tick inside the start period comes to, by its number counted from one. -/
structure GraceTick (startPeriod interval : UInt32) (number : Nat) (outcome : Outcome)
    (transition : Transition) : Prop where
  status : transition.health.status = .starting
  failures : transition.health.failures = 0
  remaining :
    transition.health.remaining.toNat = startPeriod.toNat - number * interval.toNat
  announced : transition.health.announced = true
  report : transition.report = true ↔ number = 1 ∨ outcome.passed = false

/-- What a tick after the start period comes to, by the outcomes that count up to it. -/
structure CountedTick (startPeriod retries : UInt32) (outcomes : List Outcome)
    (outcome : Outcome) (transition : Transition) : Prop where
  remaining : transition.health.remaining = 0
  failures :
    transition.health.failures.toNat = min (failingBlock outcomes).length (2 ^ 32 - 1)
  healthy : (failingBlock outcomes).length = 0 → transition.health.status = .healthy
  unhealthy : 1 ≤ (failingBlock outcomes).length →
    (retries.toNat ≤ (failingBlock outcomes).length ∨
      ∃ failed ∈ failingBlock outcomes, failed.isInfrastructure = true) →
    transition.health.status = .unhealthy
  unchanged : 1 ≤ (failingBlock outcomes).length →
    ¬ (retries.toNat ≤ (failingBlock outcomes).length ∨
      ∃ failed ∈ failingBlock outcomes, failed.isInfrastructure = true) →
    transition.health.status =
      if ∃ earlier ∈ outcomes, earlier.passed = true then .healthy else .starting
  announced : transition.health.announced = true ↔ 0 < startPeriod
  report : transition.report = true ↔
    outcome.passed = true ∨ outcome.isInfrastructure = true ∨
      retries.toNat ≤ (failingBlock outcomes).length

section Ticks

variable {startPeriod interval : UInt32} (positive : 0 < interval) (retries : UInt32)
  (before : List Outcome) (outcome : Outcome)

include positive in
/-- A tick inside the start period is what its place and its outcome make of it. -/
theorem graceTick_of_inside (inside : before.length < graceTicks startPeriod interval) :
    GraceTick startPeriod interval (before.length + 1) outcome
      ⟨ofHistory startPeriod interval retries (before ++ [outcome]),
        reportOf startPeriod interval retries before outcome⟩ := by
  have length : (before ++ [outcome]).length = before.length + 1 := by simp
  have nothing : counted startPeriod interval (before ++ [outcome]) = [] :=
    counted_eq_nil (length.trans_le inside)
  have begun := startPeriod_pos positive inside
  have bound := startPeriod.toNat_lt
  constructor
  · rw [ofHistory, nothing, verdict_nil]
  · rw [ofHistory, nothing]
    rfl
  · rw [ofHistory, toNat_ofNat_of_fits (by omega), length]
  · simp only [ofHistory, length, begun, Nat.succ_pos, and_self, decide_true]
  · rw [reportOf, if_pos inside]
    cases before <;> simp

include positive in
/-- A tick past the start period is what the counted outcomes up to it make of it. -/
theorem countedTick_of_past (past : graceTicks startPeriod interval ≤ before.length) :
    CountedTick startPeriod retries (counted startPeriod interval (before ++ [outcome])) outcome
      ⟨ofHistory startPeriod interval retries (before ++ [outcome]),
        reportOf startPeriod interval retries before outcome⟩ := by
  have overAfter : graceTicks startPeriod interval ≤ (before ++ [outcome]).length := by
    rw [List.length_append]
    omega
  constructor
  case remaining => exact ofHistory_remaining_eq_zero positive retries overAfter
  case failures => rw [ofHistory, toNat_ofNat_of_fits (by omega)]
  case healthy =>
    intro none
    rw [counted_concat outcome past, List.length_eq_zero_iff] at none
    have passed : outcome.passed = true := by
      by_contra failed
      rw [failingBlock_concat_of_failed _ (Bool.eq_false_of_not_eq_true failed)] at none
      exact List.append_ne_nil_of_right_ne_nil _ (List.cons_ne_nil _ _) none
    rw [ofHistory, counted_concat outcome past, verdict_concat_of_passed passed]
  case unhealthy =>
    intro some condemned
    exact if_pos ⟨List.ne_nil_of_length_pos some, condemned⟩
  case unchanged =>
    intro _ cleared
    rw [ofHistory, verdict, if_neg fun condemned => cleared condemned.2]
    simp only [List.any_eq_true]
  case announced =>
    simp only [ofHistory, List.length_append, List.length_singleton, Nat.succ_pos, true_and,
      decide_eq_true_eq]
    rw [UInt32.lt_iff_toNat_lt]
    rfl
  case report =>
    rw [reportOf, if_neg (Nat.not_lt.mpr past)]
    simp only [Bool.or_eq_true, decide_eq_true_eq, or_assoc]

end Ticks

/-- Every tick of a run is given in closed form by the outcomes up to it: inside the start
period by its number, after the start period by the failed probes that it ends. -/
theorem run_starting (startPeriod interval retries : UInt32) (positive : 0 < interval)
    (outcomes : List Outcome) :
    (run interval retries (starting startPeriod) outcomes).length = outcomes.length ∧
      ∀ place outcome, outcomes[place]? = some outcome →
        ∃ transition,
          (run interval retries (starting startPeriod) outcomes)[place]? = some transition ∧
          (place + 1 ≤ graceTicks startPeriod interval →
            GraceTick startPeriod interval (place + 1) outcome transition) ∧
          (graceTicks startPeriod interval < place + 1 →
            CountedTick startPeriod retries
              (counted startPeriod interval (outcomes.take (place + 1))) outcome transition) := by
  refine ⟨length_run _ _ _ _, ?_⟩
  intro place outcome present
  have made : (run interval retries (ofHistory startPeriod interval retries []) outcomes)[place]? =
      some _ :=
    run_ofHistory positive retries [] outcomes place outcome present
  obtain ⟨within, -⟩ := List.getElem?_eq_some_iff.mp present
  have length : (outcomes.take place).length = place := List.length_take_of_le (by omega)
  have taken : outcomes.take (place + 1) = outcomes.take place ++ [outcome] := by
    rw [List.take_add_one, present]
    rfl
  rw [← starting_eq_ofHistory, List.nil_append, List.nil_append, taken] at made
  refine ⟨_, made, ?_, ?_⟩
  · intro inside
    have tick := graceTick_of_inside positive retries (outcomes.take place) outcome
      (length.trans_lt inside)
    rwa [length] at tick
  · intro past
    rw [taken]
    exact countedTick_of_past positive retries (outcomes.take place) outcome
      ((Nat.le_of_lt_succ past).trans_eq length.symm)

/-- Two ticks of grace, a success and two failures of which the second could not be run. -/
theorem run_starting_third_failure :
    (0 : UInt32) < 2 ∧
      ∃ transition,
        (run 2 9 (starting 3)
          [.completed 1, .completed 0, .completed 0, .completed 1, .infrastructure "fork"])[4]? =
            some transition ∧
        transition.health.status = .unhealthy ∧ transition.health.failures.toNat = 2 ∧
        transition.report = true := by
  have positive : (0 : UInt32) < 2 := by decide
  obtain ⟨transition, made, -, past⟩ := (run_starting 3 2 9 positive
    [.completed 1, .completed 0, .completed 0, .completed 1, .infrastructure "fork"]).2 4
      (.infrastructure "fork") rfl
  have tick := past (by decide)
  refine ⟨positive, transition, made, ?_, ?_, ?_⟩
  · exact tick.unhealthy (by decide) (by decide)
  · exact tick.failures
  · exact tick.report.mpr (by decide)

end Health

end HealthWatch
