import Mathlib.Logic.Basic

/-! # Requirements in order

Whatever can be refused for several reasons is refused for the first of them. A `Requirement` is
a condition with what is told when it does not hold, and a list of requirements fixes which failure
is told when several do not hold (`Requirement.FirstUnmet`). A computation decides a list of
requirements when it succeeds if all of them hold and otherwise fails with the first that does not
(`Requirement.Decides`).
-/

namespace HealthWatch

/-- Something that has to hold, and the failure when it does not. -/
structure Requirement (ε : Type) where
  holds : Prop
  failure : ε

namespace Requirement

variable {ε α β : Type} {first : Requirement ε} {requirements more : List (Requirement ε)}
  {failure : ε}

def AllMet (requirements : List (Requirement ε)) : Prop :=
  ∀ requirement ∈ requirements, requirement.holds

/-- The failure is that of a requirement that does not hold, and all before it hold. -/
def FirstUnmet (requirements : List (Requirement ε)) (failure : ε) : Prop :=
  ∃ before unmet after, requirements = before ++ unmet :: after ∧
    AllMet before ∧ ¬ unmet.holds ∧ unmet.failure = failure

theorem allMet_cons : AllMet (first :: requirements) ↔ first.holds ∧ AllMet requirements :=
  List.forall_mem_cons

theorem not_firstUnmet_nil : ¬ FirstUnmet [] failure := by
  rintro ⟨before, unmet, after, split, -⟩
  exact List.cons_ne_nil _ _ (List.append_eq_nil_iff.mp split.symm).2

/-- What fails first is the first requirement, or what fails first of the others. -/
theorem firstUnmet_cons : FirstUnmet (first :: requirements) failure ↔
    (¬ first.holds ∧ first.failure = failure) ∨
      (first.holds ∧ FirstUnmet requirements failure) := by
  constructor
  · rintro ⟨before, unmet, after, split, met, fails, same⟩
    cases before with
    | nil =>
        cases split
        exact .inl ⟨fails, same⟩
    | cons earlier before =>
        obtain ⟨rfl, rfl⟩ := List.cons.inj split
        obtain ⟨holds, met⟩ := allMet_cons.mp met
        exact .inr ⟨holds, before, unmet, after, rfl, met, fails, same⟩
  · rintro (⟨fails, same⟩ | ⟨holds, before, unmet, after, rfl, met, fails, same⟩)
    · exact ⟨[], first, requirements, rfl, nofun, fails, same⟩
    · exact ⟨first :: before, unmet, after, rfl, allMet_cons.mpr ⟨holds, met⟩, fails, same⟩

/-- What fails first is in the first part, or in the second when the first part is met. -/
theorem firstUnmet_append : FirstUnmet (requirements ++ more) failure ↔
    FirstUnmet requirements failure ∨ (AllMet requirements ∧ FirstUnmet more failure) := by
  induction requirements with
  | nil => simp [not_firstUnmet_nil, AllMet]
  | cons first rest ih =>
      rw [List.cons_append, firstUnmet_cons, firstUnmet_cons, ih, allMet_cons, and_or_left,
        or_assoc, and_assoc]

/-- Of requirements that are not all met, one fails first. -/
theorem exists_firstUnmet (unmet : ¬ AllMet requirements) :
    ∃ failure, FirstUnmet requirements failure := by
  induction requirements with
  | nil => exact absurd nofun unmet
  | cons first rest ih =>
      by_cases holds : first.holds
      · obtain ⟨failure, later⟩ := ih fun met => unmet (allMet_cons.mpr ⟨holds, met⟩)
        exact ⟨failure, firstUnmet_cons.mpr (.inr ⟨holds, later⟩)⟩
      · exact ⟨first.failure, firstUnmet_cons.mpr (.inl ⟨holds, rfl⟩)⟩

/-- Where a requirement fails, not all are met. -/
theorem FirstUnmet.not_allMet (unmet : FirstUnmet requirements failure) :
    ¬ AllMet requirements := by
  obtain ⟨before, unmet, after, rfl, -, fails, -⟩ := unmet
  exact fun met => fails (met unmet (by simp))

/-- A search for a fault finds none when all requirements hold. -/
theorem eq_none_iff_allMet {fault? : Option ε}
    (found : ∀ failure, fault? = some failure ↔ FirstUnmet requirements failure) :
    fault? = none ↔ AllMet requirements := by
  constructor
  · intro none
    refine Classical.not_not.mp fun unmet => ?_
    obtain ⟨failure, first⟩ := exists_firstUnmet unmet
    rw [(found failure).mpr first] at none
    cases none
  · intro met
    refine Option.eq_none_iff_forall_ne_some.mpr fun failure same => ?_
    exact ((found failure).mp same).not_allMet met

/-- A computation succeeds when all requirements hold, and fails with the first that does not. -/
structure Decides (outcome : Except ε α) (requirements : List (Requirement ε)) : Prop where
  refused : ∀ failure, outcome = .error failure ↔ FirstUnmet requirements failure

/-- What is decided by requirements succeeds exactly when all of them are met. -/
theorem Decides.accepted {outcome : Except ε α} (decides : Decides outcome requirements) :
    (∃ value, outcome = .ok value) ↔ AllMet requirements := by
  constructor
  · rintro ⟨value, rfl⟩
    refine Classical.not_not.mp fun unmet => ?_
    obtain ⟨failure, first⟩ := exists_firstUnmet unmet
    cases (decides.refused failure).mpr first
  · intro met
    cases outcome with
    | ok value => exact ⟨value, rfl⟩
    | error failure => exact absurd met ((decides.refused failure).mp rfl).not_allMet

theorem decides_ok (value : α) : Decides (.ok value : Except ε α) [] :=
  ⟨fun _ => ⟨nofun, fun unmet => absurd unmet not_firstUnmet_nil⟩⟩

/-- A requirement that is checked first. -/
theorem Decides.cons {outcome rest : Except ε α} (decides : Decides rest requirements)
    (met : first.holds → outcome = rest) (unmet : ¬ first.holds → outcome = .error first.failure) :
    Decides outcome (first :: requirements) := by
  refine ⟨fun failure => ?_⟩
  rw [firstUnmet_cons]
  by_cases holds : first.holds
  · rw [met holds, decides.refused]
    simp [holds]
  · rw [unmet holds]
    simp [holds]

/-- A requirement that alone is left to be checked. -/
theorem decides_singleton {outcome : Except ε α} (met : first.holds → ∃ value, outcome = .ok value)
    (unmet : ¬ first.holds → outcome = .error first.failure) : Decides outcome [first] := by
  by_cases holds : first.holds
  · obtain ⟨value, same⟩ := met holds
    exact (decides_ok value).cons (fun _ => same) unmet
  · refine ⟨fun failure => ?_⟩
    rw [firstUnmet_cons, unmet holds]
    simp [holds]

/-- Two computations, of which the second goes on with the value of the first. -/
theorem Decides.bind {outcome : Except ε α} {next : α → Except ε β}
    (decides : Decides outcome requirements)
    (further : ∀ value, outcome = .ok value → Decides (next value) more) :
    Decides (outcome >>= next) (requirements ++ more) := by
  refine ⟨fun failure => ?_⟩
  rw [firstUnmet_append, ← decides.refused, ← decides.accepted]
  cases outcome with
  | error other =>
      constructor
      · intro fails
        cases fails
        exact .inl rfl
      · rintro (same | ⟨⟨_, ⟨⟩⟩, -⟩)
        cases same
        rfl
  | ok value =>
      have rest := (further value rfl).refused failure
      constructor
      · exact fun fails => .inr ⟨⟨value, rfl⟩, rest.mp fails⟩
      · rintro (⟨⟨⟩⟩ | ⟨-, unmet⟩)
        exact rest.mpr unmet

/-- When the same is required of several items, a search for the first fault of one of them finds
what is told. -/
theorem firstUnmet_map {items : List α} {requirement : α → Requirement ε} {fault? : α → Option ε}
    (same : ∀ item failure, fault? item = some failure ↔
      ¬ (requirement item).holds ∧ (requirement item).failure = failure) :
    FirstUnmet (items.map requirement) failure ↔ items.findSome? fault? = some failure := by
  induction items with
  | nil => exact ⟨fun unmet => absurd unmet not_firstUnmet_nil, nofun⟩
  | cons item rest ih =>
      rw [List.map_cons, firstUnmet_cons, ih, List.findSome?_cons, ← same]
      cases found : fault? item with
      | some other =>
          have unmet : ¬ (requirement item).holds := ((same item other).mp found).1
          simp [unmet]
      | none =>
          have met : (requirement item).holds := by
            refine Classical.not_not.mp fun unmet => ?_
            rw [(same item _).mpr ⟨unmet, rfl⟩] at found
            cases found
          simp [met]

end Requirement

end HealthWatch
