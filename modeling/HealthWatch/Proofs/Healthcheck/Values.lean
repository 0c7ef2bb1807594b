import HealthWatch.Healthcheck
import HealthWatch.Proofs.Except
import HealthWatch.Proofs.Requirements

/-! # Checked values

A healthcheck is made of a command and four numbers. They are checked in a fixed order, and the
first one that is not as it has to be is told (`Healthcheck.decides_ofValues`). When all of them
are, the healthcheck holds them as they are (`Healthcheck.ofValues_eq_ok_iff`), so its numbers are
inside their bounds and it can be run (`Healthcheck.Made.sound`, `Healthcheck.Made.runnable`).
-/

namespace HealthWatch

namespace Healthcheck

/-- A command can be run when it has a program and no NUL in it. -/
theorem testFault?_eq_none {test : List String} :
    testFault? test = none ↔
      (∃ program arguments, test = program :: arguments ∧ program ≠ "") ∧
        ∀ argument ∈ test, '\x00' ∉ argument.toList := by
  cases test with
  | nil =>
      constructor
      · intro sound
        cases sound
      · rintro ⟨⟨program, arguments, same, -⟩, -⟩
        cases same
  | cons program arguments =>
      have absent :
          ((program :: arguments).find? holdsNul).map HealthcheckFault.nulInArgument = none ↔
          ∀ argument ∈ program :: arguments, '\x00' ∉ argument.toList := by
        simp only [Option.map_eq_none_iff, List.find?_eq_none, holdsNul, List.contains_eq_mem,
          decide_eq_true_eq]
      rw [testFault?, ← absent]
      split
      · rename_i empty
        constructor
        · intro sound
          cases sound
        · rintro ⟨⟨_, _, same, nonempty⟩, -⟩
          cases same
          exact absurd (String.isEmpty_iff.mp empty) nonempty
      · rename_i nonempty
        constructor
        · intro sound
          exact ⟨⟨program, arguments, rfl,
            fun empty => nonempty (String.isEmpty_iff.mpr empty)⟩, sound⟩
        · exact And.right

/-- The numbers inside the bounds are accepted, each as the word with its value. -/
theorem checkRange_eq_ok {field : String} {value : Int} {bounds : Bounds} {word : UInt32} :
    checkRange field value bounds = .ok word ↔
      (bounds.low ≤ value ∧ value ≤ bounds.high) ∧ (word.toNat : Int) = value := by
  rw [checkRange]
  by_cases inside : bounds.low ≤ value ∧ value ≤ bounds.high
  · rw [if_pos inside]
    by_cases isWord : 0 ≤ value ∧ value < 0x100000000
    · rw [if_pos isWord]
      constructor
      · intro accepted
        cases accepted
        refine ⟨inside, ?_⟩
        rw [UInt32.toNat_ofNat']
        omega
      · rintro ⟨-, same⟩
        have : value.toNat = word.toNat := by omega
        rw [this, UInt32.ofNat_toNat]
    · rw [if_neg isWord]
      refine ⟨nofun, fun ⟨_, same⟩ => absurd ?_ isWord⟩
      have := word.toNat_lt
      omega
  · rw [if_neg inside]
    exact ⟨nofun, fun ⟨other, _⟩ => absurd other inside⟩

/-- A word that was accepted is inside the bounds. -/
theorem bounds_of_checkRange {field : String} {value : Int} {bounds : Bounds} {word : UInt32}
    (checked : checkRange field value bounds = .ok word) :
    bounds.low ≤ word.toNat ∧ word.toNat ≤ bounds.high := by
  obtain ⟨inside, same⟩ := checkRange_eq_ok.mp checked
  rwa [same]

/-- A healthcheck is made of values exactly when each of them is accepted, and keeps what was
accepted. -/
theorem ofValues_eq_ok_iff {test : List String} {interval timeout startPeriod retries : Int}
    {check : Healthcheck} :
    ofValues test interval timeout startPeriod retries = .ok check ↔
      testFault? test = none ∧
        checkRange "interval" interval intervalBounds = .ok check.interval ∧
        checkRange "timeout" timeout timeoutBounds = .ok check.timeout ∧
        checkRange "start_period" startPeriod startPeriodBounds = .ok check.startPeriod ∧
        checkRange "retries" retries retriesBounds = .ok check.retries ∧
        check.test = test ∧ check.enabled = true := by
  unfold ofValues
  cases testFault? test with
  | some fault => exact ⟨nofun, nofun⟩
  | none =>
      simp only [bind_eq_ok, true_and]
      constructor
      · rintro ⟨_, interval, _, timeout, _, startPeriod, _, retries, ⟨⟩⟩
        exact ⟨interval, timeout, startPeriod, retries, rfl, rfl⟩
      · rintro ⟨interval, timeout, startPeriod, retries, same, enabled⟩
        refine ⟨_, interval, _, timeout, _, startPeriod, _, retries, ?_⟩
        rw [← same, ← enabled]

open Requirement

/-- What a command has to be. -/
def testRequirements (test : List String) : List (Requirement HealthcheckFault) :=
  ⟨test ≠ [], .emptyTest⟩ :: ⟨test.head? ≠ some "", .emptyProgram⟩ ::
    test.map fun argument => ⟨'\x00' ∉ argument.toList, .nulInArgument argument⟩

/-- A number has to be inside its bounds. -/
def within (field : String) (bounds : Bounds) (value : Int) : Requirement HealthcheckFault :=
  ⟨bounds.low ≤ value ∧ value ≤ bounds.high, .outOfBounds field bounds.low bounds.high value⟩

/-- A number has to be a word. -/
def isWord (field : String) (value : Int) : Requirement HealthcheckFault :=
  ⟨0 ≤ value ∧ value < 0x100000000, .outOfRange field value⟩

/-- What the values of a healthcheck have to be, in the order in which they are checked. -/
def requirements (test : List String) (interval timeout startPeriod retries : Int) :
    List (Requirement HealthcheckFault) :=
  testRequirements test ++
    [within "interval" ⟨1, 3600⟩ interval, within "timeout" ⟨1, 300⟩ timeout,
      within "start_period" ⟨0, 3600⟩ startPeriod, within "retries" ⟨0, 100⟩ retries]

/-- The fault of a command is the first of its requirements that is not met. -/
theorem testFault?_eq_some {test : List String} {fault : HealthcheckFault} :
    testFault? test = some fault ↔ FirstUnmet (testRequirements test) fault := by
  have finds (argument : String) (fault : HealthcheckFault) :
      (Option.map .nulInArgument ∘ Option.guard holdsNul) argument = some fault ↔
        ¬ '\x00' ∉ argument.toList ∧ .nulInArgument argument = fault := by
    simp [Option.guard, holdsNul]
  rw [testRequirements, firstUnmet_cons, firstUnmet_cons, firstUnmet_map finds,
    ← List.map_findSome?, ← List.find?_eq_findSome?_guard]
  cases test with
  | nil => simp [testFault?]
  | cons program arguments =>
      rw [testFault?]
      by_cases empty : program = ""
      · simp [empty]
      · simp [empty]

/-- A number is checked against its bounds first, and then for its size. -/
theorem decides_checkRange (field : String) (value : Int) (bounds : Bounds) :
    Decides (checkRange field value bounds) [within field bounds value, isWord field value] := by
  rw [checkRange]
  exact ((decides_ok _).cons (if_pos ·) (if_neg ·)).cons (if_pos ·) (if_neg ·)

/-- Inside bounds that are words there is nothing else to check. -/
theorem decides_checkRange_of_words (field : String) (value : Int) (bounds : Bounds)
    (words : 0 ≤ bounds.low ∧ bounds.high < 0x100000000) :
    Decides (checkRange field value bounds) [within field bounds value] := by
  refine ⟨fun fault => ?_⟩
  rw [(decides_checkRange field value bounds).refused, firstUnmet_cons, firstUnmet_cons,
    firstUnmet_cons]
  have implied : (within field bounds value).holds → (isWord field value).holds := by
    rintro ⟨low, high⟩
    exact ⟨by omega, by omega⟩
  simp only [not_firstUnmet_nil, and_false, or_false]
  constructor
  · rintro (outside | ⟨inside, notWord, -⟩)
    · exact outside
    · exact absurd (implied inside) notWord
  · exact .inl

/-- The values of a healthcheck are checked in a fixed order. -/
theorem decides_ofValues (test : List String) (interval timeout startPeriod retries : Int) :
    Decides (ofValues test interval timeout startPeriod retries)
      (requirements test interval timeout startPeriod retries) := by
  refine ⟨fun fault => ?_⟩
  rw [requirements, firstUnmet_append, ← eq_none_iff_allMet fun _ => testFault?_eq_some,
    ← testFault?_eq_some, ofValues]
  cases testFault? test with
  | some other => simp
  | none =>
      simp only [reduceCtorEq, false_or, true_and]
      refine Decides.refused ?_ fault
      refine (decides_checkRange_of_words _ interval intervalBounds (by decide)).bind fun _ _ => ?_
      refine (decides_checkRange_of_words _ timeout timeoutBounds (by decide)).bind fun _ _ => ?_
      refine (decides_checkRange_of_words _ startPeriod startPeriodBounds (by decide)).bind
        fun _ _ => ?_
      refine (decides_checkRange_of_words _ retries retriesBounds (by decide)).bind fun _ _ => ?_
      exact decides_ok _

/-- Of several values that are wrong, the first is told. -/
example : ofValues ["true"] 0 301 (-1) 101 = .error (.outOfBounds "interval" 1 3600 0) := rfl

/-! ## Made healthchecks -/

/-- A healthcheck whose numbers are inside their bounds, and that has a command if it is enabled. -/
structure Sound (check : Healthcheck) : Prop where
  interval : 1 ≤ check.interval.toNat ∧ check.interval.toNat ≤ 3600
  timeout : 1 ≤ check.timeout.toNat ∧ check.timeout.toNat ≤ 300
  startPeriod : check.startPeriod.toNat ≤ 3600
  retries : check.retries.toNat ≤ 100
  runs : check.enabled = true → check.test ≠ []

/-- A healthcheck that was made of checked values. -/
def Made (check : Healthcheck) : Prop :=
  ∃ test interval timeout startPeriod retries,
    ofValues test interval timeout startPeriod retries = .ok check

namespace Made

variable {check : Healthcheck}

/-- What is made can be run, since its command is one that has a program. -/
theorem runnable (made : check.Made) : check.runnable = true := by
  obtain ⟨test, interval, timeout, startPeriod, retries, made⟩ := made
  obtain ⟨sound, -, -, -, -, same, enabled⟩ := ofValues_eq_ok_iff.mp made
  obtain ⟨⟨program, arguments, form, -⟩, -⟩ := testFault?_eq_none.mp sound
  rw [Healthcheck.runnable, enabled, same, form]
  rfl

/-- A healthcheck that was made of checked values is inside all bounds. -/
theorem sound (made : check.Made) : check.Sound := by
  have runs : check.test ≠ [] := by
    have runnable := made.runnable
    rw [Healthcheck.runnable, Bool.and_eq_true, Bool.not_eq_true',
      List.isEmpty_eq_false_iff] at runnable
    exact runnable.2
  obtain ⟨test, interval, timeout, startPeriod, retries, made⟩ := made
  obtain ⟨-, interval, timeout, startPeriod, retries, -⟩ := ofValues_eq_ok_iff.mp made
  have interval := bounds_of_checkRange interval
  have timeout := bounds_of_checkRange timeout
  exact ⟨⟨Int.ofNat_le.mp interval.1, Int.ofNat_le.mp interval.2⟩,
    ⟨Int.ofNat_le.mp timeout.1, Int.ofNat_le.mp timeout.2⟩,
    Int.ofNat_le.mp (bounds_of_checkRange startPeriod).2,
    Int.ofNat_le.mp (bounds_of_checkRange retries).2, fun _ => runs⟩

end Made

end Healthcheck

end HealthWatch
