import HealthWatch.Proofs.Healthcheck.Annotations

/-! # What checked values are worth

The values of a healthcheck are judged in one place: either all of them are kept as they are, or the
first that is wrong is named in a failure (`Healthcheck.judged`).
-/

namespace HealthWatch

open Requirement

/-- A part stands in a text as it is. -/
def Mentions (text part : String) : Prop := ∃ before after, text = before ++ part ++ after

namespace Mentions

variable {text part : String}

theorem refl (text : String) : Mentions text text :=
  ⟨"", "", by rw [String.append_empty, String.empty_append]⟩

/-- A part stays in a text when more is put in front of it. -/
theorem front (mentions : Mentions text part) (more : String) : Mentions (more ++ text) part := by
  obtain ⟨before, after, rfl⟩ := mentions
  exact ⟨more ++ before, after, by simp only [String.append_assoc]⟩

/-- A part stays in a text when more is put behind it. -/
theorem back (mentions : Mentions text part) (more : String) : Mentions (text ++ more) part := by
  obtain ⟨before, after, rfl⟩ := mentions
  exact ⟨before, after ++ more, by simp only [String.append_assoc]⟩

end Mentions

namespace HealthcheckFault

/-- What a failure to check values is about: an argument as it is quoted, or a field with the value
that it was given and the bounds that it leaves. -/
def subjects : HealthcheckFault → List String
  | nulInArgument argument => [Text.quote argument]
  | outOfBounds field low high value => [field, toString low, toString high, toString value]
  | outOfRange field value => [field, toString value]
  | _ => []

/-- The message of a fault mentions what the fault is about. -/
theorem mentions_message (fault : HealthcheckFault) :
    ∀ part ∈ fault.subjects, Mentions fault.message part := by
  intro part member
  unfold message
  cases fault with
  | nulInArgument argument =>
      rw [List.mem_singleton.mp member]
      exact ((Mentions.refl _).front _).back _
  | outOfBounds field low high value =>
      rcases member with _ | ⟨_, _ | ⟨_, _ | ⟨_, _ | ⟨_, ⟨⟩⟩⟩⟩⟩
      · exact ((((((Mentions.refl _).back _).back _).back _).back _).back _).back _
      · exact (((((Mentions.refl _).front _).back _).back _).back _).back _
      · exact (((Mentions.refl _).front _).back _).back _
      · exact (Mentions.refl _).front _
  | outOfRange field value =>
      rcases member with _ | ⟨_, _ | ⟨_, ⟨⟩⟩⟩
      · exact ((Mentions.refl _).back _).back _
      · exact (Mentions.refl _).front _
  | _ => cases member

end HealthcheckFault

namespace Healthcheck

/-- What checking the values of a healthcheck comes to. -/
structure Judged (test : List String) (interval timeout startPeriod retries : Int) : Prop where
  accepted : (∃ check, ofValues test interval timeout startPeriod retries = .ok check) ↔
    AllMet (requirements test interval timeout startPeriod retries)
  /-- The healthcheck is enabled and holds exactly the values. -/
  kept : ∀ check, ofValues test interval timeout startPeriod retries = .ok check →
    Annotations.Keeps ⟨test, interval, timeout, startPeriod, retries⟩ test check
  refused : ∀ fault, ofValues test interval timeout startPeriod retries = .error fault ↔
    FirstUnmet (requirements test interval timeout startPeriod retries) fault

/-- What checking one number against any bounds comes to. -/
structure Ranged (field : String) (value : Int) (bounds : Bounds) : Prop where
  accepted : (∃ word, checkRange field value bounds = .ok word) ↔
    (bounds.low ≤ value ∧ value ≤ bounds.high) ∧ 0 ≤ value ∧ value < 0x100000000
  kept : ∀ word, checkRange field value bounds = .ok word → (word.toNat : Int) = value
  refused : ∀ fault, checkRange field value bounds = .error fault ↔
    FirstUnmet [within field bounds value, isWord field value] fault

/-- Values are accepted exactly when they meet their requirements, and the first that is not met is
told. -/
theorem judged (test : List String) (interval timeout startPeriod retries : Int) :
    Judged test interval timeout startPeriod retries where
  accepted := (decides_ofValues test interval timeout startPeriod retries).accepted
  kept check made := by
    obtain ⟨-, interval, timeout, startPeriod, retries, test, enabled⟩ :=
      ofValues_eq_ok_iff.mp made
    exact ⟨enabled, test, (checkRange_eq_ok.mp interval).2, (checkRange_eq_ok.mp timeout).2,
      (checkRange_eq_ok.mp startPeriod).2, (checkRange_eq_ok.mp retries).2⟩
  refused := (decides_ofValues test interval timeout startPeriod retries).refused

/-- A number is accepted exactly when it is inside its bounds and fits a word, which then keeps
it. -/
theorem ranged (field : String) (value : Int) (bounds : Bounds) : Ranged field value bounds where
  accepted := by
    rw [(decides_checkRange field value bounds).accepted, allMet_cons, allMet_cons]
    exact and_congr_right fun _ => and_iff_left nofun
  kept word checked := (checkRange_eq_ok.mp checked).2
  refused := (decides_checkRange field value bounds).refused

end Healthcheck

end HealthWatch
