import HealthWatch.Proofs.Health.History

/-! # Stricter and more lenient healthchecks

A healthcheck is more lenient than another when its start period is at least as long, its
interval at most as long, and it forgives at least as many failures in a row. On the same
outcomes the lenient one counts fewer of them (`Tolerance.Covers.counted_suffix`), so the failed
probes that condemn a container under it are among those that the strict one counts
(`Tolerance.Covers.condemned`), and it never finds a container unhealthy that the strict one does
not (`Tolerance.Covers.unhealthy_of_lenient`).
-/

namespace HealthWatch

/-- The failed probes at the end of a history are among those at the end of a longer one. -/
theorem failingBlock_append (earlier outcomes : List Outcome) :
    failingBlock outcomes <:+ failingBlock (earlier ++ outcomes) := by
  induction outcomes using List.reverseRecOn with
  | nil =>
      rw [failingBlock_nil]
      exact List.nil_suffix
  | append_singleton rest outcome further =>
      rw [← List.append_assoc]
      cases passed : outcome.passed with
      | true =>
          rw [failingBlock_concat_of_passed _ passed, failingBlock_concat_of_passed _ passed]
      | false =>
          rw [failingBlock_concat_of_failed _ passed, failingBlock_concat_of_failed _ passed]
          exact List.suffix_append_self_iff.mpr further

/-- A block that condemns a container does so as a part of a longer one, and where fewer failures
are forgiven. -/
theorem Health.Condemned.mono {retries fewer : UInt32} {block longer : List Outcome}
    (condemned : Condemned retries block) (part : block <:+ longer) (fewer_le : fewer ≤ retries) :
    Condemned fewer longer := by
  obtain ⟨some, many | ⟨outcome, member, infra⟩⟩ := condemned
  · have enough : fewer.toNat ≤ longer.length :=
      ((UInt32.le_iff_toNat_le.mp fewer_le).trans many).trans part.length_le
    exact ⟨fun none => some (List.suffix_nil.mp (none ▸ part)), .inl enough⟩
  · exact ⟨List.ne_nil_of_mem (part.mem member), .inr ⟨outcome, part.mem member, infra⟩⟩

/-- What a healthcheck puts up with before it finds a container unhealthy. -/
structure Tolerance where
  startPeriod : UInt32
  interval : UInt32
  retries : UInt32
  positive : 0 < interval

namespace Tolerance

open Health

/-- The transitions that outcomes make in a timer that has just been started. -/
def run (tolerance : Tolerance) (outcomes : List Outcome) : List Transition :=
  Health.run tolerance.interval tolerance.retries (starting tolerance.startPeriod) outcomes

/-- One healthcheck puts up with all that another one puts up with. -/
structure Covers (lenient strict : Tolerance) : Prop where
  startPeriod : strict.startPeriod ≤ lenient.startPeriod
  interval : lenient.interval ≤ strict.interval
  retries : strict.retries ≤ lenient.retries

/-- The outcomes of a history that count. -/
def counted (tolerance : Tolerance) (history : List Outcome) : List Outcome :=
  Health.counted tolerance.startPeriod tolerance.interval history

/-- The transition that ends a history. -/
def transition (tolerance : Tolerance) (before : List Outcome) (outcome : Outcome) : Transition :=
  ⟨ofHistory tolerance.startPeriod tolerance.interval tolerance.retries (before ++ [outcome]),
    reportOf tolerance.startPeriod tolerance.interval tolerance.retries before outcome⟩

/-- A tick of a run is the transition from the outcomes before it. -/
theorem run_getElem? (tolerance : Tolerance) {outcomes : List Outcome} {place : Nat}
    {outcome : Outcome} (present : outcomes[place]? = some outcome) :
    (tolerance.run outcomes)[place]? =
      some (tolerance.transition (outcomes.take place) outcome) := by
  have taken : outcomes.take (place + 1) = outcomes.take place ++ [outcome] := by
    rw [List.take_add_one, present]
    rfl
  rw [run, starting_eq_ofHistory tolerance.startPeriod tolerance.interval tolerance.retries,
    run_ofHistory tolerance.positive _ _ _ _ _ present, List.nil_append, List.nil_append, taken]
  rfl

/-- A container is unhealthy when the counted failures in a row condemn it. -/
theorem status_eq_unhealthy_iff (tolerance : Tolerance) (before : List Outcome)
    (outcome : Outcome) :
    (tolerance.transition before outcome).health.status = .unhealthy ↔
      Condemned tolerance.retries
        (failingBlock (tolerance.counted (before ++ [outcome]))) := by
  change verdict _ _ = .unhealthy ↔ _
  rw [verdict]
  split
  · rename_i condemned
    exact ⟨fun _ => condemned, fun _ => rfl⟩
  · rename_i cleared
    refine ⟨?_, fun condemned => absurd condemned cleared⟩
    split <;> intro same <;> cases same

namespace Covers

variable {lenient strict : Tolerance} (covers : lenient.Covers strict)
include covers

/-- The start period of the strict healthcheck is over first. -/
theorem graceTicks_le : graceTicks strict.startPeriod strict.interval ≤
    graceTicks lenient.startPeriod lenient.interval := by
  rw [graceTicks_le_iff strict.positive]
  calc strict.startPeriod.toNat
      ≤ lenient.startPeriod.toNat := UInt32.le_iff_toNat_le.mp covers.startPeriod
    _ ≤ graceTicks lenient.startPeriod lenient.interval * lenient.interval.toNat :=
        (graceTicks_le_iff lenient.positive _).mp le_rfl
    _ ≤ graceTicks lenient.startPeriod lenient.interval * strict.interval.toNat :=
        Nat.mul_le_mul_left _ (UInt32.le_iff_toNat_le.mp covers.interval)

/-- What counts for the lenient healthcheck counts for the strict one. -/
theorem counted_suffix (history : List Outcome) :
    lenient.counted history <:+ strict.counted history :=
  List.drop_suffix_drop_left history covers.graceTicks_le

/-- The failures in a row that a lenient tolerance counts end those that a strict one counts. -/
theorem failingBlock_suffix (history : List Outcome) :
    failingBlock (lenient.counted history) <:+ failingBlock (strict.counted history) := by
  obtain ⟨earlier, same⟩ := covers.counted_suffix history
  rw [← same]
  exact failingBlock_append earlier _

/-- What a lenient tolerance condemns, a strict one condemns as well. -/
theorem condemned {history : List Outcome}
    (condemned : Condemned lenient.retries (failingBlock (lenient.counted history))) :
    Condemned strict.retries (failingBlock (strict.counted history)) :=
  condemned.mono (covers.failingBlock_suffix history) covers.retries

/-- With the same start period and interval the strict healthcheck reports whatever the lenient
one reports. -/
theorem report (startPeriod : strict.startPeriod = lenient.startPeriod)
    (interval : strict.interval = lenient.interval) {before : List Outcome} {outcome : Outcome}
    (reported : (lenient.transition before outcome).report = true) :
    (strict.transition before outcome).report = true := by
  simp only [transition, reportOf, startPeriod, interval] at reported ⊢
  by_cases inside : before.length < graceTicks lenient.startPeriod lenient.interval
  · rw [if_pos inside] at reported ⊢
    exact reported
  · rw [if_neg inside] at reported ⊢
    simp only [Bool.or_eq_true, decide_eq_true_eq] at reported ⊢
    exact reported.imp_right fun many =>
      (UInt32.le_iff_toNat_le.mp covers.retries).trans many

/-- On the same outcomes a container is unhealthy under the strict healthcheck whenever it is so
under the lenient one. If they differ in their retries only, whatever the lenient one reports the
strict one reports. -/
theorem unhealthy_of_lenient (outcomes : List Outcome) (place : Nat) (tick : Transition)
    (made : (lenient.run outcomes)[place]? = some tick) :
    ∃ stricter, (strict.run outcomes)[place]? = some stricter ∧
      (tick.health.status = .unhealthy → stricter.health.status = .unhealthy) ∧
      (strict.startPeriod = lenient.startPeriod → strict.interval = lenient.interval →
        tick.report = true → stricter.report = true) := by
  obtain ⟨within, -⟩ := List.getElem?_eq_some_iff.mp made
  rw [run, length_run] at within
  have present : outcomes[place]? = some outcomes[place] := List.getElem?_eq_getElem within
  rw [run_getElem? lenient present] at made
  cases made
  refine ⟨_, run_getElem? strict present, ?_, ?_⟩
  · intro unhealthy
    rw [status_eq_unhealthy_iff] at unhealthy ⊢
    exact covers.condemned unhealthy
  · intro startPeriod interval reported
    exact covers.report startPeriod interval reported

end Covers

/-- A healthcheck whose start period takes two ticks. -/
def patient : Tolerance := ⟨10, 5, 2, by decide⟩

/-- A healthcheck whose start period is over after one tick. -/
def hasty : Tolerance := ⟨3, 7, 1, by decide⟩

/-- The fourth of four failures, of which the patient healthcheck counts two and the hasty one
three. -/
theorem unhealthy_of_patient :
    let outcomes := List.replicate 4 (Outcome.completed 1)
    let tick : Transition := ⟨⟨.unhealthy, 2, 0, true⟩, true⟩
    patient.Covers hasty ∧ (patient.run outcomes)[3]? = some tick ∧
      ∃ stricter, (hasty.run outcomes)[3]? = some stricter ∧
        stricter.health.status = .unhealthy := by
  have covers : patient.Covers hasty := ⟨by decide, by decide, by decide⟩
  have made : (patient.run (List.replicate 4 (.completed 1)))[3]? =
      some ⟨⟨.unhealthy, 2, 0, true⟩, true⟩ := by decide
  obtain ⟨stricter, same, unhealthy, -⟩ := covers.unhealthy_of_lenient _ 3 _ made
  exact ⟨covers, made, stricter, same, unhealthy rfl⟩

end Tolerance

end HealthWatch
