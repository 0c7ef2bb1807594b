import HealthWatch.Proofs.Registry.Stopping
import HealthWatch.Registry.Ward
import Mathlib.Data.Fintype.EquivFin

/-! # A supervision is made of steps

Each function of a supervision leads from the supervision of a custody to the supervision of one
that steps lead to (`Custody.simulates_act`). So whatever holds of every custody that can be
reached holds of every ward (`Custody.simulates_actAll`).
-/

namespace HealthWatch

namespace Custody

/-- Whether what a supervision came to is what steps of a custody lead to. -/
def Simulates (custody : Custody) (supervision : Supervision) : Prop :=
  ∃ later, custody.Leads later ∧ later.supervision = supervision ∧ supervision.Settled

section Calls

variable {custody : Custody} {seen : List CustodyEvent} (balanced : Balanced custody seen)
  (settled : custody.supervision.Settled)

/-- There is always a thread that is in no call. -/
theorem exists_idle (custody : Custody) : ∃ caller, custody.busy caller = false := by
  obtain ⟨caller, new⟩ := Infinite.exists_notMem_finset
    (custody.removals.map Removal.caller).toFinset
  refine ⟨caller, ?_⟩
  rw [busy, List.any_eq_false]
  intro removal member same
  rw [decide_eq_true_eq] at same
  exact new (List.mem_toFinset.mpr (same ▸ List.mem_map_of_mem member))

include settled in
/-- In a settled custody every call has timers left to stop. -/
theorem charges_ne_nil_of_settled {removal : Removal} (member : removal ∈ custody.removals) :
    removal.charges ≠ [] := by
  have waits := settled removal.stopCall (List.mem_map_of_mem member)
  simpa [StopCall.finished, Removal.stopCall] using waits

include settled in
/-- Registering is one step. -/
theorem simulates_register {now : Int} {container : String} {check : Healthcheck}
    {supervision : Supervision} {snapshot : Snapshot}
    (registered : custody.supervision.register now container check =
      .ok (supervision, snapshot)) : custody.Simulates supervision := by
  obtain ⟨caller, idle⟩ := exists_idle custody
  have step := Leads.act custody (.register caller now container check)
  rw [act, idle, register] at step
  rw [Supervision.register] at registered
  cases made : custody.registry.register now container check with
  | error failure =>
      rw [Custody.supervision, made] at registered
      cases registered
  | ok result =>
      rw [Custody.supervision, made] at registered
      rw [made] at step
      cases registered
      exact ⟨_, step, rfl, settled⟩

include balanced settled

/-- Unregistering takes out the timer, and then stops it. -/
theorem simulates_unregister {container : String} {supervision : Supervision}
    (taken : custody.supervision.unregister container = some supervision) :
    custody.Simulates supervision := by
  obtain ⟨⟨registry, timer⟩, out, rfl⟩ := Option.map_eq_some_iff.mp taken
  obtain ⟨caller, idle⟩ := exists_idle custody
  have step := Leads.act custody (.unregister caller container)
  have out : custody.registry.takeOut container = some (registry, timer) := out
  rw [act, idle, unregister, out] at step
  obtain ⟨seen, balanced⟩ := step.balanced balanced
  obtain ⟨later, settle, same⟩ := leads_settle rfl balanced (by
    rw [List.append_nil]
    exact fun other => charges_ne_nil_of_settled settled)
  exact ⟨later, step.trans settle, same, Supervision.settled_settle _⟩

/-- Shutting down takes out all timers, and then stops them. -/
theorem simulates_shutdown : custody.Simulates custody.supervision.shutdown := by
  obtain ⟨caller, idle⟩ := exists_idle custody
  have step := Leads.act custody (.shutdown caller custody.entries)
  rw [act, idle, if_pos ⟨rfl, .refl _⟩] at step
  obtain ⟨seen, balanced⟩ := step.balanced balanced
  obtain ⟨later, settle, same⟩ := leads_settle rfl balanced (by
    rw [List.append_nil]
    exact fun other => charges_ne_nil_of_settled settled)
  have timers : custody.entries.map Charge.timer = custody.registry.close.2 := by
    rw [entries, List.map_map]
    rfl
  rw [timers] at same
  exact ⟨later, step.trans settle, same, Supervision.settled_settle _⟩

end Calls

section Probes

variable {custody : Custody} {seen : List CustodyEvent} (balanced : Balanced custody seen)
  (settled : custody.supervision.Settled)

include balanced

/-- A container has one timer. -/
theorem timer_unique {container : String} {one other : Timer}
    (here : (container, one) ∈ custody.registry.timers)
    (there : (container, other) ∈ custody.registry.timers) : one = other := by
  have keys : (custody.registry.timers.map Prod.fst).Nodup := balanced.nodup_containers_registry
  exact congrArg Prod.snd (List.inj_on_of_nodup_map keys here there rfl)

/-- A timer in the registry whose loop has not ended is that of a loop that runs. -/
theorem runs_of_isSome_loop {container : String} {timer : Timer}
    (member : (container, timer) ∈ custody.registry.timers)
    (alive : timer.loop.isSome = true) :
    (⟨custody.latest container, container⟩ : Registration) ∈ custody.loops :=
  (balanced.tied ⟨⟨custody.latest container, container⟩, timer⟩
    (custody.mem_charges.mpr (.inl (List.mem_map_of_mem member)))).2 alive

include settled

/-- An interval that is over is one step, or none when there is no loop. -/
theorem simulates_callProbe (container : String) :
    custody.Simulates (custody.supervision.callProbe container) := by
  by_cases known : container ∈ custody.registry.containers
  · by_cases runs : (⟨custody.latest container, container⟩ : Registration) ∈ custody.loops
    · have step := Leads.act custody (.callProbe ⟨custody.latest container, container⟩)
      rw [act, if_pos runs, adjust_of_entered balanced known] at step
      exact ⟨_, step, rfl, settled⟩
    · have same : custody.registry.update container Timer.callProbe = custody.registry := by
        have timers : ∀ entry ∈ custody.registry.timers,
            (if entry.1 = container then (entry.1, entry.2.callProbe) else entry) = entry := by
          rintro ⟨name, timer⟩ member
          split
          · rename_i own
            subst own
            rw [Timer.callProbe_of_ended]
            rw [Bool.eq_false_iff]
            exact fun alive => runs (runs_of_isSome_loop balanced member alive)
          · rfl
        rw [Registry.update, List.map_congr_left timers, List.map_id']
      rw [Supervision.callProbe, supervision, same]
      exact ⟨custody, .refl _, rfl, settled⟩
  · rw [Supervision.callProbe, supervision, Registry.update_of_absent known]
    exact ⟨custody, .refl _, rfl, settled⟩

/-- A probe that comes back to the registry is one step. -/
theorem simulates_finishRegistered {container : String} (now : Int) (result : Timer.Return)
    (waits : custody.supervision.registeredProbing container = true) :
    custody.Simulates (custody.supervision.finishRegistered container now result).1 := by
  rw [Supervision.registeredProbing, Option.any_eq_true] at waits
  obtain ⟨timer, found, inFlight⟩ := waits
  have member := custody.registry.mem_timers_of_find? container found
  have known : container ∈ custody.registry.containers := List.mem_map_of_mem member
  have runs := runs_of_isSome_loop balanced member (Timer.isSome_loop_of_probing inFlight)
  have step := Leads.act custody (.finishProbe ⟨custody.latest container, container⟩ now result)
  rw [act, if_pos runs, adjust_of_entered balanced known] at step
  have same : (custody.registry.update container fun timer => (timer.finishProbe now result).1) =
      custody.registry.update container fun _ => (timer.finishProbe now result).1 := by
    rw [Registry.update, Registry.update]
    congr 1
    apply List.map_congr_left
    rintro ⟨name, other⟩ present
    split
    · rename_i own
      subst own
      rw [timer_unique balanced member present]
    · rfl
  rw [same] at step
  rw [Supervision.finishRegistered, found]
  exact ⟨_, step, rfl, settled⟩

end Probes

end Custody

/-- A probe that comes back to a call comes back to one of its timers. -/
theorem StopCall.exists_finishProbeIn {container : String} (now : Int) (result : Timer.Return)
    (charges : List Charge)
    (waits : (charges.map Charge.timer).any (fun timer =>
      timer.container = container && timer.probing) = true) :
    ∃ before charge after, charges = before ++ charge :: after ∧ charge.timer.probing = true ∧
      (finishProbeIn container now result (charges.map Charge.timer)).1 =
        before.map Charge.timer ++
          (charge.timer.finishProbe now result).1 :: after.map Charge.timer := by
  induction charges with
  | nil => cases waits
  | cons charge rest ih =>
      rw [List.map_cons, List.any_cons] at waits
      rw [List.map_cons, finishProbeIn]
      by_cases own : (decide (charge.timer.container = container) && charge.timer.probing) = true
      · rw [if_pos own]
        exact ⟨[], charge, rest, rfl, (Bool.and_eq_true_iff.mp own).2, rfl⟩
      · rw [if_neg own]
        rw [Bool.eq_false_iff.mpr own, Bool.false_or] at waits
        obtain ⟨before, found, after, rfl, inFlight, same⟩ := ih waits
        exact ⟨charge :: before, found, after, rfl, inFlight, congrArg _ same⟩

/-- A probe that comes back to a call comes back to the first one that waits for it. -/
theorem Supervision.exists_finishLeavingIn {container : String} (now : Int)
    (result : Timer.Return) (removals : List Removal)
    (waits : (removals.map Removal.stopCall).any (·.probing container) = true) :
    ∃ before removal after, removals = before ++ removal :: after ∧
      removal.stopCall.probing container = true ∧
      (finishLeavingIn container now result (removals.map Removal.stopCall)).1 =
        before.map Removal.stopCall ++
          (removal.stopCall.finishProbe container now result).1 ::
            after.map Removal.stopCall := by
  induction removals with
  | nil => cases waits
  | cons removal rest ih =>
      rw [List.map_cons, List.any_cons] at waits
      rw [List.map_cons, finishLeavingIn]
      by_cases own : removal.stopCall.probing container = true
      · rw [if_pos own]
        exact ⟨[], removal, rest, rfl, own, rfl⟩
      · rw [if_neg own]
        rw [Bool.eq_false_iff.mpr own, Bool.false_or] at waits
        obtain ⟨before, found, after, rfl, inFlight, same⟩ := ih waits
        exact ⟨removal :: before, found, after, rfl, inFlight, congrArg _ same⟩

namespace Custody

/-- A probe that comes back to a call is one step, and then the call goes on. -/
theorem simulates_finishLeaving {custody : Custody} {seen : List CustodyEvent}
    (balanced : Balanced custody seen) (settled : custody.supervision.Settled)
    {container : String} (now : Int) (result : Timer.Return)
    (waits : custody.supervision.leavingProbing container = true) :
    custody.Simulates (custody.supervision.finishLeaving container now result).1 := by
  obtain ⟨before, removal, after, split, own, left⟩ :=
    Supervision.exists_finishLeavingIn now result custody.removals waits
  obtain ⟨first, charge, rest, charges, inFlight, finished⟩ :=
    StopCall.exists_finishProbeIn now result removal.charges own
  have member : charge ∈ removal.charges := by
    rw [charges]
    exact List.mem_append_right _ List.mem_cons_self
  have runs : charge.registration ∈ custody.loops :=
    (balanced.tied charge (custody.mem_charges.mpr (.inr ⟨removal, mem_of_split split, member⟩))).2
      (Timer.isSome_loop_of_probing inFlight)
  have step := Leads.act custody (.finishProbe charge.registration now result)
  rw [act, if_pos runs,
    adjust_of_held split balanced (List.mem_map_of_mem member),
    Removal.adjust_of_split charges (balanced.nodup_held_removal (mem_of_split split))] at step
  obtain ⟨seen, balanced⟩ := step.balanced balanced
  obtain ⟨later, settle, same⟩ := leads_settle rfl balanced (by
    intro other elsewhere
    apply charges_ne_nil_of_settled settled
    rw [split]
    exact List.perm_middle.mem_iff.mpr (List.mem_cons_of_mem _ elsewhere))
  refine ⟨later, step.trans settle, ?_, Supervision.settled_settle _⟩
  rw [same, Supervision.finishLeaving]
  dsimp only
  rw [supervision, left, StopCall.finishProbe, Removal.stopCall]
  dsimp only
  rw [finished, List.map_append, List.map_cons]

theorem Simulates.refl {custody : Custody} (settled : custody.supervision.Settled) :
    custody.Simulates custody.supervision := ⟨custody, .refl _, rfl, settled⟩

/-- What is simulated from where a simulation leads to is simulated. -/
theorem Simulates.trans {custody : Custody} {seen : List CustodyEvent}
    (balanced : Balanced custody seen) {between last : Supervision}
    (first : custody.Simulates between)
    (second : ∀ later more, Balanced later more → later.supervision = between →
      later.supervision.Settled → later.Simulates last) : custody.Simulates last := by
  obtain ⟨later, leads, rfl, settled⟩ := first
  obtain ⟨more, balanced⟩ := leads.balanced balanced
  obtain ⟨final, further, same, done⟩ := second later more balanced rfl settled
  exact ⟨final, leads.trans further, same, done⟩

section Wards

variable {σ : Type} (sink : Sink σ)

/-- Everything that happens in a ward is made of steps. -/
theorem simulates_act {custody : Custody} {seen : List CustodyEvent}
    (balanced : Balanced custody seen) (settled : custody.supervision.Settled) (ward : Ward σ)
    (same : custody.supervision = ward.supervision) (action : WardAction) :
    custody.Simulates (ward.act sink action).1.supervision := by
  have idle : custody.Simulates ward.supervision := same ▸ Simulates.refl settled
  cases action with
  | register now container check due =>
      rw [Ward.act]
      cases registered : ward.supervision.register now container check with
      | error failure => exact idle
      | ok result =>
          rw [← same] at registered
          have entered := simulates_register settled registered
          cases due with
          | false => exact entered
          | true =>
              refine entered.trans balanced fun later more balanced same settled => ?_
              have probed := simulates_callProbe balanced settled container
              rwa [same] at probed
  | tick now container result =>
      rw [Ward.act]
      by_cases waits : ward.supervision.registeredProbing container = true
      · rw [if_pos waits]
        rw [← same] at waits
        have finished := simulates_finishRegistered balanced settled now result waits
        rw [same] at finished
        refine finished.trans balanced fun later more balanced same settled => ?_
        have probed := simulates_callProbe balanced settled container
        rwa [same] at probed
      · rw [if_neg waits]
        exact idle
  | unregister container =>
      rw [Ward.act]
      cases taken : ward.supervision.unregister container with
      | none => exact idle
      | some supervision =>
          rw [← same] at taken
          exact simulates_unregister balanced settled taken
  | shutdown =>
      have closed := simulates_shutdown balanced settled
      rwa [same] at closed
  | finish now container result =>
      rw [Ward.act]
      by_cases waits : ward.supervision.leavingProbing container = true
      · rw [if_pos waits]
        rw [← same] at waits
        have finished := simulates_finishLeaving balanced settled now result waits
        rwa [same] at finished
      · rw [if_neg waits]
        exact idle

/-- Whatever happens in a ward, its supervision is that of a custody which steps lead to. -/
theorem simulates_actAll (delivery : Delivery σ) (actions : List WardAction) :
    empty.Simulates ((Ward.empty delivery).actAll sink actions).1.supervision := by
  have general : ∀ (actions : List WardAction) (ward : Ward σ),
      empty.Simulates ward.supervision →
        empty.Simulates (ward.actAll sink actions).1.supervision := by
    intro actions
    induction actions with
    | nil => exact fun _ reached => reached
    | cons action rest ih =>
        intro ward reached
        rw [Ward.actAll]
        exact ih _ (reached.trans .empty fun later more balanced same settled =>
          simulates_act sink balanced settled ward same action)
  exact general actions (Ward.empty delivery) (Simulates.refl fun _ member => by cases member)

end Wards

end Custody

/-- All timers that are in the registry or still to be stopped. -/
def Supervision.timers (supervision : Supervision) : List Timer :=
  supervision.registry.timers.map Prod.snd ++ supervision.stops.flatMap StopCall.timers

/-- The timers of a supervision are those that are in charge. -/
theorem Custody.timers_supervision (custody : Custody) :
    custody.supervision.timers = custody.charges.map Charge.timer := by
  rw [Supervision.timers, charges, List.map_append, entries, List.map_map, List.map_flatMap,
    supervision, List.flatMap_map]
  rfl

/-- In a ward no container ever has two timers, in the registry or about to be stopped. -/
theorem Ward.nodup_containers_actAll {σ : Type} (sink : Sink σ) (delivery : Delivery σ)
    (actions : List WardAction) :
    (((Ward.empty delivery).actAll sink actions).1.supervision.timers.map
      Timer.container).Nodup := by
  obtain ⟨custody, leads, same, -⟩ := Custody.simulates_actAll sink delivery actions
  obtain ⟨seen, balanced⟩ := leads.balanced .empty
  have names : (custody.charges.map Charge.timer).map Timer.container =
      custody.held.map Registration.container := by
    rw [Custody.held_eq, List.map_map, List.map_map]
    exact List.map_congr_left fun charge member => (balanced.tied charge member).1
  rw [← same, Custody.timers_supervision, names]
  exact balanced.distinct

end HealthWatch
