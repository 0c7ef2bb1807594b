import HealthWatch.Proofs.Registry.Share

/-! # One container at a time

In a supervision that operations lead to every timer is where it belongs (`Supervision.Reached`).
There an operation on a container is one step of its share (`Supervision.act_of_concerns`), and an
operation on another container leaves its share as it was (`Supervision.share_act_of_other`).
-/

namespace HealthWatch

namespace Supervision

/-! ## Every timer is where it belongs -/

/-- Whether every call waits for its first timer. -/
def Waiting (supervision : Supervision) : Prop :=
  ∀ call ∈ supervision.stops, ∃ timers, call.timers = StopCall.advance timers

theorem Waiting.settle {supervision : Supervision} (waiting : supervision.Waiting) :
    supervision.settle.Waiting :=
  fun call member => waiting call (List.mem_filter.mp member).1

/-- A new call waits for its first timer, like the others. -/
theorem waiting_concat {supervision : Supervision} (waiting : supervision.Waiting)
    (registry : Registry) (timers : List Timer) (reserved : Option String) :
    Waiting ⟨registry, supervision.stops ++ [.begin timers reserved]⟩ := by
  intro call member
  rcases List.mem_append.mp member with earlier | last
  · exact waiting call earlier
  · cases List.mem_singleton.mp last
    exact ⟨timers, rfl⟩

/-- A call after a probe came back is the one it was, or has come to its next timer. -/
theorem mem_finishLeavingIn {container : String} {now : Int} {result : Timer.Return}
    {calls : List StopCall} {call : StopCall}
    (member : call ∈ (finishLeavingIn container now result calls).1) :
    call ∈ calls ∨ ∃ timers, call.timers = StopCall.advance timers := by
  induction calls with
  | nil => cases member
  | cons first rest ih =>
      rw [finishLeavingIn] at member
      split at member
      · rcases List.mem_cons.mp member with rfl | later
        · exact .inr ⟨_, rfl⟩
        · exact .inl (List.mem_cons_of_mem _ later)
      · rcases List.mem_cons.mp member with rfl | later
        · exact .inl List.mem_cons_self
        · exact (ih later).imp_left (List.mem_cons_of_mem _)

/-- Calls wait after every operation. -/
theorem Waiting.act {supervision : Supervision} (waiting : supervision.Waiting)
    (action : SupervisionAction) : (supervision.act action).1.Waiting := by
  cases action with
  | register now container check =>
      rw [Supervision.act, register]
      cases supervision.registry.register now container check with
      | error failure => exact waiting
      | ok entered => exact waiting
  | due container => exact waiting
  | tick now container result =>
      rw [Supervision.act]
      split
      · rw [finishRegistered]
        cases supervision.registry.find? container with
        | none => exact waiting
        | some timer => exact waiting
      · exact waiting
  | unregister container =>
      rw [Supervision.act, unregister]
      cases supervision.registry.takeOut container with
      | none => exact waiting
      | some taken => exact (waiting_concat waiting taken.1 [taken.2] (some container)).settle
  | shutdown =>
      exact (waiting_concat waiting supervision.registry.close.1 supervision.registry.close.2
        none).settle
  | finish now container result =>
      rw [Supervision.act]
      split
      · have later : Waiting { supervision with
            stops := (finishLeavingIn container now result supervision.stops).1 } := by
          intro call member
          rcases mem_finishLeavingIn member with earlier | advanced
          · exact waiting call earlier
          · exact advanced
        exact later.settle
      · exact waiting

end Supervision

namespace Custody

variable {custody : Custody} {seen : List CustodyEvent}

/-- A call in progress that unregisters a container has just its timer to stop. -/
theorem container_of_reserved (balanced : Balanced custody seen) {removal : Removal}
    (member : removal ∈ custody.removals) {container : String}
    (unregisters : removal.container = some container) {charge : Charge}
    (present : charge ∈ removal.charges) : charge.timer.container = container := by
  have inside : charge ∈ custody.charges :=
    custody.mem_charges.mpr (.inr ⟨removal, member, present⟩)
  rw [(balanced.tied charge inside).1]
  exact balanced.held_of_unregister member unregisters (List.mem_map_of_mem present)

/-- In a supervision that steps lead to every timer is where it belongs. -/
theorem orderly_supervision (balanced : Balanced custody seen)
    (settled : custody.supervision.Settled) (waiting : custody.supervision.Waiting) :
    custody.supervision.Orderly where
  keyed entry member := by
    have inside : (⟨⟨custody.latest entry.1, entry.1⟩, entry.2⟩ : Charge) ∈ custody.charges :=
      custody.mem_charges.mpr (.inl (List.mem_map.mpr ⟨entry, member, rfl⟩))
    exact (balanced.tied _ inside).1
  distinct := by
    have names : (custody.charges.map Charge.timer).map Timer.container =
        custody.held.map Registration.container := by
      rw [held_eq, List.map_map, List.map_map]
      exact List.map_congr_left fun charge member => (balanced.tied charge member).1
    rw [timers_supervision, names]
    exact balanced.distinct
  settled := settled
  waits := waiting
  reserves container reserved := by
    obtain ⟨removal, member, unregisters⟩ :=
      List.mem_filterMap.mp (balanced.reserved.mem_iff.mp reserved)
    exact ⟨removal.stopCall, List.mem_map_of_mem member, unregisters⟩
  reserved call member container unregisters timer present := by
    obtain ⟨removal, inCall, rfl⟩ := List.mem_map.mp member
    obtain ⟨charge, inside, rfl⟩ := List.mem_map.mp present
    exact container_of_reserved balanced inCall unregisters inside

/-- Everything that is done with a supervision is made of steps. -/
theorem simulates_supervision_act (balanced : Balanced custody seen)
    (settled : custody.supervision.Settled) (action : SupervisionAction) :
    custody.Simulates (custody.supervision.act action).1 := by
  have idle : custody.Simulates custody.supervision := .refl settled
  cases action with
  | register now container check =>
      rw [Supervision.act]
      cases registered : custody.supervision.register now container check with
      | error failure => exact idle
      | ok entered => exact simulates_register settled registered
  | due container => exact simulates_callProbe balanced settled container
  | tick now container result =>
      rw [Supervision.act]
      by_cases waits : custody.supervision.registeredProbing container = true
      · rw [if_pos waits]
        exact simulates_finishRegistered balanced settled now result waits
      · rw [if_neg waits]
        exact idle
  | unregister container =>
      rw [Supervision.act]
      cases taken : custody.supervision.unregister container with
      | none => exact idle
      | some later => exact simulates_unregister balanced settled taken
  | shutdown => exact simulates_shutdown balanced settled
  | finish now container result =>
      rw [Supervision.act]
      by_cases waits : custody.supervision.leavingProbing container = true
      · rw [if_pos waits]
        exact simulates_finishLeaving balanced settled now result waits
      · rw [if_neg waits]
        exact idle

end Custody

namespace Supervision

/-- A supervision that operations lead to: it is what a custody with a balance shows, and its calls
wait. -/
def Reached (supervision : Supervision) : Prop :=
  supervision.Settled ∧ supervision.Waiting ∧
    ∃ custody seen, Custody.Balanced custody seen ∧ custody.supervision = supervision

namespace Reached

theorem empty : Reached empty :=
  ⟨List.forall_mem_nil _, List.forall_mem_nil _, .empty, [], .empty, rfl⟩

variable {supervision : Supervision} (reached : supervision.Reached)

include reached

/-- In a reached supervision every timer is where it belongs. -/
theorem orderly : supervision.Orderly := by
  obtain ⟨settled, waiting, custody, seen, balanced, rfl⟩ := reached
  exact Custody.orderly_supervision balanced settled waiting

/-- Every operation leads from a reached supervision to another. -/
theorem act (action : SupervisionAction) : (supervision.act action).1.Reached := by
  obtain ⟨settled, waiting, custody, seen, balanced, rfl⟩ := reached
  obtain ⟨later, leads, same, settled⟩ :=
    Custody.simulates_supervision_act balanced settled action
  obtain ⟨more, balanced⟩ := leads.balanced balanced
  exact ⟨settled, waiting.act action, later, more, balanced, same⟩

end Reached

section Shares

variable {supervision : Supervision} {container name : String}

/-- A new timer is entered in the share of its container. -/
theorem share_enter (timer : Timer) :
    share { supervision with registry := { supervision.registry with
        timers := supervision.registry.timers ++ [(name, timer)] } } container =
      { supervision.share container with
        timer := (supervision.registry.find? container).or
          (if name = container then some timer else none) } := by
  rw [share, Registry.find?_concat]
  rfl

/-- A change to the timer of a container changes its share. -/
theorem share_update_self (change : Timer → Timer) :
    share { supervision with registry := supervision.registry.update container change }
        container =
      { supervision.share container with
        timer := (supervision.registry.find? container).map change } := by
  rw [share, Registry.find?_update_self]
  rfl

/-- A change to the timer of another container leaves the share. -/
theorem share_update_of_ne (differs : container ≠ name) (change : Timer → Timer) :
    share { supervision with registry := supervision.registry.update name change } container =
      supervision.share container := by
  rw [share, Registry.find?_update_of_ne _ differs]
  rfl

end Shares

section Steps

variable {supervision : Supervision} {container name : String}

/-- Whether an action is a step of the container that it is about. -/
def StepsShare (supervision : Supervision) (container : String) (action : SupervisionAction) :
    Prop :=
  ((supervision.act action).1.share container, (supervision.act action).2) =
    (supervision.share container).act action

/-- A registration is a step of its container alone. -/
theorem stepsShare_register (now : Int) (check : Healthcheck) :
    supervision.StepsShare container (.register now container check) := by
  let share := supervision.share container
  rw [StepsShare, act, register, Registry.register, Share.act]
  by_cases closed : supervision.registry.closed = true
  · have here : share.closed = true := closed
    rw [if_pos closed, if_pos here]
  have opened : ¬share.closed = true := closed
  rw [if_neg closed, if_neg opened]
  by_cases known : supervision.registry.contains container = true
  · have here : share.timer.isSome = true := known
    rw [if_pos known, if_pos here]
  have absent : ¬share.timer.isSome = true := known
  rw [if_neg known, if_neg absent]
  by_cases reserved : supervision.registry.stopping.contains container = true
  · have here : share.reserved = true := reserved
    rw [if_pos reserved, if_pos here]
  have free : ¬share.reserved = true := reserved
  rw [if_neg reserved, if_neg free]
  cases (Timer.create container check).start now with
  | error fault => rfl
  | ok timer =>
      have new : supervision.registry.find? container = none := by
        rwa [Registry.contains, Option.isSome_iff_ne_none, not_not] at known
      dsimp only
      rw [share_enter, new, if_pos rfl]
      rfl

/-- A due probe is a step of its container alone. -/
theorem stepsShare_due : supervision.StepsShare container (.due container) := by
  rw [StepsShare, act, Share.act, callProbe, share_update_self]
  rfl

/-- A tick is a step of its container alone. -/
theorem stepsShare_tick (now : Int) (result : Timer.Return) :
    supervision.StepsShare container (.tick now container result) := by
  have own : (supervision.share container).timer = supervision.registry.find? container := rfl
  rw [StepsShare, act, Share.act, registeredProbing, finishRegistered, own]
  cases found : supervision.registry.find? container with
  | none => rfl
  | some timer =>
      rw [Option.any_some, Option.filter]
      cases timer.probing with
      | false => rfl
      | true =>
          rw [if_pos rfl, if_pos rfl]
          dsimp only
          rw [share_update_self, found]
          rfl

/-- What a call that begins to stop some timers leaves of a container. -/
theorem share_begin (settled : supervision.Settled) (registry : Registry) (timers : List Timer)
    (reserved : Option String) :
    (settle ⟨registry, supervision.stops ++ [.begin timers reserved]⟩).share container =
      { timer := registry.find? container
        reserved := registry.stopping.contains container &&
          !((StopCall.begin timers reserved).finished && reserved = some container)
        leaving := (StopCall.awaited? container supervision.stops).or
          ((timers.find? (Timer.probes container)).map Timer.cancel)
        closed := registry.closed } := by
  have none : (supervision.stops.any fun call =>
      call.finished && call.reserved = some container) = false := by
    rw [List.any_eq_false]
    intro call member
    simp [settled call member]
  rw [share_settle, share, StopCall.awaited?_append, StopCall.awaited?_begin, List.any_append, none]
  simp [StopCall.begin]

/-- A call for one timer is over at once unless a probe is in flight. -/
theorem finished_begin_singleton (timer : Timer) (reserved : Option String) :
    (StopCall.begin [timer] reserved).finished = !timer.probing := by
  rw [StopCall.finished, StopCall.begin, StopCall.advance, Timer.isSome_loop_cancel]
  cases timer.probing <;> rfl

/-- An unregistering is a step of its container alone. -/
theorem stepsShare_unregister (orderly : supervision.Orderly) :
    supervision.StepsShare container (.unregister container) := by
  have own : (supervision.share container).timer = supervision.registry.find? container := rfl
  rw [StepsShare, act, Share.act, unregister, Registry.takeOut, own]
  cases found : supervision.registry.find? container with
  | none => rfl
  | some timer =>
      have member := supervision.registry.mem_timers_of_find? container found
      have named : timer.container = container := orderly.keyed _ member
      have quiet := orderly.awaited?_of_registered found
      have free := orderly.not_reserved_of_registered found
      rw [Option.isSome_some, if_pos rfl, Share.takeOut, own, found, Option.map_some,
        Option.map_some]
      dsimp only
      rw [share_begin orderly.settled, finished_begin_singleton, quiet, List.find?_singleton,
        Timer.probes, named]
      cases inFlight : timer.probing <;>
        simp [share, quiet, free, List.contains_eq_mem, Registry.erase, Registry.find?] 

/-- A shutdown is a step of every container, each by itself. -/
theorem stepsShare_shutdown (orderly : supervision.Orderly) :
    supervision.StepsShare container .shutdown := by
  have own : (supervision.share container).timer = supervision.registry.find? container := rfl
  have emptied : Registry.find? { supervision.registry with timers := [], closed := true }
      container = none := rfl
  rw [StepsShare, act, Share.act, shutdown, Registry.close, Share.takeOut, own]
  dsimp only
  rw [share_begin orderly.settled, Registry.find?_timers orderly.keyed orderly.nodup_registry,
    emptied]
  cases found : supervision.registry.find? container with
  | none => simp [share, found]
  | some timer =>
      have quiet := orderly.awaited?_of_registered found
      have free := orderly.not_reserved_of_registered found
      cases inFlight : timer.probing <;> simp [share, quiet, free, inFlight, Option.filter]

/-- A container that leaves is probing when a call awaits its timer. -/
theorem leavingProbing_eq (supervision : Supervision) (container : String) :
    supervision.leavingProbing container =
      (StopCall.awaited? container supervision.stops).isSome := by
  rw [leavingProbing, StopCall.awaited?, Option.isSome_map]
  induction supervision.stops with
  | nil => rfl
  | cons call rest ih =>
      rw [List.any_cons, StopCall.probing_eq, ih, List.flatMap_cons, List.find?_append,
        Option.isSome_or]

/-- A probe that comes back leaves of a container all but what the calls keep of it. -/
theorem share_finishLeaving (supervision : Supervision) (container name : String) (now : Int)
    (result : Timer.Return) :
    (supervision.finishLeaving name now result).1.share container =
      { supervision.share container with
        reserved :=
          (supervision.finishLeaving name now result).1.registry.stopping.contains container
        leaving := StopCall.awaited? container
          (finishLeavingIn name now result supervision.stops).1 } := by
  have settles := share_settle { supervision with
    stops := (finishLeavingIn name now result supervision.stops).1 } container
  have timer := congrArg Share.timer settles
  have leaving := congrArg Share.leaving settles
  have closes := congrArg Share.closed settles
  rw [share, share]
  congr 1

/-- A probe that comes back to a leaving timer is a step of its container alone. -/
theorem stepsShare_finish (orderly : supervision.Orderly) (now : Int) (result : Timer.Return)
    (after : (supervision.act (.finish now container result)).1.Orderly) :
    supervision.StepsShare container (.finish now container result) := by
  have own : (supervision.share container).leaving =
      StopCall.awaited? container supervision.stops := rfl
  have waits := supervision.leavingProbing_eq container
  rw [StepsShare, Share.act, own]
  cases awaited : StopCall.awaited? container supervision.stops with
  | none =>
      rw [awaited] at waits
      rw [act, if_neg (by rw [waits]; decide)]
  | some timer =>
      rw [awaited] at waits
      rw [act, if_pos (by rw [waits]; rfl)] at after ⊢
      dsimp only at after ⊢
      have event : (supervision.finishLeaving container now result).2 =
          (timer.finishProbe now result).2 := by
        rw [finishLeaving]
        dsimp only
        rw [finishLeavingIn_snd, awaited]
        rfl
      have gone := awaited?_finishLeavingIn_self container now result orderly.nodup_stops
      have kept := supervision.share_finishLeaving container container now result
      -- Nobody waits for the container any more, so its identifier cannot be reserved.
      have free : (supervision.finishLeaving container now result).1.registry.stopping.contains
          container = false := by
        rw [← Bool.not_eq_true, List.contains_iff_mem]
        intro reserved
        have awaited : ((supervision.finishLeaving container now result).1.share
            container).leaving.isSome = true := after.awaited?_of_reserved reserved
        rw [kept, gone] at awaited
        cases awaited
      rw [kept, free, gone, event]

/-- An operation on a container is one step of what the supervision has of it. -/
theorem act_of_concerns (reached : supervision.Reached) {action : SupervisionAction}
    (concerns : action.concerns container = true) : supervision.StepsShare container action := by
  cases action with
  | register now name check =>
      cases of_decide_eq_true concerns
      exact stepsShare_register now check
  | due name =>
      cases of_decide_eq_true concerns
      exact stepsShare_due
  | tick now name result =>
      cases of_decide_eq_true concerns
      exact stepsShare_tick now result
  | unregister name =>
      cases of_decide_eq_true concerns
      exact stepsShare_unregister reached.orderly
  | shutdown => exact stepsShare_shutdown reached.orderly
  | finish now name result =>
      cases of_decide_eq_true concerns
      exact stepsShare_finish reached.orderly now result (reached.act _).orderly

/-! ## What is done to another container -/

/-- Registering another container leaves the share. -/
theorem share_register_of_ne (differs : container ≠ name) (now : Int) (check : Healthcheck) :
    (supervision.act (.register now name check)).1.share container =
      supervision.share container := by
  rw [act, register]
  cases registered : supervision.registry.register now name check with
  | error failure => rfl
  | ok entered =>
      obtain ⟨registry, snapshot⟩ := entered
      obtain ⟨-, -, -, timer, -, rfl, -⟩ := Registry.register_eq_ok registered
      dsimp only
      rw [share_enter, if_neg differs.symm, Option.or_none]
      rfl

/-- Unregistering another container leaves the share. -/
theorem share_unregister_of_ne (settled : supervision.Settled) (differs : container ≠ name)
    (keyed : ∀ entry ∈ supervision.registry.timers, entry.2.container = entry.1) :
    (supervision.act (.unregister name)).1.share container = supervision.share container := by
  rw [act, unregister, Registry.takeOut]
  cases found : supervision.registry.find? name with
  | none => rfl
  | some timer =>
      have named : timer.container = name :=
        keyed _ (supervision.registry.mem_timers_of_find? name found)
      have other : timer.probes container = false := by
        rw [Timer.probes, named, decide_eq_false differs.symm, Bool.false_and]
      rw [Option.map_some, Option.map_some]
      dsimp only
      have kept : Registry.find? { supervision.registry.erase name with
          stopping := name :: (supervision.registry.erase name).stopping } container =
          supervision.registry.find? container := supervision.registry.find?_erase_of_ne differs
      rw [share_begin settled, List.find?_singleton, other, kept]
      simp [share, differs, differs.symm, Registry.erase]

/-- A probe that comes back to another leaving timer leaves the share. -/
theorem share_finish_of_ne (orderly : supervision.Orderly) (differs : container ≠ name)
    (now : Int) (result : Timer.Return) :
    (supervision.act (.finish now name result)).1.share container =
      supervision.share container := by
  rw [act]
  by_cases waits : supervision.leavingProbing name = true
  · rw [if_pos waits, finishLeaving]
    dsimp only
    have none : ((finishLeavingIn name now result supervision.stops).1.any fun call =>
        call.finished && call.reserved = some container) = false := by
      rw [List.any_eq_false]
      intro call member returns
      rw [Bool.and_eq_true, decide_eq_true_eq] at returns
      exact differs (reserved_of_finished name now result orderly.settled orderly.reserved member
        returns.1 returns.2)
    rw [share_settle, none, share, awaited?_finishLeavingIn_of_ne container name now result differs]
    simp [share]
  · rw [if_neg waits]

/-- What is done to another container leaves a container as it was. -/
theorem share_act_of_other (reached : supervision.Reached) {action : SupervisionAction}
    (other : action.concerns container = false) :
    (supervision.act action).1.share container = supervision.share container := by
  cases action with
  | register now name check =>
      exact share_register_of_ne (Ne.symm (of_decide_eq_false other)) now check
  | due name => exact share_update_of_ne (Ne.symm (of_decide_eq_false other)) _
  | tick now name result =>
      rw [act]
      split
      · rw [finishRegistered]
        cases supervision.registry.find? name with
        | none => rfl
        | some timer => exact share_update_of_ne (Ne.symm (of_decide_eq_false other)) _
      · rfl
  | unregister name =>
      exact share_unregister_of_ne reached.1 (Ne.symm (of_decide_eq_false other))
        reached.orderly.keyed
  | shutdown => cases other
  | finish now name result =>
      exact share_finish_of_ne reached.orderly (Ne.symm (of_decide_eq_false other)) now result

end Steps
end Supervision

end HealthWatch
