import HealthWatch.Proofs.Registry.Simulation

/-! # What a registry has of one container

Whatever is done with a registry and its timers, what can be seen of one container depends on its
own timer, on whether its identifier is reserved, on the timer of it that a call still stops, and on
whether the registry is closed. A `Share` is these four, and `Share.act` a machine of its own: an
operation on the container is a step of that machine (`Supervision.act_of_concerns`), and what is
done to another container is no step at all (`Supervision.share_act_of_other`).
-/

namespace HealthWatch

/-- Something that is done with a registry of timers, or that happens to one of them. -/
inductive SupervisionAction
  | register (now : Int) (container : String) (check : Healthcheck)
  /-- The interval of a registered container is over. -/
  | due (container : String)
  /-- The probe of a registered container comes back, or brings the loop down. -/
  | tick (now : Int) (container : String) (result : Timer.Return)
  | unregister (container : String)
  | shutdown
  /-- The probe comes back to a container that is being stopped. -/
  | finish (now : Int) (container : String) (result : Timer.Return)
  deriving DecidableEq, Repr

namespace SupervisionAction

/-- The container that an action is about, or nothing when it is about all of them. -/
def container? : SupervisionAction → Option String
  | register _ container _ => some container
  | due container => some container
  | tick _ container _ => some container
  | unregister container => some container
  | shutdown => none
  | finish _ container _ => some container

/-- Whether an action is about a container. -/
def concerns (container : String) (action : SupervisionAction) : Bool :=
  action.container?.all (· = container)

end SupervisionAction

/-- One step with a registry: the supervision after it, what it came to, and the event to be
reported. -/
def Supervision.act (supervision : Supervision) :
    SupervisionAction → Supervision × WardResult × Option StatusEvent
  | .register now container check =>
      match supervision.register now container check with
      | .error failure => (supervision, .refused failure, none)
      | .ok (entered, snapshot) => (entered, .registered snapshot, none)
  | .due container => (supervision.callProbe container, .done, none)
  | .tick now container result =>
      if supervision.registeredProbing container then
        let (later, event) := supervision.finishRegistered container now result
        (later, .done, event)
      else (supervision, .nothingInFlight, none)
  | .unregister container =>
      match supervision.unregister container with
      | none => (supervision, .notRegistered, none)
      | some later => (later, .done, none)
  | .shutdown => (supervision.shutdown, .done, none)
  | .finish now container result =>
      if supervision.leavingProbing container then
        let (later, event) := supervision.finishLeaving container now result
        (later, .done, event)
      else (supervision, .nothingInFlight, none)

/-- What a supervision has of one container. -/
structure Share where
  timer : Option Timer
  /-- Whether the identifier is reserved. -/
  reserved : Bool
  /-- The cancelled timer whose probe a call waits for. -/
  leaving : Option Timer
  closed : Bool
  deriving DecidableEq, Repr

namespace Share

/-- What becomes of a share when its timer is taken out to be stopped. -/
def takeOut (share : Share) (reserves : Bool) : Share :=
  match share.timer with
  | some timer =>
      if timer.probing then
        { share with timer := none, reserved := reserves, leaving := some timer.cancel }
      else { share with timer := none }
  | none => share

/-- One step of a single container. -/
def act (share : Share) : SupervisionAction → Share × WardResult × Option StatusEvent
  | .register now container check =>
      if share.closed then (share, .refused (.timerNotStarted container .registryClosed), none)
      else if share.timer.isSome then (share, .refused (.alreadyRegistered container), none)
      else if share.reserved then
        (share, .refused (.timerNotStarted container .stillStopping), none)
      else
        match (Timer.create container check).start now with
        | .error fault => (share, .refused (.timerNotStarted container fault), none)
        | .ok timer => ({ share with timer := some timer }, .registered timer.snapshot, none)
  | .due _ => ({ share with timer := share.timer.map Timer.callProbe }, .done, none)
  | .tick now _ result =>
      match share.timer.filter Timer.probing with
      | some timer =>
          let (later, event) := timer.finishProbe now result
          ({ share with timer := some later }, .done, event)
      | none => (share, .nothingInFlight, none)
  | .unregister _ =>
      if share.timer.isSome then (share.takeOut true, .done, none)
      else (share, .notRegistered, none)
  | .shutdown => ({ share.takeOut false with closed := true }, .done, none)
  | .finish now _ result =>
      match share.leaving with
      | some timer =>
          ({ share with reserved := false, leaving := none }, .done,
            (timer.finishProbe now result).2)
      | none => (share, .nothingInFlight, none)

end Share

namespace Timer

/-- A timer of a container whose probe is in flight. -/
def probes (container : String) (timer : Timer) : Bool :=
  timer.container = container && timer.probing

end Timer

/-- The timer of a container that one of some calls waits for. It is cancelled, or will be when
the call comes to it. -/
def StopCall.awaited? (container : String) (calls : List StopCall) : Option Timer :=
  ((calls.flatMap timers).find? (Timer.probes container)).map Timer.cancel

namespace Supervision

/-- What a supervision has of a container. -/
def share (supervision : Supervision) (container : String) : Share where
  timer := supervision.registry.find? container
  reserved := supervision.registry.stopping.contains container
  leaving := StopCall.awaited? container supervision.stops
  closed := supervision.registry.closed

end Supervision

/-! ## Timers that are stopped -/

namespace Timer

variable {timer : Timer} {container : String}

@[simp] theorem container_cancel : timer.cancel.container = timer.container := rfl

/-- Cancelling keeps a loop whose probe is in flight, and no other. -/
theorem loop_cancel : timer.cancel.loop = timer.loop.filter TickLoop.probing := rfl

@[simp] theorem probing_cancel : timer.cancel.probing = timer.probing := by
  rw [probing, probing, loop_cancel]
  cases timer.loop with
  | none => rfl
  | some loop => cases inFlight : loop.probing <;> simp [Option.filter, inFlight]

@[simp] theorem cancel_cancel : timer.cancel.cancel = timer.cancel := by
  rw [cancel, loop_cancel, Option.filter_filter]
  simp [cancel]

@[simp] theorem probes_cancel : timer.cancel.probes container = timer.probes container := by
  rw [probes, probes, container_cancel, probing_cancel]

theorem container_finishProbe (now : Int) (result : Return) :
    (timer.finishProbe now result).1.container = timer.container :=
  (Charge.Continues.finishProbe ⟨⟨0, timer.container⟩, timer⟩ now result).container

/-- A probe that has come back is not in flight any more. -/
theorem probing_finishProbe (now : Int) (result : Return) :
    (timer.finishProbe now result).1.probing = false := by
  cases result with
  | crash =>
      rw [finishProbe, crash]
      split
      · rfl
      · rename_i quiet
        exact Bool.eq_false_iff.mpr quiet
  | outcome outcome =>
      rw [finishProbe, tick]
      split
      · cases active : timer.active <;> simp [probing]
      · rename_i quiet
        rw [probing]
        cases loop : timer.loop with
        | none => rfl
        | some loop' =>
            obtain ⟨health, inFlight⟩ := loop'
            cases inFlight with
            | false => rfl
            | true => exact absurd loop (quiet health)

/-- What a probe in flight comes to does not depend on whether its loop was cancelled. -/
theorem finishProbe_cancel_snd (inFlight : timer.probing = true) (now : Int) (result : Return) :
    (timer.cancel.finishProbe now result).2 = (timer.finishProbe now result).2 := by
  rw [cancel_of_probing inFlight]
  cases result with
  | crash => rfl
  | outcome outcome =>
      rw [finishProbe, finishProbe, tick, tick, deactivate]
      dsimp only
      split <;> rfl

end Timer

namespace StopCall

section Timers

variable (container : String) (timers : List Timer)

/-- A call that goes on keeps the timer that it waits for. -/
theorem find?_advance :
    ((advance timers).find? (Timer.probes container)).map Timer.cancel =
      (timers.find? (Timer.probes container)).map Timer.cancel := by
  induction timers with
  | nil => rfl
  | cons timer rest ih =>
      rw [advance, Timer.isSome_loop_cancel, List.find?_cons]
      cases inFlight : timer.probing with
      | true =>
          rw [if_pos rfl, List.find?_cons, Timer.probes_cancel]
          cases timer.probes container with
          | true => exact congrArg some Timer.cancel_cancel
          | false => rfl
      | false =>
          have other : timer.probes container = false := by
            rw [Timer.probes, inFlight, Bool.and_false]
          rw [if_neg Bool.false_ne_true, ih, other]

/-- A call waits for the probe of its first timer. -/
theorem probing_of_advance {timer : Timer} {rest : List Timer}
    (first : advance timers = timer :: rest) : timer.probing = true := by
  induction timers with
  | nil => cases first
  | cons head tail ih =>
      rw [advance, Timer.isSome_loop_cancel] at first
      cases inFlight : head.probing with
      | true =>
          rw [inFlight, if_pos rfl] at first
          cases first
          rw [Timer.probing_cancel, inFlight]
      | false =>
          rw [inFlight, if_neg Bool.false_ne_true] at first
          exact ih first

/-- A call probes a container when one of its timers does. -/
theorem probing_eq (call : StopCall) :
    call.probing container = (call.timers.find? (Timer.probes container)).isSome := by
  rw [Bool.eq_iff_iff, probing, List.any_eq_true, List.find?_isSome]
  rfl

/-- No timer of an absent container is probing. -/
theorem find?_eq_none_of_not_mem (absent : container ∉ timers.map Timer.container) :
    timers.find? (Timer.probes container) = none := by
  rw [List.find?_eq_none]
  intro timer member probes
  rw [Timer.probes, Bool.and_eq_true, decide_eq_true_eq] at probes
  exact absent (probes.1 ▸ List.mem_map_of_mem member)

variable (name : String) (now : Int) (result : Timer.Return)

/-- The event comes from the timer whose probe came back. -/
theorem finishProbeIn_snd :
    (finishProbeIn name now result timers).2 =
      (timers.find? (Timer.probes name)).bind fun timer => (timer.finishProbe now result).2 := by
  induction timers with
  | nil => rfl
  | cons timer rest ih =>
      rw [finishProbeIn, List.find?_cons, Timer.probes]
      cases decide (timer.container = name) && timer.probing with
      | true => rfl
      | false => exact ih

/-- A probe that comes back is waited for no more. -/
theorem find?_finishProbeIn_self (distinct : (timers.map Timer.container).Nodup) :
    (finishProbeIn name now result timers).1.find? (Timer.probes name) = none := by
  induction timers with
  | nil => rfl
  | cons timer rest ih =>
      obtain ⟨new, distinct⟩ := List.nodup_cons.mp distinct
      rw [finishProbeIn]
      by_cases own : (decide (timer.container = name) && timer.probing) = true
      · have same : timer.container = name := by simpa using (Bool.and_eq_true_iff.mp own).1
        rw [if_pos own, List.find?_cons, Timer.probes, Timer.probing_finishProbe, Bool.and_false]
        exact find?_eq_none_of_not_mem name rest (same ▸ new)
      · rw [if_neg own, List.find?_cons, Timer.probes, Bool.eq_false_iff.mpr own]
        exact ih distinct

/-- A probe that comes back changes nothing for other containers. -/
theorem find?_finishProbeIn_of_ne (differs : container ≠ name) :
    (finishProbeIn name now result timers).1.find? (Timer.probes container) =
      timers.find? (Timer.probes container) := by
  induction timers with
  | nil => rfl
  | cons timer rest ih =>
      rw [finishProbeIn]
      by_cases own : (decide (timer.container = name) && timer.probing) = true
      · have same : timer.container = name := by simpa using (Bool.and_eq_true_iff.mp own).1
        have other : timer.container ≠ container := fun equal => differs (equal.symm.trans same)
        rw [if_pos own, List.find?_cons, List.find?_cons, Timer.probes, Timer.probes,
          Timer.container_finishProbe, decide_eq_false other, Bool.false_and, Bool.false_and]
      · rw [if_neg own, List.find?_cons, List.find?_cons, ih]

end Timers

section Calls

variable (container : String)

theorem awaited?_cons (call : StopCall) (calls : List StopCall) :
    awaited? container (call :: calls) =
      ((call.timers.find? (Timer.probes container)).map Timer.cancel).or
        (awaited? container calls) := by
  rw [awaited?, List.flatMap_cons, List.find?_append, Option.map_or]
  rfl

theorem awaited?_append (calls more : List StopCall) :
    awaited? container (calls ++ more) =
      (awaited? container calls).or (awaited? container more) := by
  rw [awaited?, List.flatMap_append, List.find?_append, Option.map_or]
  rfl

/-- Taking out timers to stop them leaves the one that has to be waited for. -/
theorem awaited?_begin (timers : List Timer) (reserved : Option String) :
    awaited? container [.begin timers reserved] =
      (timers.find? (Timer.probes container)).map Timer.cancel := by
  rw [awaited?, List.flatMap_singleton]
  exact find?_advance container timers

/-- Calls that have returned wait for nothing. -/
theorem awaited?_filter_unfinished (calls : List StopCall) :
    awaited? container (calls.filter fun call => !call.finished) =
      awaited? container calls := by
  induction calls with
  | nil => rfl
  | cons call rest ih =>
      cases finished : call.finished with
      | true =>
          have empty : call.timers = [] := List.isEmpty_iff.mp finished
          rw [List.filter_cons_of_neg (by simp [finished]), awaited?_cons, empty, ih]
          rfl
      | false =>
          rw [List.filter_cons_of_pos (by simp [finished]), awaited?_cons, awaited?_cons, ih]

end Calls

end StopCall

namespace Supervision

section Leaving

open StopCall (awaited?)

variable (container name : String) (now : Int) (result : Timer.Return)

/-- The event comes from the timer that a call awaits. -/
theorem finishLeavingIn_snd (calls : List StopCall) :
    (finishLeavingIn name now result calls).2 =
      (awaited? name calls).bind fun timer => (timer.finishProbe now result).2 := by
  induction calls with
  | nil => rfl
  | cons call rest ih =>
      rw [finishLeavingIn, StopCall.awaited?_cons, StopCall.probing_eq]
      cases found : call.timers.find? (Timer.probes name) with
      | none => exact ih
      | some timer =>
          have probes := List.find?_some found
          rw [Timer.probes, Bool.and_eq_true] at probes
          rw [Option.isSome_some, if_pos rfl, StopCall.finishProbe]
          dsimp only
          rw [StopCall.finishProbeIn_snd, found]
          exact (Timer.finishProbe_cancel_snd probes.2 now result).symm

theorem awaited?_finishProbe (call : StopCall) :
    ((call.finishProbe name now result).1.timers.find? (Timer.probes container)).map Timer.cancel =
      ((StopCall.finishProbeIn name now result call.timers).1.find?
        (Timer.probes container)).map Timer.cancel :=
  StopCall.find?_advance container _

/-- When the probe of a container has come back nobody waits for it any more. -/
theorem awaited?_finishLeavingIn_self {calls : List StopCall}
    (distinct : ((calls.flatMap StopCall.timers).map Timer.container).Nodup) :
    awaited? name (finishLeavingIn name now result calls).1 = none := by
  induction calls with
  | nil => rfl
  | cons call rest ih =>
      rw [List.flatMap_cons, List.map_append] at distinct
      obtain ⟨here, there, apart⟩ := List.nodup_append'.mp distinct
      rw [finishLeavingIn]
      by_cases waits : call.probing name = true
      · obtain ⟨timer, member, probes⟩ := List.any_eq_true.mp waits
        have same : timer.container = name := by simpa using (Bool.and_eq_true_iff.mp probes).1
        have later : awaited? name rest = none := by
          rw [StopCall.awaited?, StopCall.find?_eq_none_of_not_mem]
          · rfl
          · exact apart (same ▸ List.mem_map_of_mem member)
        rw [if_pos waits, StopCall.awaited?_cons, awaited?_finishProbe,
          StopCall.find?_finishProbeIn_self _ _ _ _ here, later]
        rfl
      · have none : call.timers.find? (Timer.probes name) = none := by
          rw [StopCall.probing_eq, Option.isSome_iff_ne_none, not_not] at waits
          exact waits
        rw [if_neg waits, StopCall.awaited?_cons, none]
        exact ih there

/-- Probes of other containers change nothing about what is awaited. -/
theorem awaited?_finishLeavingIn_of_ne (differs : container ≠ name) (calls : List StopCall) :
    awaited? container (finishLeavingIn name now result calls).1 = awaited? container calls := by
  induction calls with
  | nil => rfl
  | cons call rest ih =>
      rw [finishLeavingIn]
      split
      · rw [StopCall.awaited?_cons, StopCall.awaited?_cons, awaited?_finishProbe,
          StopCall.find?_finishProbeIn_of_ne _ _ _ _ _ differs]
      · rw [StopCall.awaited?_cons, StopCall.awaited?_cons, ih]

/-- A call that can return because a probe came back reserves no other container. -/
theorem reserved_of_finished {calls : List StopCall}
    (settled : ∀ call ∈ calls, call.finished = false)
    (own : ∀ call ∈ calls, ∀ container, call.reserved = some container →
      ∀ timer ∈ call.timers, timer.container = container)
    {call : StopCall} (member : call ∈ (finishLeavingIn name now result calls).1)
    (finished : call.finished = true) {container : String}
    (reserved : call.reserved = some container) : container = name := by
  induction calls with
  | nil => cases member
  | cons first rest ih =>
      obtain ⟨busy, settled⟩ := List.forall_mem_cons.mp settled
      obtain ⟨mine, own⟩ := List.forall_mem_cons.mp own
      rw [finishLeavingIn] at member
      by_cases waits : first.probing name = true
      · rw [if_pos waits] at member
        rcases List.mem_cons.mp member with rfl | later
        · obtain ⟨timer, holds, probes⟩ := List.any_eq_true.mp waits
          have same : timer.container = name := by simpa using (Bool.and_eq_true_iff.mp probes).1
          exact (mine container reserved timer holds).symm.trans same
        · rw [settled call later] at finished
          cases finished
      · rw [if_neg waits] at member
        rcases List.mem_cons.mp member with rfl | later
        · rw [busy] at finished
          cases finished
        · exact ih settled own later

end Leaving

end Supervision

namespace Registry

variable (registry : Registry)

/-! ## Timers of a registry -/

section Timers

variable {container name : String}

theorem find?_concat (timer : Timer) :
    find? { registry with timers := registry.timers ++ [(name, timer)] } container =
      (registry.find? container).or (if name = container then some timer else none) := by
  rw [find?, find?, List.find?_append, Option.map_or, List.find?_singleton]
  by_cases own : name = container <;> simp [own]

/-- Erasing another container leaves what is found. -/
theorem find?_erase_of_ne (differs : container ≠ name) :
    (registry.erase name).find? container = registry.find? container := by
  rw [find?, find?, erase, List.find?_filter]
  congr 2
  funext entry
  by_cases own : entry.1 = container
  · simp [own, differs]
  · simp [own]

/-- A change to the timer of a container is found there. -/
theorem find?_update_self (change : Timer → Timer) :
    (registry.update container change).find? container =
      (registry.find? container).map change := by
  rw [find?, find?, update, List.find?_map, Option.map_map, Option.map_map]
  have same : ((fun entry : String × Timer => decide (entry.1 = container)) ∘ fun entry =>
      if entry.1 = container then (entry.1, change entry.2) else entry) =
        fun entry => decide (entry.1 = container) := by
    funext entry
    rw [Function.comp_apply]
    split <;> rfl
  rw [same]
  apply Option.map_congr
  intro entry found
  have own : entry.1 = container := by simpa using List.find?_some found
  rw [Function.comp_apply, Function.comp_apply, if_pos own]

/-- A change to the timer of another container is not seen. -/
theorem find?_update_of_ne (differs : container ≠ name) (change : Timer → Timer) :
    (registry.update name change).find? container = registry.find? container := by
  rw [find?, find?, update, List.find?_map, Option.map_map]
  have same : ((fun entry : String × Timer => decide (entry.1 = container)) ∘ fun entry =>
      if entry.1 = name then (entry.1, change entry.2) else entry) =
        fun entry => decide (entry.1 = container) := by
    funext entry
    rw [Function.comp_apply]
    split <;> rfl
  rw [same]
  apply Option.map_congr
  intro entry found
  have own : entry.1 = container := by simpa using List.find?_some found
  rw [Function.comp_apply, if_neg fun other => differs (own.symm.trans other)]

end Timers

/-- Releasing several names leaves the others reserved. -/
theorem foldl_release (names : List String) : names.foldl release registry =
    { registry with stopping := registry.stopping.filter fun name => name ∉ names } := by
  induction names generalizing registry with
  | nil => simp
  | cons name rest ih =>
      rw [List.foldl_cons, ih, release, List.filter_filter]
      congr 2
      funext other
      simp [Bool.and_comm]

/-- The timer of a container is the one that waits for its probe, if any does. -/
theorem find?_timers {registry : Registry} {container : String}
    (keyed : ∀ entry ∈ registry.timers, entry.2.container = entry.1)
    (distinct : (registry.timers.map Prod.fst).Nodup) :
    (registry.timers.map Prod.snd).find? (Timer.probes container) =
      (registry.find? container).filter Timer.probing := by
  obtain ⟨timers, stopping, closed⟩ := registry
  rw [find?]
  dsimp only at keyed distinct ⊢
  induction timers with
  | nil => rfl
  | cons entry rest ih =>
      obtain ⟨name, timer⟩ := entry
      obtain ⟨own, keyed⟩ := List.forall_mem_cons.mp keyed
      obtain ⟨new, distinct⟩ := List.nodup_cons.mp distinct
      dsimp only at own new
      rw [List.map_cons, List.find?_cons, List.find?_cons, Timer.probes, own]
      by_cases same : name = container
      · subst same
        rw [decide_eq_true rfl, Bool.true_and]
        cases inFlight : timer.probing with
        | true => simp [Option.filter, inFlight]
        | false =>
            have absent : name ∉ (rest.map Prod.snd).map Timer.container := by
              intro member
              obtain ⟨other, present, named⟩ := List.mem_map.mp member
              obtain ⟨entry, inside, rfl⟩ := List.mem_map.mp present
              exact new (named ▸ keyed entry inside ▸ List.mem_map_of_mem inside)
            rw [StopCall.find?_eq_none_of_not_mem name _ absent]
            simp [Option.filter, inFlight]
      · rw [decide_eq_false same, Bool.false_and]
        exact ih keyed distinct

end Registry

namespace Supervision

/-- A supervision in which every timer is where it belongs. -/
structure Orderly (supervision : Supervision) : Prop where
  keyed : ∀ entry ∈ supervision.registry.timers, entry.2.container = entry.1
  distinct : (supervision.timers.map Timer.container).Nodup
  settled : supervision.Settled
  /-- Every call waits for its first timer. -/
  waits : ∀ call ∈ supervision.stops, ∃ timers, call.timers = StopCall.advance timers
  reserves : ∀ container ∈ supervision.registry.stopping,
    ∃ call ∈ supervision.stops, call.reserved = some container
  reserved : ∀ call ∈ supervision.stops, ∀ container, call.reserved = some container →
    ∀ timer ∈ call.timers, timer.container = container

namespace Orderly

variable {supervision : Supervision} (orderly : supervision.Orderly) {container : String}

include orderly

/-- No container is registered twice. -/
theorem nodup_registry : (supervision.registry.timers.map Prod.fst).Nodup := by
  have distinct := orderly.distinct
  rw [timers, List.map_append] at distinct
  have names : (supervision.registry.timers.map Prod.snd).map Timer.container =
      supervision.registry.timers.map Prod.fst := by
    rw [List.map_map]
    exact List.map_congr_left orderly.keyed
  rw [names] at distinct
  exact (List.nodup_append'.mp distinct).1

/-- No container is stopped by two calls, or twice by one. -/
theorem nodup_stops :
    ((supervision.stops.flatMap StopCall.timers).map Timer.container).Nodup := by
  have distinct := orderly.distinct
  rw [timers, List.map_append] at distinct
  exact (List.nodup_append'.mp distinct).2.1

/-- A container that has a timer is not one that a call waits for. -/
theorem awaited?_of_registered {timer : Timer}
    (registered : supervision.registry.find? container = some timer) :
    StopCall.awaited? container supervision.stops = none := by
  have member := supervision.registry.mem_timers_of_find? container registered
  have named : timer.container = container := orderly.keyed _ member
  have distinct := orderly.distinct
  rw [timers, List.map_append] at distinct
  rw [StopCall.awaited?, StopCall.find?_eq_none_of_not_mem]
  · rfl
  · apply (List.nodup_append'.mp distinct).2.2
    exact List.mem_map.mpr ⟨timer, List.mem_map.mpr ⟨_, member, rfl⟩, named⟩

/-- An identifier is reserved while a call waits for the probe of its container. -/
theorem awaited?_of_reserved (reserved : container ∈ supervision.registry.stopping) :
    (StopCall.awaited? container supervision.stops).isSome = true := by
  obtain ⟨call, member, reserves⟩ := orderly.reserves container reserved
  obtain ⟨begun, advanced⟩ := orderly.waits call member
  cases timers : call.timers with
  | nil =>
      have busy := orderly.settled call member
      rw [StopCall.finished, timers] at busy
      cases busy
  | cons timer rest =>
      have first : timer ∈ call.timers := timers ▸ List.mem_cons_self
      have inFlight := StopCall.probing_of_advance begun (advanced.symm.trans timers)
      have named := orderly.reserved call member container reserves timer first
      rw [StopCall.awaited?, Option.isSome_map, List.find?_isSome]
      refine ⟨timer, List.mem_flatMap.mpr ⟨call, member, first⟩, ?_⟩
      rw [Timer.probes, named, inFlight, decide_eq_true rfl]
      rfl

/-- The identifier of a container that has a timer is free. -/
theorem not_reserved_of_registered {timer : Timer}
    (registered : supervision.registry.find? container = some timer) :
    container ∉ supervision.registry.stopping := by
  intro reserved
  have awaited := orderly.awaited?_of_reserved reserved
  rw [orderly.awaited?_of_registered registered] at awaited
  cases awaited

end Orderly

/-- What settling leaves of a container: only its identifier may have become free. -/
theorem share_settle (supervision : Supervision) (container : String) :
    supervision.settle.share container =
      { supervision.share container with
        reserved := supervision.registry.stopping.contains container &&
          !supervision.stops.any fun call => call.finished && call.reserved = some container } := by
  have freed : (container ∈ (supervision.stops.filter StopCall.finished).filterMap
      StopCall.reserved) ↔ (supervision.stops.any fun call =>
        call.finished && call.reserved = some container) = true := by
    simp [List.mem_filterMap, and_assoc]
  rw [share, share, settle]
  dsimp only
  rw [Registry.foldl_release, StopCall.awaited?_filter_unfinished]
  congr 1
  rw [Bool.eq_iff_iff]
  simp only [List.contains_iff_mem, List.mem_filter, decide_eq_true_eq, freed, Bool.and_eq_true,
    Bool.not_eq_true', Bool.not_eq_true]

end Supervision

end HealthWatch
