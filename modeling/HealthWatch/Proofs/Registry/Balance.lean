import HealthWatch.Proofs.Registry.Custody
import Mathlib.Data.List.Flatten

/-! # The balance of a custody

The invariant `Custody.Balanced` accounts for every registration: it is in the registry, or
consumed by a call in progress, or by one that has returned.
-/

namespace HealthWatch

/-- A registration and the call that consumed it. -/
structure Consumption where
  caller : Nat
  /-- The container that the call unregisters, or nothing when it shuts everything down. -/
  container : Option String
  registration : Registration
  deriving DecidableEq, Repr

/-- What a call in progress consumed. -/
def Removal.consumptions (removal : Removal) : List Consumption :=
  removal.consumed.map (⟨removal.caller, removal.container, ·⟩)

/-- A charge after its timer changed in a way that starts no loop. -/
structure Charge.Continues (before after : Charge) : Prop where
  registration : after.registration = before.registration
  container : after.timer.container = before.timer.container
  loop : after.timer.loop.isSome = true → before.timer.loop.isSome = true

namespace Charge.Continues

theorem refl (charge : Charge) : charge.Continues charge := ⟨rfl, rfl, id⟩

variable (charge : Charge)

theorem deactivate : charge.Continues { charge with timer := charge.timer.deactivate } :=
  ⟨rfl, rfl, id⟩

theorem exit : charge.Continues { charge with timer := charge.timer.exit } :=
  ⟨rfl, rfl, fun alive => by cases alive⟩

/-- Calling a probe starts no loop. -/
theorem callProbe : charge.Continues { charge with timer := charge.timer.callProbe } := by
  refine ⟨rfl, ?_, ?_⟩
  · rw [Timer.callProbe]
    split <;> rfl
  · rw [Timer.callProbe]
    split
    · rename_i some
      intro _
      rw [some]
      rfl
    · exact id

/-- A probe that comes back starts no loop. -/
theorem finishProbe (now : Int) (result : Timer.Return) :
    charge.Continues { charge with timer := (charge.timer.finishProbe now result).1 } := by
  cases result with
  | crash =>
      refine ⟨rfl, ?_, ?_⟩
      · rw [Timer.finishProbe, Timer.crash]
        split <;> rfl
      · rw [Timer.finishProbe, Timer.crash]
        split
        · intro alive
          cases alive
        · exact id
  | outcome outcome =>
      refine ⟨rfl, ?_, ?_⟩
      · rw [Timer.finishProbe, Timer.tick]
        split <;> rfl
      · rw [Timer.finishProbe, Timer.tick]
        split
        · rename_i some
          intro _
          rw [some]
          rfl
        · exact id

end Charge.Continues

/-- A call that goes on while the given loops run: it lets go of no timer whose loop runs. -/
structure Removal.Proceeds (loops : List Registration) (before after : Removal) : Prop where
  caller : after.caller = before.caller
  container : after.container = before.container
  consumed : after.consumed = before.consumed
  held : after.held.Sublist before.held
  kept : ∀ loop ∈ loops, loop ∈ before.held → loop ∈ after.held
  charges : ∀ charge ∈ after.charges, ∃ earlier ∈ before.charges, earlier.Continues charge

namespace Removal

variable (removal : Removal) (loops : List Registration)

theorem Proceeds.refl : removal.Proceeds loops removal :=
  ⟨rfl, rfl, rfl, .refl _, fun _ _ => id, fun charge member => ⟨charge, member, .refl charge⟩⟩

/-- Cancelling lets go of no timer. -/
theorem proceeds_cancel : removal.Proceeds loops removal.cancel := by
  obtain ⟨caller, charges, container, consumed⟩ := removal
  cases charges with
  | nil => exact .refl _ _
  | cons first rest =>
      refine ⟨rfl, rfl, rfl, .refl _, fun _ _ => id, fun charge member => ?_⟩
      rcases List.mem_cons.mp member with rfl | later
      · exact ⟨first, List.mem_cons_self, .deactivate first⟩
      · exact ⟨charge, List.mem_cons_of_mem _ later, .refl charge⟩

/-- Only a timer whose loop has ended is let go of. -/
theorem proceeds_join : removal.Proceeds loops (removal.join loops) := by
  obtain ⟨caller, charges, container, consumed⟩ := removal
  cases charges with
  | nil => exact .refl _ _
  | cons first rest =>
      dsimp only [join]
      by_cases ended : first.timer.running = false ∧ first.registration ∉ loops
      · rw [if_pos ended]
        refine ⟨rfl, rfl, rfl, List.sublist_cons_self _ _, fun loop runs holds => ?_,
          fun charge member => ⟨charge, List.mem_cons_of_mem _ member, .refl charge⟩⟩
        rcases List.mem_cons.mp holds with rfl | later
        · exact absurd runs ended.2
        · exact later
      · rw [if_neg ended]
        exact .refl _ _

/-- What happens to a loop takes no registration from a call. -/
theorem held_adjust (loop : Registration) (change : Timer → Timer) :
    (removal.adjust loop change).held = removal.held := by
  rw [held, held, adjust, List.map_map]
  apply List.map_congr_left
  intro charge member
  rw [Function.comp_apply]
  split <;> rfl

/-- A call goes on when something happens to one of its loops. -/
theorem proceeds_adjust (loop : Registration) {change : Timer → Timer}
    (continues : ∀ charge : Charge, charge.Continues { charge with timer := change charge.timer }) :
    removal.Proceeds loops (removal.adjust loop change) := by
  have held := removal.held_adjust loop change
  refine ⟨rfl, rfl, rfl, by rw [held], fun _ _ => by rw [held]; exact id, fun charge member => ?_⟩
  obtain ⟨earlier, present, rfl⟩ := List.mem_map.mp member
  refine ⟨earlier, present, ?_⟩
  split
  · exact continues earlier
  · exact .refl earlier

end Removal

namespace CustodyEvent

/-- The registrations that were made, in their order. -/
def registeredIn (seen : List CustodyEvent) : List Registration :=
  seen.flatMap fun
    | .registered _ registration => [registration]
    | _ => []

/-- What the calls that returned had consumed. -/
def consumedIn (seen : List CustodyEvent) : List Consumption :=
  seen.flatMap fun
    | .returned caller container consumed => consumed.map (⟨caller, container, ·⟩)
    | _ => []

theorem registeredIn_append (before after : List CustodyEvent) :
    registeredIn (before ++ after) = registeredIn before ++ registeredIn after :=
  List.flatMap_append

theorem consumedIn_append (before after : List CustodyEvent) :
    consumedIn (before ++ after) = consumedIn before ++ consumedIn after :=
  List.flatMap_append

end CustodyEvent

namespace Custody

open CustodyEvent

/-- The registrations that the registry holds. -/
def entered (custody : Custody) : List Registration := custody.entries.map Charge.registration

/-- The registrations whose timers are in the registry or still to be stopped. -/
def held (custody : Custody) : List Registration :=
  custody.entered ++ custody.removals.flatMap Removal.held

/-- What the calls in progress and those that returned have consumed. -/
def consumptions (custody : Custody) (seen : List CustodyEvent) : List Consumption :=
  custody.removals.flatMap Removal.consumptions ++ consumedIn seen

/-- What holds of a custody after everything that was seen of its calls. -/
structure Balanced (custody : Custody) (seen : List CustodyEvent) : Prop where
  numbered : (registeredIn seen).map Registration.number = List.range custody.issued
  /-- No registration is lost, and none is consumed twice. -/
  account : (custody.entered ++ (custody.consumptions seen).map Consumption.registration).Perm
    (registeredIn seen)
  part : ∀ removal ∈ custody.removals, removal.held.Sublist removal.consumed
  distinct : (custody.held.map Registration.container).Nodup
  running : custody.loops ⊆ custody.held
  single : custody.loops.Nodup
  reserved : custody.registry.stopping.Perm (custody.removals.filterMap Removal.container)
  once : custody.registry.stopping.Nodup
  apart : ∀ container ∈ custody.registry.containers, container ∉ custody.registry.stopping
  closed : custody.registry.closed = true → custody.registry.timers = []
  shut : ∀ removal ∈ custody.removals, removal.container = none →
    custody.registry.closed = true
  callers : (custody.removals.map Removal.caller).Nodup
  named : ∀ removal ∈ custody.removals, ∀ container, removal.container = some container →
    ∃ number, removal.consumed = [⟨number, container⟩]
  answered : ∀ caller container consumed, .returned caller (some container) consumed ∈ seen →
    ∃ number, consumed = [⟨number, container⟩]
  /-- A timer belongs to the container that it is registered for, and as long as it has a loop
  that loop runs. -/
  tied : ∀ charge ∈ custody.charges, charge.timer.container = charge.registration.container ∧
    (charge.timer.loop.isSome = true → charge.registration ∈ custody.loops)

section Projections

variable (custody : Custody)

/-- Every registered container stands for its latest registration. -/
theorem entered_eq : custody.entered =
    custody.registry.containers.map fun container => ⟨custody.latest container, container⟩ := by
  rw [entered, entries, Registry.containers, List.map_map, List.map_map]
  rfl

@[simp] theorem map_container_entered :
    custody.entered.map Registration.container = custody.registry.containers := by
  rw [entered_eq, List.map_map]
  exact List.map_id _

/-- What is held is the registrations of all charges. -/
theorem held_eq : custody.held = custody.charges.map Charge.registration := by
  rw [held, charges, List.map_append, List.map_flatMap]
  rfl

/-- What is held is the same whoever has the timers. -/
theorem held_perm {later : Custody} (charges : custody.charges.Perm later.charges) :
    custody.held.Perm later.held := by
  rw [held_eq, held_eq]
  exact charges.map _

theorem mem_held {registration : Registration} : registration ∈ custody.held ↔
    registration ∈ custody.entered ∨
      ∃ removal ∈ custody.removals, registration ∈ removal.held := by
  rw [held, List.mem_append, List.mem_flatMap]

theorem mem_charges {charge : Charge} : charge ∈ custody.charges ↔
    charge ∈ custody.entries ∨ ∃ removal ∈ custody.removals, charge ∈ removal.charges := by
  rw [charges, List.mem_append, List.mem_flatMap]

end Projections

namespace Balanced

variable {custody : Custody} {seen : List CustodyEvent}

/-- Before anything was done, the balance holds. -/
theorem empty : Balanced Custody.empty [] := by
  constructor
  case numbered => rfl
  case account => exact .refl _
  case once => exact .nil
  case reserved => exact .refl _
  case distinct => exact .nil
  case single => exact .nil
  case callers => exact .nil
  all_goals simp [Custody.empty, Registry.empty, Registry.containers, charges, entries]

/-- A call that did not come to anything leaves the balance. -/
theorem note (balanced : Balanced custody seen) {event : CustodyEvent}
    (idle : registeredIn [event] = []) (empty : consumedIn [event] = [])
    (other : ∀ caller container consumed, event ≠ .returned caller container consumed) :
    Balanced custody (seen ++ [event]) where
  numbered := by
    rw [registeredIn_append, idle, List.append_nil]
    exact balanced.numbered
  account := by
    rw [registeredIn_append, idle, consumptions, consumedIn_append, empty, List.append_nil,
      List.append_nil]
    exact balanced.account
  part := balanced.part
  distinct := balanced.distinct
  running := balanced.running
  single := balanced.single
  reserved := balanced.reserved
  once := balanced.once
  apart := balanced.apart
  closed := balanced.closed
  shut := balanced.shut
  callers := balanced.callers
  named := balanced.named
  answered caller container consumed member := by
    rcases List.mem_append.mp member with earlier | last
    · exact balanced.answered caller container consumed earlier
    · exact absurd (List.mem_singleton.mp last).symm (other _ _ _)
  tied := balanced.tied

/-- The numbers of the registrations made so far are all different. -/
theorem nodup_registeredIn (balanced : Balanced custody seen) : (registeredIn seen).Nodup := by
  have numbers : ((registeredIn seen).map Registration.number).Nodup := by
    rw [balanced.numbered]
    exact List.nodup_range
  exact numbers.of_map _

/-- A container has one timer in the registry. -/
theorem nodup_containers_registry (balanced : Balanced custody seen) :
    custody.registry.containers.Nodup := by
  have distinct := balanced.distinct
  rw [held, List.map_append, map_container_entered] at distinct
  exact (List.nodup_append.mp distinct).1

/-- A call that unregisters a container has its identifier reserved. -/
theorem stopping_of_unregister (balanced : Balanced custody seen) {removal : Removal}
    {container : String} (member : removal ∈ custody.removals)
    (unregisters : removal.container = some container) :
    container ∈ custody.registry.stopping :=
  balanced.reserved.mem_iff.mpr (List.mem_filterMap.mpr ⟨removal, member, unregisters⟩)

/-- A call that unregisters a container holds nothing but its timer. -/
theorem held_of_unregister (balanced : Balanced custody seen) {removal : Removal}
    {container : String} (member : removal ∈ custody.removals)
    (unregisters : removal.container = some container) {registration : Registration}
    (holds : registration ∈ removal.held) : registration.container = container := by
  obtain ⟨number, consumed⟩ := balanced.named removal member container unregisters
  have present := (balanced.part removal member).subset holds
  rw [consumed, List.mem_singleton] at present
  rw [present]

/-- Nothing that anybody holds belongs to a container that can be registered. -/
theorem container_ne_of_held (balanced : Balanced custody seen)
    (opened : custody.registry.closed = false) {container : String}
    (absent : container ∉ custody.registry.containers)
    (free : container ∉ custody.registry.stopping) {registration : Registration}
    (member : registration ∈ custody.held) : registration.container ≠ container := by
  rintro rfl
  rcases custody.mem_held.mp member with entered | ⟨removal, member, holds⟩
  · apply absent
    rw [← map_container_entered]
    exact List.mem_map_of_mem entered
  · cases unregisters : removal.container with
    | none =>
        rw [balanced.shut removal member unregisters] at opened
        cases opened
    | some container =>
        rw [balanced.held_of_unregister member unregisters holds] at free
        exact free (balanced.stopping_of_unregister member unregisters)

end Balanced

end Custody

end HealthWatch
