import HealthWatch.Proofs.Registry.Interleaving
import Mathlib.Data.List.Pairwise

/-! # Who owns a loop

However the calls of any number of threads are interleaved, a loop that runs belongs to exactly
one entry of the registry or call in progress, and a registration is consumed by at most one
call.
-/

namespace HealthWatch

/-- Who is responsible for a loop. -/
inductive Owner
  | entry (container : String)
  | unregister (caller : Nat) (container : String)
  | shutdown (caller : Nat)
  deriving DecidableEq, Repr

namespace Custody

open CustodyEvent

/-- Whether an owner is responsible for a loop. -/
def Owns (custody : Custody) (loop : Registration) : Owner → Prop
  | .entry container => loop ∈ custody.entered ∧ loop.container = container
  | .unregister caller container =>
      container ∈ custody.registry.stopping ∧ loop.container = container ∧
        ∃ removal ∈ custody.removals, removal.caller = caller ∧
          removal.container = some container ∧ loop ∈ removal.held
  | .shutdown caller =>
      ∃ removal ∈ custody.removals, removal.caller = caller ∧ removal.container = none ∧
        loop ∈ removal.held

namespace Balanced

variable {custody : Custody} {seen : List CustodyEvent} (balanced : Balanced custody seen)

include balanced

/-- No registration is held twice. -/
theorem nodup_held : custody.held.Nodup := balanced.distinct.of_map _

/-- What the registry holds is held by no call. -/
theorem not_mem_held_of_entered {loop : Registration} (entered : loop ∈ custody.entered)
    {removal : Removal} (member : removal ∈ custody.removals) : loop ∉ removal.held := by
  intro holds
  exact (List.nodup_append'.mp balanced.nodup_held).2.2 entered
    (List.mem_flatMap.mpr ⟨removal, member, holds⟩)

theorem nodup_held_removal {removal : Removal} (member : removal ∈ custody.removals) :
    removal.held.Nodup :=
  (List.nodup_flatMap.mp (List.nodup_append'.mp balanced.nodup_held).2.1).1 removal member

/-- No two calls hold the same timer. -/
theorem eq_of_mem_held {loop : Registration} {one other : Removal}
    (here : one ∈ custody.removals) (there : other ∈ custody.removals)
    (holds : loop ∈ one.held) (too : loop ∈ other.held) : one = other := by
  have apart := (List.nodup_flatMap.mp (List.nodup_append'.mp balanced.nodup_held).2.1).2
  have symmetric : Std.Symm (Function.onFun List.Disjoint Removal.held) :=
    ⟨fun _ _ disjoint _ here there => disjoint there here⟩
  by_contra differ
  exact apart.forall here there differ holds too

/-- Somebody is responsible for every loop that runs. -/
theorem exists_owner {loop : Registration} (runs : loop ∈ custody.loops) :
    ∃ owner, custody.Owns loop owner := by
  rcases custody.mem_held.mp (balanced.running runs) with entered | ⟨removal, member, holds⟩
  · exact ⟨.entry loop.container, entered, rfl⟩
  · cases unregisters : removal.container with
    | none => exact ⟨.shutdown removal.caller, removal, member, rfl, unregisters, holds⟩
    | some container =>
        exact ⟨.unregister removal.caller container,
          balanced.stopping_of_unregister member unregisters,
          balanced.held_of_unregister member unregisters holds,
          removal, member, rfl, unregisters, holds⟩

/-- Nobody else is responsible for that loop. -/
theorem owner_unique {loop : Registration} {one other : Owner} (owns : custody.Owns loop one)
    (too : custody.Owns loop other) : one = other := by
  cases one with
  | entry container =>
      obtain ⟨entered, rfl⟩ := owns
      cases other with
      | entry container => exact congrArg Owner.entry too.2
      | unregister caller container =>
          obtain ⟨-, -, removal, member, -, -, holds⟩ := too
          exact absurd holds (balanced.not_mem_held_of_entered entered member)
      | shutdown caller =>
          obtain ⟨removal, member, -, -, holds⟩ := too
          exact absurd holds (balanced.not_mem_held_of_entered entered member)
  | unregister caller container =>
      obtain ⟨-, rfl, removal, member, rfl, unregisters, holds⟩ := owns
      cases other with
      | entry container => exact absurd holds (balanced.not_mem_held_of_entered too.1 member)
      | unregister caller container =>
          obtain ⟨-, rfl, another, here, rfl, -, holdsToo⟩ := too
          rw [balanced.eq_of_mem_held member here holds holdsToo]
      | shutdown caller =>
          obtain ⟨another, here, -, shuts, holdsToo⟩ := too
          rw [balanced.eq_of_mem_held member here holds holdsToo, shuts] at unregisters
          cases unregisters
  | shutdown caller =>
      obtain ⟨removal, member, rfl, shuts, holds⟩ := owns
      cases other with
      | entry container => exact absurd holds (balanced.not_mem_held_of_entered too.1 member)
      | unregister caller container =>
          obtain ⟨-, -, another, here, -, unregisters, holdsToo⟩ := too
          rw [balanced.eq_of_mem_held member here holds holdsToo, unregisters] at shuts
          cases shuts
      | shutdown caller =>
          obtain ⟨another, here, rfl, -, holdsToo⟩ := too
          rw [balanced.eq_of_mem_held member here holds holdsToo]

/-- At most one loop runs for a container. -/
theorem nodup_containers : (custody.loops.map Registration.container).Nodup := by
  refine balanced.single.map_on fun one here other there same => ?_
  exact List.inj_on_of_nodup_map balanced.distinct (balanced.running here)
    (balanced.running there) same

theorem nodup_consumptions :
    ((custody.consumptions seen).map Consumption.registration).Nodup :=
  (List.nodup_append'.mp (balanced.account.symm.nodup balanced.nodup_registeredIn)).2.1

/-- The loop of a registration that a call has consumed for good does not run any more. -/
theorem not_running_of_consumed {consumption : Consumption}
    (returned : consumption ∈ consumedIn seen) :
    consumption.registration ∉ custody.loops := by
  intro runs
  have distinct := balanced.account.symm.nodup balanced.nodup_registeredIn
  rw [consumptions, List.map_append] at distinct
  obtain ⟨-, consumed, apart⟩ := List.nodup_append'.mp distinct
  have gone : consumption.registration ∈ (consumedIn seen).map Consumption.registration :=
    List.mem_map_of_mem returned
  rcases custody.mem_held.mp (balanced.running runs) with entered | ⟨removal, member, holds⟩
  · exact apart entered (List.mem_append_right _ gone)
  · have present := (balanced.part removal member).subset holds
    refine (List.nodup_append'.mp consumed).2.2 ?_ gone
    refine List.mem_map.mpr ⟨⟨removal.caller, removal.container, consumption.registration⟩, ?_, rfl⟩
    exact List.mem_flatMap.mpr ⟨removal, member, List.mem_map.mpr ⟨_, present, rfl⟩⟩

end Balanced

/-- What a custody promises after everything that was seen of its calls. -/
structure Exclusive (custody : Custody) (seen : List CustodyEvent) : Prop where
  single : (custody.loops.map Registration.container).Nodup
  apart : ∀ container ∈ custody.registry.containers, container ∉ custody.registry.stopping
  closed : custody.registry.closed = true → custody.registry.timers = []
  owned : ∀ loop ∈ custody.loops, ∃! owner, custody.Owns loop owner
  numbered : (registeredIn seen).Nodup
  /-- A registration is in the registry, or it has been consumed by one call. -/
  account : (custody.entered ++ (custody.consumptions seen).map Consumption.registration).Perm
    (registeredIn seen)
  consumed : ((custody.consumptions seen).map Consumption.registration).Nodup
  /-- A call that unregisters a container consumes one registration, and that container stays
  reserved while the call is in progress. -/
  unregisters : ∀ removal ∈ custody.removals, ∀ container,
    removal.container = some container →
      container ∈ custody.registry.stopping ∧ ∃ number, removal.consumed = [⟨number, container⟩]
  unregistered : ∀ caller container consumed,
    .returned caller (some container) consumed ∈ seen → ∃ number, consumed = [⟨number, container⟩]
  /-- A call returns when the loops of all that it consumed have ended. -/
  ended : ∀ consumption ∈ consumedIn seen, consumption.registration ∉ custody.loops
  /-- A timer that has a loop is one whose loop runs. -/
  tied : ∀ charge ∈ custody.charges, charge.timer.container = charge.registration.container ∧
    (charge.timer.loop.isSome = true → charge.registration ∈ custody.loops)

/-- The balance leaves every loop with one owner, and every registration with one call that consumes
it. -/
theorem Balanced.exclusive {custody : Custody} {seen : List CustodyEvent}
    (balanced : Balanced custody seen) : Exclusive custody seen where
  single := balanced.nodup_containers
  apart := balanced.apart
  closed := balanced.closed
  owned loop runs := by
    obtain ⟨owner, owns⟩ := balanced.exists_owner runs
    exact ⟨owner, owns, fun other too => balanced.owner_unique too owns⟩
  numbered := balanced.nodup_registeredIn
  account := balanced.account
  consumed := balanced.nodup_consumptions
  unregisters removal member container unregisters :=
    ⟨balanced.stopping_of_unregister member unregisters,
      balanced.named removal member container unregisters⟩
  unregistered := balanced.answered
  ended _ := balanced.not_running_of_consumed
  tied := balanced.tied

/-- However the calls and the loops are interleaved, every loop that runs has one owner and
every registration is consumed at most once. -/
theorem exclusive_run (actions : List CustodyAction) :
    Exclusive (empty.run actions).1 (empty.run actions).2 :=
  (Balanced.empty.run actions).exclusive

-- A container cannot be registered again before the call that unregisters it returns.
example :
    let check : Healthcheck := ⟨["true"], 30, 30, 0, 3, true⟩
    (empty.run
      [.register 1 0 "c1" check, .unregister 2 "c1", .register 1 5 "c1" check, .finish 2,
        .cancel 2, .exit ⟨0, "c1"⟩, .join 2, .finish 2, .register 1 9 "c1" check]).2 =
      [.registered 1 ⟨0, "c1"⟩, .refused 1 (.timerNotStarted "c1" .stillStopping),
        .returned 2 (some "c1") [⟨0, "c1"⟩], .registered 1 ⟨1, "c1"⟩] := by
  decide

end Custody

end HealthWatch
