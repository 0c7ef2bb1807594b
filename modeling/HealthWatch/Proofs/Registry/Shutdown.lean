import HealthWatch.Proofs.Registry.Stopping

/-! # After a shutdown

From the moment a shutdown closes the registry no loop is started any more. The call waits for the
timers that it took out itself and not for those that another call was stopping already, whose
loops may still run when it returns (`Custody.shutdown_returns_early`). Each of them belongs to a
call that was in progress when the registry was closed and still is (`Custody.drained_of_returned`).
-/

namespace HealthWatch

/-- A call some steps later. It may have let go of timers, and took no others. -/
structure Removal.Continues (earlier later : Removal) : Prop where
  caller : later.caller = earlier.caller
  container : later.container = earlier.container
  consumed : later.consumed = earlier.consumed
  held : later.held.Sublist earlier.held

namespace Removal.Continues

theorem refl (removal : Removal) : removal.Continues removal := ⟨rfl, rfl, rfl, .refl _⟩

theorem trans {first second third : Removal} (here : first.Continues second)
    (there : second.Continues third) : first.Continues third :=
  ⟨there.caller.trans here.caller, there.container.trans here.container,
    there.consumed.trans here.consumed, there.held.trans here.held⟩

end Removal.Continues

theorem Removal.Proceeds.continues {loops : List Registration} {before after : Removal}
    (proceeds : before.Proceeds loops after) : before.Continues after :=
  ⟨proceeds.caller, proceeds.container, proceeds.consumed, proceeds.held⟩

theorem Removal.continues_adjust (removal : Removal) (loop : Registration)
    (change : Timer → Timer) : removal.Continues (removal.adjust loop change) :=
  ⟨rfl, rfl, rfl, by rw [removal.held_adjust]⟩

namespace Custody

open CustodyEvent

/-- What is seen of steps in two parts is what is seen of each. -/
theorem run_append_snd (custody : Custody) (first second : List CustodyAction) :
    (custody.run (first ++ second)).2 =
      (custody.run first).2 ++ ((custody.run first).1.run second).2 := by
  induction first generalizing custody with
  | nil => rfl
  | cons action rest ih =>
      rw [List.cons_append, run, run, List.append_assoc]
      exact congrArg _ (ih _)

/-! ## Steps -/

/-- What a call that shuts everything down finds when it begins. -/
structure Drains (custody : Custody) (caller : Nat) (order : List Charge) : Prop where
  free : custody.busy caller = false
  all : order.Perm custody.entries

/-- What a step comes to. -/
inductive Effect (custody : Custody) : CustodyAction → Custody → List CustodyEvent → Prop
  /-- Nothing changes, and at most a call that takes nothing out has been answered. -/
  | nothing {action : CustodyAction} {events : List CustodyEvent}
      (quiet : ∀ event ∈ events, (∃ caller failure, event = .refused caller failure) ∨
        ∃ caller container, event = .absent caller container) :
      Effect custody action custody events
  | enters {action : CustodyAction} {caller : Nat} {now : Int} {container : String}
      {check : Healthcheck} {registry : Registry} {snapshot : Snapshot}
      (registered : custody.registry.register now container check = .ok (registry, snapshot)) :
      Effect custody action (custody.enter registry container)
        [.registered caller ⟨custody.issued, container⟩]
  | leaves {action : CustodyAction} {caller : Nat} {container : String} {registry : Registry}
      {timer : Timer} (taken : custody.registry.takeOut container = some (registry, timer)) :
      Effect custody action (custody.leave caller registry container timer) []
  | drains {caller : Nat} {order : List Charge} (drains : custody.Drains caller order) :
      Effect custody (.shutdown caller order) (custody.shutdown caller order) []
  /-- Calls go on, timers change where they are, and loops end. -/
  | proceeds {action : CustodyAction} {registry : Registry} {step : Removal → Removal}
      {loops : List Registration} (still : registry.closed = custody.registry.closed)
      (containers : registry.containers = custody.registry.containers)
      (continues : ∀ removal : Removal, removal.Continues (step removal))
      (fewer : loops ⊆ custody.loops) :
      Effect custody action
        { custody with registry, removals := custody.removals.map step, loops } []
  | finishes {action : CustodyAction} {removal : Removal} (member : removal ∈ custody.removals) :
      Effect custody action (custody.finish removal)
        [.returned removal.caller removal.container removal.consumed]

theorem Effect.idle {custody : Custody} {action : CustodyAction} :
    custody.Effect action custody [] := .nothing nofun

/-- A change to a loop ends loops at most. -/
theorem effect_adjust (custody : Custody) {action : CustodyAction} (loop : Registration)
    (change : Timer → Timer) {loops : List Registration} (fewer : loops ⊆ custody.loops) :
    custody.Effect action { custody.adjust loop change with loops } [] := by
  refine .proceeds ?_ ?_ (fun removal => removal.continues_adjust loop change) fewer
  · rw [adjust]
    split <;> rfl
  · rw [adjust]
    split
    · exact custody.registry.containers_update loop.container change
    · rfl

/-- Every step has one of these effects. -/
theorem effect_act (custody : Custody) (action : CustodyAction) :
    custody.Effect action (custody.act action).1 (custody.act action).2 := by
  have all : custody.loops ⊆ custody.loops := List.Subset.refl _
  cases action with
  | register caller now container check =>
      rw [act]
      split
      · exact .idle
      · rw [register]
        split
        · exact .nothing (List.forall_mem_singleton.mpr (.inl ⟨_, _, rfl⟩))
        · rename_i registered
          exact .enters registered
  | unregister caller container =>
      rw [act]
      split
      · exact .idle
      · rw [unregister]
        split
        · exact .nothing (List.forall_mem_singleton.mpr (.inr ⟨_, _, rfl⟩))
        · rename_i taken
          exact .leaves taken
  | shutdown caller order =>
      rw [act]
      split
      · rename_i free
        exact .drains ⟨by simpa using free.1, free.2⟩
      · exact .idle
  | cancel caller =>
      refine .proceeds rfl rfl (fun removal => ?_) all
      split
      · exact (removal.proceeds_cancel custody.loops).continues
      · exact .refl removal
  | join caller =>
      refine .proceeds rfl rfl (fun removal => ?_) all
      split
      · exact (removal.proceeds_join custody.loops).continues
      · exact .refl removal
  | finish caller =>
      rw [act]
      split
      · exact .idle
      · rename_i removal found
        have done := List.find?_some found
        rw [Bool.and_eq_true, decide_eq_true_eq] at done
        obtain ⟨rfl, -⟩ := done
        exact .finishes (List.mem_of_find?_eq_some found)
  | callProbe loop =>
      rw [act]
      split
      · exact custody.effect_adjust loop _ all
      · exact .idle
  | finishProbe loop now result =>
      rw [act]
      split
      · exact custody.effect_adjust loop _ all
      · exact .idle
  | exit loop =>
      rw [act]
      split
      · exact custody.effect_adjust loop _ (List.filter_subset_self _)
      · exact .idle

/-! ## Where calls come from -/

section Effects

variable {custody later : Custody} {action : CustodyAction} {events : List CustodyEvent}
  (effect : custody.Effect action later events)

include effect

/-- A call in progress was in progress before the step, or the step began it. -/
theorem Effect.origin {removal : Removal} (member : removal ∈ later.removals) :
    (∃ earlier ∈ custody.removals, earlier.Continues removal) ∨
      (∃ order, action = .shutdown removal.caller order ∧
        custody.Drains removal.caller order ∧ removal.consumed = order.map Charge.registration) ∨
      ∃ container, removal.container = some container := by
  cases effect with
  | nothing => exact .inl ⟨removal, member, .refl removal⟩
  | enters => exact .inl ⟨removal, member, .refl removal⟩
  | leaves taken =>
      rcases List.mem_append.mp member with earlier | last
      · exact .inl ⟨removal, earlier, .refl removal⟩
      · cases List.mem_singleton.mp last
        exact .inr (.inr ⟨_, rfl⟩)
  | drains drains =>
      rcases List.mem_append.mp member with earlier | last
      · exact .inl ⟨removal, earlier, .refl removal⟩
      · cases List.mem_singleton.mp last
        exact .inr (.inl ⟨_, rfl, drains, rfl⟩)
  | proceeds _ _ continues _ =>
      obtain ⟨earlier, present, rfl⟩ := List.mem_map.mp member
      exact .inl ⟨earlier, present, continues earlier⟩
  | finishes => exact .inl ⟨removal, (List.mem_filter.mp member).1, .refl removal⟩

/-- A call that returns was in progress. -/
theorem Effect.mem_of_returned {caller : Nat} {container : Option String}
    {consumed : List Registration} (returned : .returned caller container consumed ∈ events) :
    ∃ removal ∈ custody.removals, removal.caller = caller ∧ removal.container = container ∧
      removal.consumed = consumed := by
  cases effect with
  | nothing quiet =>
      rcases quiet _ returned with ⟨_, _, other⟩ | ⟨_, _, other⟩
      · cases other
      · cases other
  | enters => cases List.mem_singleton.mp returned
  | leaves => cases returned
  | drains => cases returned
  | proceeds => cases returned
  | finishes member =>
      cases List.mem_singleton.mp returned
      exact ⟨_, member, rfl, rfl, rfl⟩

end Effects

/-- A shutdown that returned was in progress at first, or began in one of the steps. -/
theorem began_of_returned (custody : Custody) (actions : List CustodyAction) {caller : Nat}
    {consumed : List Registration}
    (returned : .returned caller none consumed ∈ (custody.run actions).2) :
    (∃ removal ∈ custody.removals, removal.caller = caller ∧ removal.container = none ∧
      removal.consumed = consumed) ∨
    ∃ before order during, actions = before ++ .shutdown caller order :: during ∧
      (custody.run before).1.Drains caller order ∧ consumed = order.map Charge.registration := by
  induction actions generalizing custody with
  | nil => cases returned
  | cons action rest ih =>
      rw [run] at returned
      rcases List.mem_append.mp returned with now | later
      · exact .inl ((custody.effect_act action).mem_of_returned now)
      · -- A call that was in progress behind the first step may have been begun by it.
        rcases ih _ later with
          ⟨removal, member, rfl, shuts, rfl⟩ | ⟨before, order, during, rfl, began⟩
        · rcases (custody.effect_act action).origin member with
            ⟨earlier, present, continues⟩ | ⟨order, rfl, drains, consumed⟩ | ⟨_, unregisters⟩
          · exact .inl ⟨earlier, present, continues.caller.symm, continues.container ▸ shuts,
              continues.consumed.symm⟩
          · exact .inr ⟨[], order, rest, rfl, drains, consumed⟩
          · rw [shuts] at unregisters
            cases unregisters
        · exact .inr ⟨action :: before, order, during, rfl, began⟩

/-! ## A closed registry -/

/-- What has become of a closed registry after some steps. -/
structure Winds (custody later : Custody) (events : List CustodyEvent) : Prop where
  closed : later.registry.closed = true
  empty : later.registry.timers = []
  started : later.loops ⊆ custody.loops
  refused : registeredIn events = []
  /-- The calls in progress are the same ones, or have nothing to stop. -/
  calls : ∀ removal ∈ later.removals, removal.consumed = [] ∨
    ∃ earlier ∈ custody.removals, earlier.Continues removal

/-- What becomes of a closed registry in two parts becomes of it in both together. -/
theorem Winds.trans {first second third : Custody} {events more : List CustodyEvent}
    (here : first.Winds second events) (there : second.Winds third more) :
    first.Winds third (events ++ more) where
  closed := there.closed
  empty := there.empty
  started := List.Subset.trans there.started here.started
  refused := by rw [registeredIn_append, here.refused, there.refused, List.append_nil]
  calls removal member := by
    rcases there.calls removal member with nothing | ⟨between, present, continues⟩
    · exact .inl nothing
    · refine (here.calls between present).imp (continues.consumed.trans ·) ?_
      rintro ⟨earlier, member, before⟩
      exact ⟨earlier, member, before.trans continues⟩

section Closed

variable {custody : Custody} (closed : custody.registry.closed = true)
  (empty : custody.registry.timers = [])

include closed empty

theorem Winds.refl {events : List CustodyEvent} (refused : registeredIn events = []) :
    custody.Winds custody events :=
  ⟨closed, empty, List.Subset.refl _, refused, fun removal member =>
    .inr ⟨removal, member, .refl removal⟩⟩

/-- A step with a closed registry starts no loop. -/
theorem Effect.winds {action : CustodyAction} {later : Custody} {events : List CustodyEvent}
    (effect : custody.Effect action later events) : custody.Winds later events := by
  have all : custody.loops ⊆ custody.loops := List.Subset.refl _
  cases effect with
  | nothing quiet =>
      refine .refl closed empty (List.flatMap_eq_nil_iff.mpr fun event member => ?_)
      rcases quiet event member with ⟨_, _, rfl⟩ | ⟨_, _, rfl⟩
      · rfl
      · rfl
  | enters registered =>
      obtain ⟨opened, -⟩ := Registry.register_eq_ok registered
      rw [closed] at opened
      cases opened
  | leaves taken =>
      obtain ⟨entry, -⟩ := Registry.takeOut_eq_some taken
      rw [empty] at entry
      cases entry
  | drains drains =>
      refine ⟨rfl, rfl, all, rfl, fun removal member => ?_⟩
      rcases List.mem_append.mp member with earlier | last
      · exact .inr ⟨removal, earlier, .refl removal⟩
      · cases List.mem_singleton.mp last
        have perm := drains.all
        rw [entries, empty] at perm
        exact .inl (congrArg (List.map _) perm.eq_nil)
  | proceeds still containers continues fewer =>
      rw [Registry.containers, Registry.containers, empty] at containers
      refine ⟨still.trans closed, List.map_eq_nil_iff.mp containers, fewer, rfl, ?_⟩
      intro removal member
      obtain ⟨earlier, present, rfl⟩ := List.mem_map.mp member
      exact .inr ⟨earlier, present, continues earlier⟩
  | finishes =>
      exact ⟨Balanced.closed_finish.trans closed, Balanced.timers_finish.trans empty, all, rfl,
        fun other member => .inr ⟨other, (List.mem_filter.mp member).1, .refl other⟩⟩

/-- A closed registry stays closed, takes nothing in, and lets loops end only. -/
theorem winds_run (actions : List CustodyAction) :
    custody.Winds (custody.run actions).1 (custody.run actions).2 := by
  induction actions generalizing custody with
  | nil => exact .refl closed empty rfl
  | cons action rest ih =>
      have step := (custody.effect_act action).winds closed empty
      exact step.trans (ih step.closed step.empty)

end Closed

/-- What has become of the loops after a shutdown that took the given registrations out of a
registry has returned. -/
structure Drained (custody later : Custody) (consumed : List Registration) : Prop where
  /-- The shutdown took out everything that the registry held. -/
  took : consumed.Perm custody.entered
  closed : later.registry.closed = true
  empty : later.registry.timers = []
  ended : ∀ loop ∈ consumed, loop ∉ later.loops
  started : later.loops ⊆ custody.loops
  /-- A loop that still runs is one that another call was stopping already, and stops still. -/
  others : ∀ loop ∈ later.loops, ∃ removal ∈ later.removals, loop ∈ removal.held ∧
    ∃ earlier ∈ custody.removals, earlier.Continues removal

namespace Drained

variable {custody later : Custody} {consumed : List Registration}
  (drained : custody.Drained later consumed)

include drained

/-- A shutdown beside which no call stops timers leaves no loop. -/
theorem loops_eq_nil (alone : custody.removals = []) : later.loops = [] := by
  refine List.eq_nil_iff_forall_not_mem.mpr fun loop runs => ?_
  obtain ⟨removal, -, -, earlier, member, -⟩ := drained.others loop runs
  rw [alone] at member
  cases member

/-- No loop runs any more once all calls have returned. -/
theorem loops_eq_nil_of_idle (idle : later.removals = []) : later.loops = [] := by
  refine List.eq_nil_iff_forall_not_mem.mpr fun loop runs => ?_
  obtain ⟨removal, member, -⟩ := drained.others loop runs
  rw [idle] at member
  cases member

end Drained

/-- What a shutdown leaves once it has returned. -/
theorem drained_of_winds {custody later : Custody} {caller : Nat} {order : List Charge}
    {events seen : List CustodyEvent} (drains : custody.Drains caller order)
    (winds : (custody.shutdown caller order).Winds later events) (balanced : Balanced later seen)
    (returned : .returned caller none (order.map Charge.registration) ∈ seen) :
    Drained custody later (order.map Charge.registration) := by
  have ended : ∀ loop ∈ order.map Charge.registration, loop ∉ later.loops := fun loop took =>
    balanced.not_running_of_consumed (List.mem_flatMap.mpr
      ⟨_, returned, List.mem_map.mpr ⟨loop, took, rfl⟩⟩)
  refine ⟨drains.all.map _, winds.closed, winds.empty, ended, winds.started, fun loop runs => ?_⟩
  rcases later.mem_held.mp (balanced.running runs) with entered | ⟨removal, member, holds⟩
  · rw [entered_eq, Registry.containers, winds.empty] at entered
    cases entered
  · have took : loop ∈ removal.consumed := (balanced.part removal member).subset holds
    refine ⟨removal, member, holds, ?_⟩
    rcases winds.calls removal member with nothing | ⟨earlier, present, continues⟩
    · rw [nothing] at took
      cases took
    · -- The shutdown does not hold the loop: it has returned.
      rcases List.mem_append.mp present with other | own
      · exact ⟨earlier, other, continues⟩
      · cases List.mem_singleton.mp own
        rw [continues.consumed] at took
        exact absurd runs (ended loop took)

/-- When a shutdown has returned, and ever after, the loops of the timers that it took out have
ended and no other has been started. A loop that still runs belongs to a call that was stopping it
when the registry was closed and has not returned. -/
theorem drained_of_returned (actions later : List CustodyAction) (caller : Nat)
    (consumed : List Registration)
    (returned : .returned caller none consumed ∈ (empty.run actions).2) :
    ∃ before order during, actions = before ++ .shutdown caller order :: during ∧
      Drained (empty.run before).1 (empty.run (actions ++ later)).1 consumed ∧
      registeredIn (empty.run (actions ++ later)).2 = registeredIn (empty.run before).2 := by
  rcases empty.began_of_returned actions returned with
    ⟨_, member, _⟩ | ⟨before, order, during, same, drains, rfl⟩
  · cases member
  have balanced := Balanced.empty.run (actions ++ later)
  have seen : .returned caller none (order.map Charge.registration) ∈
      (empty.run (actions ++ later)).2 := by
    rw [run_append_snd]
    exact List.mem_append_left _ returned
  have steps : actions ++ later = before ++ .shutdown caller order :: (during ++ later) := by
    rw [same, List.append_assoc, List.cons_append]
  have begins : (empty.run before).1.act (.shutdown caller order) =
      ((empty.run before).1.shutdown caller order, []) := by
    rw [act, if_pos ⟨by rw [drains.free]; rfl, drains.all⟩]
  have winds : ((empty.run before).1.shutdown caller order).Winds (empty.run (actions ++ later)).1
      (((empty.run before).1.shutdown caller order).run (during ++ later)).2 := by
    rw [steps, run_append_fst, run, begins]
    exact winds_run rfl rfl (during ++ later)
  refine ⟨before, order, during, same, drained_of_winds drains winds balanced seen, ?_⟩
  rw [steps, run_append_snd, registeredIn_append, run, begins]
  exact (congrArg _ winds.refused).trans (List.append_nil _)

-- The shutdown stops `c2` while another call, which goes on, stops `c1`.
/-- A shutdown that returns while another thread is still stopping a timer has drained all that it
took out itself. -/
theorem drained_of_returned_during_unregister :
    let check : Healthcheck := ⟨["true"], 30, 30, 0, 3, true⟩
    let first : List CustodyAction :=
      [.register 1 0 "c1" check, .register 1 0 "c2" check, .unregister 2 "c1"]
    let actions := first ++ [.shutdown 3 (empty.run first).1.entries, .cancel 3,
      .exit ⟨1, "c2"⟩, .join 3, .finish 3]
    let later : List CustodyAction := [.register 1 5 "c3" check]
    (empty.run (actions ++ later)).1.loops = [⟨0, "c1"⟩] ∧
    .returned 3 none [⟨1, "c2"⟩] ∈ (empty.run actions).2 ∧
      ∃ before order during, actions = before ++ .shutdown 3 order :: during ∧
        Drained (empty.run before).1 (empty.run (actions ++ later)).1 [⟨1, "c2"⟩] ∧
        registeredIn (empty.run (actions ++ later)).2 = registeredIn (empty.run before).2 :=
  ⟨by decide, by decide, drained_of_returned _ _ 3 [⟨1, "c2"⟩] (by decide)⟩

/-- A shutdown returns while a call that another thread makes still stops a loop. -/
theorem shutdown_returns_early :
    ¬ ∀ (actions later : List CustodyAction) (caller : Nat) (consumed : List Registration),
      .returned caller none consumed ∈ (empty.run actions).2 →
        (empty.run (actions ++ later)).1.loops = [] := by
  intro joins
  have joined := joins
    [.register 1 0 "c1" ⟨["true"], 30, 30, 0, 3, true⟩, .unregister 2 "c1", .shutdown 3 [],
      .finish 3] [] 3 [] (by decide)
  exact absurd joined (by decide)

end Custody

end HealthWatch
