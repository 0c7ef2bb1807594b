import HealthWatch.Proofs.Registry.Ownership
import HealthWatch.Registry.Supervision

/-! # Stopping timers step by step

What a call of a supervision does at once its thread does in several steps, and the loop that it
stops does one of its own. `Custody.leads_settle` gives the steps by which a call goes on until it
has to wait for a probe, or returns.
-/

namespace HealthWatch

/-- A call without what is known of its thread and of its registrations. -/
def Removal.stopCall (removal : Removal) : StopCall :=
  ⟨removal.charges.map Charge.timer, removal.container⟩

namespace Custody

/-- A custody without what is known of its threads. -/
def supervision (custody : Custody) : Supervision :=
  ⟨custody.registry, custody.removals.map Removal.stopCall⟩

/-- Whether steps lead from one custody to another. -/
def Leads (custody later : Custody) : Prop := ∃ actions, (custody.run actions).1 = later

/-- Steps in two parts lead where they lead together. -/
theorem run_append_fst (custody : Custody) (first second : List CustodyAction) :
    (custody.run (first ++ second)).1 = ((custody.run first).1.run second).1 := by
  induction first generalizing custody with
  | nil => rfl
  | cons action rest ih => exact ih _

namespace Leads

theorem refl (custody : Custody) : custody.Leads custody := ⟨[], rfl⟩

theorem trans {first second third : Custody} (here : first.Leads second)
    (there : second.Leads third) : first.Leads third := by
  obtain ⟨actions, rfl⟩ := here
  obtain ⟨more, rfl⟩ := there
  exact ⟨actions ++ more, run_append_fst first actions more⟩

theorem act (custody : Custody) (action : CustodyAction) :
    custody.Leads (custody.act action).1 := ⟨[action], rfl⟩

/-- Steps keep the balance. -/
theorem balanced {custody later : Custody} (leads : custody.Leads later)
    {seen : List CustodyEvent} (balanced : Balanced custody seen) :
    ∃ more, Balanced later more := by
  obtain ⟨actions, rfl⟩ := leads
  exact ⟨_, balanced.run actions⟩

end Leads

end Custody

namespace Timer

/-- Cancelling the loop of a timer leaves a loop exactly when its probe is in flight. -/
theorem isSome_loop_cancel (timer : Timer) :
    timer.cancel.loop.isSome = timer.probing := by
  cases loop : timer.loop with
  | none => rw [cancel, probing, loop]; rfl
  | some loop' =>
      rw [cancel, probing, loop, Option.any_some, Option.filter]
      cases loop'.probing <;> rfl

/-- While a probe is in flight nothing of a cancelled loop ends. -/
theorem cancel_of_probing {timer : Timer} (inFlight : timer.probing = true) :
    timer.cancel = timer.deactivate := by
  cases loop : timer.loop with
  | none =>
      rw [probing, loop] at inFlight
      cases inFlight
  | some loop' =>
      rw [probing, loop, Option.any_some] at inFlight
      rw [cancel, deactivate, loop, Option.filter, inFlight]
      simp

/-- A loop that waits when it is cancelled can end. -/
theorem mayExit_deactivate {timer : Timer} (quiet : timer.probing = false) :
    timer.deactivate.mayExit = true := by
  have same : timer.deactivate.probing = false := quiet
  rw [mayExit, same]
  simp [deactivate]

/-- A probe in flight is that of a loop. -/
theorem isSome_loop_of_probing {timer : Timer} (inFlight : timer.probing = true) :
    timer.loop.isSome = true := by
  obtain ⟨loop, some, -⟩ := (Option.any_eq_true _ _).mp inFlight
  rw [some]
  rfl

/-- A timer whose loop has ended calls no probe. -/
theorem callProbe_of_ended {timer : Timer} (ended : timer.loop.isSome = false) :
    timer.callProbe = timer := by
  rw [callProbe]
  split
  · rename_i some
    rw [some] at ended
    cases ended
  · rfl

end Timer

namespace Custody

section Places

variable {custody : Custody} {seen : List CustodyEvent} {before after : List Removal}
  {removal : Removal} (split : custody.removals = before ++ removal :: after)

include split in
/-- The call between the others is in progress. -/
theorem mem_of_split : removal ∈ custody.removals := by
  rw [split]
  exact List.mem_append_right _ List.mem_cons_self

include split in
/-- No other call is one of the same thread. -/
theorem caller_ne_of_split (balanced : Balanced custody seen) {other : Removal}
    (elsewhere : other ∈ before ++ after) : other.caller ≠ removal.caller := by
  have callers := balanced.callers
  rw [split] at callers
  have front := (List.perm_middle.map Removal.caller).nodup callers
  exact fun same => (List.nodup_cons.mp front).1 (same ▸ List.mem_map_of_mem elsewhere)

include split in
/-- A step that leaves the others alone changes the call between them. -/
theorem map_of_split {step : Removal → Removal}
    (others : ∀ other ∈ before ++ after, step other = other) :
    custody.removals.map step = before ++ step removal :: after := by
  have first : before.map step = before :=
    (List.map_congr_left fun other member => others other (List.mem_append_left _ member)).trans
      (List.map_id _)
  have last : after.map step = after :=
    (List.map_congr_left fun other member => others other (List.mem_append_right _ member)).trans
      (List.map_id _)
  rw [split, List.map_append, List.map_cons, first, last]

include split in
/-- A step of a call changes nothing but this call. -/
theorem advance_of_split (balanced : Balanced custody seen) (step : Removal → Removal) :
    custody.advance removal.caller step =
      { custody with removals := before ++ step removal :: after } := by
  have others : ∀ other ∈ before ++ after,
      (if other.caller = removal.caller then step other else other) = other :=
    fun other elsewhere => if_neg (caller_ne_of_split split balanced elsewhere)
  rw [advance, map_of_split split others, if_pos rfl]

include split in
/-- No other call holds a timer of this one. -/
theorem not_mem_held_of_split (balanced : Balanced custody seen) {loop : Registration}
    (holds : loop ∈ removal.held) {other : Removal} (elsewhere : other ∈ before ++ after) :
    loop ∉ other.held := by
  intro too
  have member : other ∈ custody.removals := by
    rw [split]
    exact List.perm_middle.mem_iff.mpr (List.mem_cons_of_mem _ elsewhere)
  have same := balanced.eq_of_mem_held member (mem_of_split split) too holds
  exact caller_ne_of_split split balanced elsewhere (congrArg Removal.caller same)

end Places

end Custody

/-- A call that does not hold a loop has no timer that changes with it. -/
theorem Removal.adjust_of_not_mem {removal : Removal} {loop : Registration}
    (absent : loop ∉ removal.held) (change : Timer → Timer) :
    removal.adjust loop change = removal := by
  have charges : ∀ charge ∈ removal.charges,
      (if charge.registration = loop then { charge with timer := change charge.timer }
        else charge) = charge := by
    intro charge member
    apply if_neg
    rintro rfl
    exact absent (List.mem_map_of_mem member)
  rw [adjust, List.map_congr_left charges]
  exact congrArg (fun charges => { removal with charges }) (List.map_id _)

/-- In a call that holds a loop once, one timer changes with it. -/
theorem Removal.adjust_of_split {removal : Removal} {before after : List Charge}
    {charge : Charge} (split : removal.charges = before ++ charge :: after)
    (distinct : removal.held.Nodup) (change : Timer → Timer) :
    removal.adjust charge.registration change =
      { removal with
        charges := before ++ { charge with timer := change charge.timer } :: after } := by
  rw [held, split] at distinct
  have front := (List.perm_middle.map Charge.registration).nodup distinct
  have others : ∀ other ∈ before ++ after, (if other.registration = charge.registration then
      { other with timer := change other.timer } else other) = other := by
    intro other member
    apply if_neg
    intro same
    exact (List.nodup_cons.mp front).1 (same ▸ List.mem_map_of_mem member)
  rw [adjust, split, List.map_append, List.map_cons, if_pos rfl,
    List.map_congr_left fun other member => others other (List.mem_append_left _ member),
    List.map_congr_left fun other member => others other (List.mem_append_right _ member),
    List.map_id', List.map_id']

/-- A registry changes no timer of a container that it does not have. -/
theorem Registry.update_of_absent {registry : Registry} {container : String}
    (absent : container ∉ registry.containers) (change : Timer → Timer) :
    registry.update container change = registry := by
  have timers : ∀ entry ∈ registry.timers,
      (if entry.1 = container then (entry.1, change entry.2) else entry) = entry := by
    intro entry member
    apply if_neg
    rintro rfl
    exact absent (List.mem_map_of_mem member)
  rw [update, List.map_congr_left timers]
  exact congrArg (fun timers => { registry with timers }) (List.map_id _)

namespace Custody

section Loops

variable {custody : Custody} {seen : List CustodyEvent} {before after : List Removal}
  {removal : Removal} (split : custody.removals = before ++ removal :: after)

include split in
/-- What a call holds changes in this call alone. -/
theorem adjust_of_held (balanced : Balanced custody seen) {loop : Registration}
    (holds : loop ∈ removal.held) (change : Timer → Timer) :
    custody.adjust loop change =
      { custody with removals := before ++ removal.adjust loop change :: after } := by
  have others : ∀ other ∈ before ++ after, other.adjust loop change = other :=
    fun other elsewhere =>
      Removal.adjust_of_not_mem (not_mem_held_of_split split balanced holds elsewhere) change
  have registry : (if custody.latest loop.container = loop.number then
      custody.registry.update loop.container change else custody.registry) = custody.registry := by
    split
    · rename_i current
      apply Registry.update_of_absent
      intro known
      refine balanced.not_mem_held_of_entered ?_ (mem_of_split split) holds
      rw [entered_eq]
      exact List.mem_map.mpr ⟨loop.container, known, by rw [current]⟩
    · rfl
  rw [adjust, registry, map_of_split split others]

/-- What the registry holds changes in the registry alone. -/
theorem adjust_of_entered (balanced : Balanced custody seen) {container : String}
    (known : container ∈ custody.registry.containers) (change : Timer → Timer) :
    custody.adjust ⟨custody.latest container, container⟩ change =
      { custody with registry := custody.registry.update container change } := by
  have entered : (⟨custody.latest container, container⟩ : Registration) ∈ custody.entered := by
    rw [entered_eq]
    exact List.mem_map_of_mem known
  have removals : custody.removals.map (·.adjust ⟨custody.latest container, container⟩ change) =
      custody.removals :=
    (List.map_congr_left fun removal member => Removal.adjust_of_not_mem
      (balanced.not_mem_held_of_entered entered member) change).trans (List.map_id _)
  rw [adjust, if_pos rfl, removals]

end Loops

/-- A loop that has ended is none of those that run. -/
theorem filter_loops_of_ended {custody : Custody} {loop : Registration}
    (ended : loop ∉ custody.loops) : custody.loops.filter (· ≠ loop) = custody.loops := by
  apply List.filter_eq_self.mpr
  intro other member
  rw [decide_eq_true_eq]
  rintro rfl
  exact ended member

section Stopping

variable {custody : Custody} {seen : List CustodyEvent} {before after : List Removal}
  {removal : Removal} (split : custody.removals = before ++ removal :: after)
  {charge : Charge} {rest : List Charge} (charges : removal.charges = charge :: rest)

include split charges

/-- Cancelling changes the call that cancels and no other. -/
theorem act_cancel_of_split (balanced : Balanced custody seen) :
    (custody.act (.cancel removal.caller)).1 =
      { custody with
        removals := before ++
          { removal with
            charges := { charge with timer := charge.timer.deactivate } :: rest } :: after } := by
  have step : removal.cancel =
      { removal with charges := { charge with timer := charge.timer.deactivate } :: rest } := by
    rw [Removal.cancel, charges]
    rfl
  rw [← step]
  exact advance_of_split split balanced Removal.cancel

/-- A call can cancel its next timer. -/
theorem leads_cancel (balanced : Balanced custody seen) :
    custody.Leads
      { custody with
        removals := before ++
          { removal with
            charges := { charge with timer := charge.timer.deactivate } :: rest } :: after } :=
  ⟨[.cancel removal.caller], act_cancel_of_split split charges balanced⟩

/-- What happens to the loop of the next timer of a call changes this timer alone. -/
theorem adjust_of_split (balanced : Balanced custody seen) (change : Timer → Timer) :
    custody.adjust charge.registration change =
      { custody with
        removals := before ++
          { removal with charges := { charge with timer := change charge.timer } :: rest } ::
            after } := by
  have holds : charge.registration ∈ removal.held := by
    rw [Removal.held, charges]
    exact List.mem_cons_self
  have step := @Removal.adjust_of_split removal [] rest charge charges
    (balanced.nodup_held_removal (mem_of_split split)) change
  rw [adjust_of_held split balanced holds, step]
  rfl

/-- A loop that may end does so, and only its own call sees it. -/
theorem act_exit_of_split (balanced : Balanced custody seen)
    (runs : charge.registration ∈ custody.loops) (may : charge.timer.mayExit = true) :
    (custody.act (.exit charge.registration)).1 =
      { custody with
        removals := before ++
          { removal with charges := { charge with timer := charge.timer.exit } :: rest } :: after
        loops := custody.loops.filter (· ≠ charge.registration) } := by
  have only : custody.mayExit charge.registration = true := by
    apply List.all_eq_true.mpr
    intro other member
    by_cases same : other.registration = charge.registration
    · have present : charge ∈ custody.charges :=
        custody.mem_charges.mpr (.inr ⟨removal, mem_of_split split, charges ▸ List.mem_cons_self⟩)
      have distinct : (custody.charges.map Charge.registration).Nodup :=
        custody.held_eq ▸ balanced.nodup_held
      rw [List.inj_on_of_nodup_map distinct member present same, may, Bool.or_true]
    · simp [same]
  rw [act, if_pos ⟨runs, only⟩, adjust_of_split split charges balanced]

/-- A loop that can end does, and its timer stays with the call. -/
theorem leads_exit (balanced : Balanced custody seen) (may : charge.timer.mayExit = true) :
    ∃ timer, timer.running = charge.timer.running ∧ custody.Leads
      { custody with
        removals := before ++ { removal with charges := { charge with timer } :: rest } :: after
        loops := custody.loops.filter (· ≠ charge.registration) } := by
  by_cases runs : charge.registration ∈ custody.loops
  · exact ⟨charge.timer.exit, rfl, [.exit charge.registration],
      act_exit_of_split split charges balanced runs may⟩
  · -- The loop came to its end before, so nothing is left to do.
    refine ⟨charge.timer, rfl, [], ?_⟩
    rw [run, filter_loops_of_ended runs, ← charges, ← split]

/-- A call discards its next timer once that has ended. -/
theorem act_join_of_split (balanced : Balanced custody seen)
    (cancelled : charge.timer.running = false) (ended : charge.registration ∉ custody.loops) :
    (custody.act (.join removal.caller)).1 =
      { custody with removals := before ++ { removal with charges := rest } :: after } := by
  have step : removal.join custody.loops = { removal with charges := rest } := by
    rw [Removal.join, charges]
    exact if_pos ⟨cancelled, ended⟩
  rw [← step]
  exact advance_of_split split balanced _

/-- A call can discard its next timer once that has ended. -/
theorem leads_join (balanced : Balanced custody seen) (cancelled : charge.timer.running = false)
    (ended : charge.registration ∉ custody.loops) :
    custody.Leads
      { custody with removals := before ++ { removal with charges := rest } :: after } :=
  ⟨[.join removal.caller], act_join_of_split split charges balanced cancelled ended⟩

/-- A call stops a timer whose probe is not in flight. -/
theorem leads_discard (balanced : Balanced custody seen) (quiet : charge.timer.probing = false) :
    ∃ loops, custody.Leads
      { custody with
        removals := before ++ { removal with charges := rest } :: after
        loops } := by
  have cancel := leads_cancel split charges balanced
  obtain ⟨seen, balanced⟩ := cancel.balanced balanced
  obtain ⟨timer, running, exit⟩ := leads_exit rfl rfl balanced (Timer.mayExit_deactivate quiet)
  obtain ⟨seen, balanced⟩ := exit.balanced balanced
  have join := leads_join rfl rfl balanced running (by simp)
  exact ⟨_, (cancel.trans exit).trans join⟩

end Stopping

section Advancing

variable {before after : List Removal}

/-- A call stops its timers up to the first whose probe is in flight. -/
theorem leads_advance (rest : List Charge) {custody : Custody} {seen : List CustodyEvent}
    (balanced : Balanced custody seen) {removal : Removal}
    (split : custody.removals = before ++ removal :: after) (charges : removal.charges = rest) :
    ∃ left loops, left.map Charge.timer = StopCall.advance (rest.map Charge.timer) ∧
      custody.Leads
        { custody with
          removals := before ++ { removal with charges := left } :: after
          loops } := by
  induction rest generalizing custody seen removal with
  | nil =>
      refine ⟨[], custody.loops, rfl, [], ?_⟩
      rw [run, ← charges, ← split]
  | cons charge rest ih =>
      rw [List.map_cons, StopCall.advance, Timer.isSome_loop_cancel]
      cases inFlight : charge.timer.probing with
      | true =>
          rw [if_pos rfl, Timer.cancel_of_probing inFlight]
          exact ⟨_, custody.loops, rfl, leads_cancel split charges balanced⟩
      | false =>
          obtain ⟨loops, discard⟩ := leads_discard split charges balanced inFlight
          obtain ⟨seen, balanced⟩ := discard.balanced balanced
          obtain ⟨left, loops, same, advance⟩ := ih balanced rfl rfl
          exact ⟨left, loops, same, discard.trans advance⟩

end Advancing

end Custody

namespace Supervision

/-- A supervision whose calls all have timers left to stop is settled. -/
def Settled (supervision : Supervision) : Prop :=
  ∀ call ∈ supervision.stops, call.finished = false

section Settle

variable {registry : Registry} {before after : List StopCall} {call : StopCall}

/-- Settling a settled supervision changes nothing. -/
theorem settle_of_settled {supervision : Supervision} (settled : supervision.Settled) :
    supervision.settle = supervision := by
  have none : supervision.stops.filter StopCall.finished = [] :=
    List.filter_eq_nil_iff.mpr fun call member => by rw [settled call member]; decide
  have all : (supervision.stops.filter fun call => !call.finished) = supervision.stops :=
    List.filter_eq_self.mpr fun call member => by rw [settled call member]; rfl
  rw [settle, none, all]
  rfl

/-- What has been settled is settled. -/
theorem settled_settle (supervision : Supervision) : supervision.settle.Settled := by
  intro call member
  simpa using (List.mem_filter.mp member).2

/-- One call that stops no more timers is gone once the supervision settles. -/
theorem settle_of_finished (finished : call.finished = true)
    (others : ∀ other ∈ before ++ after, other.finished = false) :
    settle ⟨registry, before ++ call :: after⟩ =
      ⟨call.reserved.elim registry registry.release, before ++ after⟩ := by
  have first : before.filter StopCall.finished = [] := List.filter_eq_nil_iff.mpr
    fun other member => by rw [others other (List.mem_append_left _ member)]; decide
  have last : after.filter StopCall.finished = [] := List.filter_eq_nil_iff.mpr
    fun other member => by rw [others other (List.mem_append_right _ member)]; decide
  have rest : ((before ++ after).filter fun other => !other.finished) = before ++ after :=
    List.filter_eq_self.mpr fun other member => by rw [others other member]; rfl
  rw [List.filter_append] at rest
  simp only [settle, List.filter_append, List.filter_cons, finished, first, last, rest,
    List.nil_append, Bool.not_true, Bool.false_eq_true, if_true, if_false]
  cases reserved : call.reserved with
  | none => simp [reserved]
  | some container => simp [reserved]

end Settle

end Supervision

namespace Custody

section Settling

variable {custody : Custody} {seen : List CustodyEvent} {before after : List Removal}
  {removal : Removal} (split : custody.removals = before ++ removal :: after)

include split

/-- A call without timers returns and frees what it reserved. -/
theorem act_finish_of_split (balanced : Balanced custody seen) (done : removal.charges = []) :
    (custody.act (.finish removal.caller)).1 =
      { custody with
        registry := removal.container.elim custody.registry custody.registry.release
        removals := before ++ after } := by
  have others : ∀ other ∈ before ++ after, other.caller ≠ removal.caller :=
    fun _ elsewhere => caller_ne_of_split split balanced elsewhere
  have found : custody.finished? removal.caller = some removal := by
    have first : (before.find? fun other =>
        other.caller = removal.caller && other.charges.isEmpty) = none := by
      apply List.find?_eq_none.mpr
      intro other member
      simp [others other (List.mem_append_left _ member)]
    rw [finished?, split, List.find?_append, first, Option.none_or, List.find?_cons_of_pos]
    simp [done]
  have rest : (custody.removals.filter fun other => other.caller ≠ removal.caller) =
      before ++ after := by
    have kept : ((before ++ after).filter fun other => other.caller ≠ removal.caller) =
        before ++ after := List.filter_eq_self.mpr fun other member => by simp [others other member]
    rw [List.filter_append] at kept
    rw [split, List.filter_append, List.filter_cons_of_neg (by simp), kept]
  rw [act, found]
  dsimp only [Custody.finish]
  rw [rest]

/-- A call without timers left returns. -/
theorem leads_finish (balanced : Balanced custody seen) (done : removal.charges = []) :
    custody.Leads
      { custody with
        registry := removal.container.elim custody.registry custody.registry.release
        removals := before ++ after } :=
  ⟨[.finish removal.caller], act_finish_of_split split balanced done⟩

/-- A call goes on until it has to wait for a probe, or returns. -/
theorem leads_settle (balanced : Balanced custody seen)
    (others : ∀ other ∈ before ++ after, other.charges ≠ []) :
    ∃ later, custody.Leads later ∧
      later.supervision = Supervision.settle
        ⟨custody.registry, before.map Removal.stopCall ++
          ⟨StopCall.advance (removal.charges.map Charge.timer), removal.container⟩ ::
            after.map Removal.stopCall⟩ := by
  have unfinished : ∀ other ∈ before.map Removal.stopCall ++ after.map Removal.stopCall,
      other.finished = false := by
    rw [← List.map_append]
    intro other member
    obtain ⟨call, present, rfl⟩ := List.mem_map.mp member
    simpa [StopCall.finished, Removal.stopCall] using others call present
  obtain ⟨left, loops, same, advance⟩ := leads_advance removal.charges balanced split rfl
  rw [← same]
  cases left with
  | nil =>
      obtain ⟨seen, balanced⟩ := advance.balanced balanced
      refine ⟨_, advance.trans (leads_finish rfl balanced rfl), ?_⟩
      rw [Supervision.settle_of_finished rfl unfinished, ← List.map_append]
      rfl
  | cons charge rest =>
      refine ⟨_, advance, ?_⟩
      rw [Supervision.settle_of_settled]
      · rw [supervision, List.map_append]
        rfl
      · intro call member
        rcases List.mem_append.mp member with earlier | later
        · exact unfinished call (List.mem_append_left _ earlier)
        · rcases List.mem_cons.mp later with rfl | later
          · rfl
          · exact unfinished call (List.mem_append_right _ later)

end Settling

end Custody

end HealthWatch
