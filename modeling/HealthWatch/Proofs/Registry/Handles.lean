import HealthWatch.Proofs.Registry.Stopping
import HealthWatch.Proofs.Report.Conservation

/-! # Handles of timers and loops

Every timer has a handle of the exchange from its creation until it is discarded, and every loop
has one until it ends. `Custody.effects` says what a step does with the exchange; after it there
are as many handles as timers and loops (`Custody.handles_effects`).
-/

namespace HealthWatch

namespace Exchange

section Handles

variable {σ : Type} (sink : Sink σ) (exchange : Exchange σ)

/-- Whoever reports keeps the handle. -/
theorem handles_report (event : StatusEvent) :
    (exchange.report event).1.handles = exchange.handles := by
  rw [report]
  split
  · rfl
  · cases exchange.delivery.report event <;> rfl

/-- The writer needs no handle. -/
theorem handles_write : (exchange.write sink).1.handles = exchange.handles := by
  rw [write]
  split
  · rw [handOver]
    split
    · split <;> rfl
    · rfl
  · split <;> rfl
  · rfl
  · rfl

variable {exchange} in
/-- A copy adds one handle. -/
theorem run_copy (handle : exchange.handles ≠ 0) (rest : List ExchangeAction) :
    exchange.run sink (.copy :: rest) =
      ({ exchange with handles := exchange.handles + 1 } : Exchange σ).run sink rest := by
  rw [run, act, if_neg handle]
  rfl

theorem run_drop (rest : List ExchangeAction) :
    exchange.run sink (.drop :: rest) =
      ({ exchange with handles := exchange.handles - 1 } : Exchange σ).run sink rest := rfl

/-- With a handle a report gets an answer, and room in the queue is enough for it to be accepted. -/
theorem exists_reported (event : StatusEvent) (handle : exchange.handles ≠ 0) :
    ∃ answer, (exchange.report event).2 = [.reported event answer] ∧
      (exchange.delivery.alive = true →
        exchange.delivery.queue.length < max exchange.delivery.capacity 1 → answer = .ok ()) := by
  by_cases accepts : exchange.delivery.alive = true ∧
      exchange.delivery.queue.length < max exchange.delivery.capacity 1
  · rw [exchange.report_of_room event handle accepts.1 accepts.2]
    exact ⟨.ok (), rfl, fun _ _ => rfl⟩
  · rw [report, if_neg handle]
    cases exchange.delivery.report event with
    | ok delivery => exact ⟨.ok (), rfl, fun _ _ => rfl⟩
    | error failure =>
        exact ⟨.error failure, rfl, fun alive room => absurd ⟨alive, room⟩ accepts⟩

/-- Reports leave the handles as they are. -/
theorem handles_run_report (event : Option StatusEvent) :
    (exchange.run sink (event.toList.map .report)).1.handles = exchange.handles := by
  cases event with
  | none => rfl
  | some event => exact exchange.handles_report event

end Handles

end Exchange

namespace Removal

/-- The timer that a call can discard now: it was cancelled, and its loop does not run any more. -/
def discarded? (loops : List Registration) (removal : Removal) : Option Charge :=
  removal.charges.head?.filter fun charge =>
    charge.timer.running = false ∧ charge.registration ∉ loops

/-- A call has one timer less exactly when it discards one. -/
theorem length_join (loops : List Registration) (removal : Removal) :
    (removal.join loops).charges.length + (removal.discarded? loops).toList.length =
      removal.charges.length := by
  obtain ⟨caller, charges, container, consumed⟩ := removal
  cases charges with
  | nil => rfl
  | cons charge rest =>
      rw [join, discarded?]
      dsimp only
      by_cases ended : charge.timer.running = false ∧ charge.registration ∉ loops
      · rw [if_pos ended]
        simp [ended]
      · rw [if_neg ended]
        simp [ended, Option.filter]

end Removal

namespace Custody

/-- The timer that a call can discard now. -/
def discarded? (custody : Custody) (caller : Nat) : Option Charge :=
  (custody.removals.find? fun removal => removal.caller = caller).bind
    (Removal.discarded? custody.loops)

/-- The event that a probe gives rise to when it comes back to a loop. -/
def eventOf (custody : Custody) (loop : Registration) (now : Int) (result : Timer.Return) :
    Option StatusEvent :=
  (custody.charges.find? fun charge => charge.registration = loop).bind fun charge =>
    (charge.timer.finishProbe now result).2

/-- What a step does with the exchange. A timer has a handle from its creation until it is
discarded, and a loop has one until it ends. -/
def effects (custody : Custody) : CustodyAction → List ExchangeAction
  | .register caller now container check =>
      if custody.busy caller then []
      else
        match custody.registry.register now container check with
        | .ok _ => [.copy, .copy]
        -- The timer was created and did not start.
        | .error (.timerNotStarted _ .disabled) => [.copy, .drop]
        | .error (.timerNotStarted _ .alreadyActive) => [.copy, .drop]
        | .error _ => []
  | .join caller => (custody.discarded? caller).toList.map fun _ => .drop
  | .finishProbe loop now result =>
      if loop ∈ custody.loops then (custody.eventOf loop now result).toList.map .report else []
  | .exit loop => if loop ∈ custody.loops ∧ custody.mayExit loop then [.drop] else []
  | _ => []

section Counting

variable {custody : Custody} {seen : List CustodyEvent}

theorem length_held (custody : Custody) : custody.held.length = custody.charges.length := by
  rw [held_eq, List.length_map]

/-- Calls that keep their timers, and timers that change where they are. -/
theorem length_charges_map {registry : Registry} {step : Removal → Removal}
    (entries : registry.timers.length = custody.registry.timers.length)
    (same : ∀ removal ∈ custody.removals,
      (step removal).charges.length = removal.charges.length) :
    ({ custody with registry, removals := custody.removals.map step } : Custody).charges.length =
      custody.charges.length := by
  have counts : custody.removals.map ((fun removal => removal.charges.length) ∘ step) =
      custody.removals.map fun removal => removal.charges.length := List.map_congr_left same
  rw [charges, charges, List.length_append, List.length_append, List.length_flatMap,
    List.length_flatMap, List.map_map, counts, Custody.entries, Custody.entries, List.length_map,
    List.length_map, entries]

/-- What happens to a loop leaves the number of timers. -/
theorem length_charges_adjust (custody : Custody) (loop : Registration)
    (change : Timer → Timer) :
    (custody.adjust loop change).charges.length = custody.charges.length := by
  apply length_charges_map
  · split
    · exact List.length_map _
    · rfl
  · exact fun removal _ => List.length_map _

/-- Cancelling leaves the number of timers. -/
theorem length_charges_cancel (custody : Custody) (caller : Nat) :
    (custody.advance caller Removal.cancel).charges.length = custody.charges.length := by
  apply length_charges_map rfl
  intro removal _
  split
  · exact List.length_modifyHead
  · rfl

/-- A call that goes on discards the timer that it can. -/
theorem length_charges_join (balanced : Balanced custody seen) (caller : Nat) :
    (custody.advance caller (Removal.join custody.loops)).charges.length +
        (custody.discarded? caller).toList.length =
      custody.charges.length := by
  rw [discarded?]
  cases found : custody.removals.find? fun removal => removal.caller = caller with
  | none =>
      have others : ∀ removal ∈ custody.removals,
          (if removal.caller = caller then removal.join custody.loops else removal) = removal := by
        intro removal member
        have other := List.find?_eq_none.mp found removal member
        exact if_neg (by simpa using other)
      rw [advance, List.map_congr_left others, List.map_id']
      rfl
  | some removal =>
      obtain ⟨own, before, after, split, -⟩ := List.find?_eq_some_iff_append.mp found
      obtain rfl : removal.caller = caller := by simpa using own
      have joined := removal.length_join custody.loops
      rw [advance_of_split split balanced, Option.bind_some, charges, charges, split]
      simp only [List.length_append, List.flatMap_append, List.flatMap_cons, Custody.entries,
        List.length_map]
      omega

/-- One loop less runs when one ends. -/
theorem length_loops_exit (balanced : Balanced custody seen) {loop : Registration}
    (runs : loop ∈ custody.loops) :
    (custody.loops.filter (· ≠ loop)).length + 1 = custody.loops.length := by
  have distinct : (custody.loops.map id).Nodup := by
    rw [List.map_id]
    exact balanced.single
  exact (perm_cons_filter_of_nodup id runs distinct).length_eq.symm

/-- The handles of the timers that exist and of the loops that run. -/
def handles (custody : Custody) : Nat := custody.charges.length + custody.loops.length

/-- A registration takes two handles, one for the timer and one for its loop. -/
theorem handles_enter {now : Int} {container : String} {check : Healthcheck}
    {registry : Registry} {snapshot : Snapshot}
    (registered : custody.registry.register now container check = .ok (registry, snapshot)) :
    (custody.enter registry container).handles = custody.handles + 2 := by
  obtain ⟨-, absent, -, timer, -, rfl, -⟩ := Registry.register_eq_ok registered
  let registry : Registry :=
    { custody.registry with timers := custody.registry.timers ++ [(container, timer)] }
  have held : (custody.enter registry container).held.length = _ :=
    (Balanced.held_enter rfl absent).length_eq
  rw [length_held, List.length_cons, length_held] at held
  rw [handles, held, handles]
  simp only [enter, List.length_cons]
  omega

theorem handles_of_perm {later : Custody} (charges : custody.charges.Perm later.charges)
    (loops : custody.loops = later.loops) : later.handles = custody.handles := by
  rw [handles, handles, charges.length_eq, loops]

/-- Every step does with the handles what becomes of the timers and the loops. -/
theorem handles_effects {σ : Type} (sink : Sink σ) (balanced : Balanced custody seen)
    (action : CustodyAction) {exchange : Exchange σ}
    (held : exchange.handles = 1 + custody.handles) :
    (exchange.run sink (custody.effects action)).1.handles =
      1 + (custody.act action).1.handles := by
  have some : exchange.handles ≠ 0 := by omega
  cases action with
  | register caller now container check =>
      rw [effects, act]
      by_cases busy : custody.busy caller = true
      · rw [if_pos busy, if_pos busy]
        exact held
      rw [if_neg busy, if_neg busy, register]
      cases registered : custody.registry.register now container check with
      | ok entered =>
          obtain ⟨registry, snapshot⟩ := entered
          rw [Exchange.run_copy sink some, Exchange.run_copy sink (Nat.succ_ne_zero _)]
          dsimp only [Exchange.run]
          rw [handles_enter registered, held]
          rfl
      | error failure =>
          dsimp only
          split
          · rename_i impossible
            cases impossible
          · rw [Exchange.run_copy sink some, Exchange.run_drop]
            exact held
          · rw [Exchange.run_copy sink some, Exchange.run_drop]
            exact held
          · exact held
  | unregister caller container =>
      rw [act]
      split
      · exact held
      · rw [unregister]
        split
        · exact held
        · rename_i taken
          have same := handles_of_perm (balanced.charges_leave taken caller) rfl
          rw [same]
          exact held
  | shutdown caller order =>
      rw [act]
      split
      · rename_i free
        have same := handles_of_perm (Balanced.charges_shutdown free.2 caller) rfl
        rw [same]
        exact held
      · exact held
  | cancel caller =>
      rw [act, handles, length_charges_cancel]
      exact held
  | join caller =>
      have joined := length_charges_join balanced caller
      rw [act, effects]
      cases discards : custody.discarded? caller with
      | none =>
          rw [discards] at joined
          rw [handles, ← joined] at held
          exact held
      | some charge =>
          rw [discards] at joined
          rw [handles, ← joined] at held
          have later : (exchange.run sink [.drop]).1.handles = exchange.handles - 1 := rfl
          simp only [Option.toList_some, List.map_singleton, List.length_singleton] at held ⊢
          rw [later, held, handles]
          simp only [advance]
          omega
  | finish caller =>
      rw [act]
      split
      · exact held
      · rename_i removal found
        have done := List.find?_some found
        rw [Bool.and_eq_true, List.isEmpty_iff] at done
        have same := handles_of_perm
          (balanced.charges_finish (List.mem_of_find?_eq_some found) done.2) rfl
        rw [same]
        exact held
  | callProbe loop =>
      rw [act]
      split
      · rw [handles, length_charges_adjust]
        exact held
      · exact held
  | finishProbe loop now result =>
      rw [act, effects]
      split
      · rw [Exchange.handles_run_report, handles, length_charges_adjust]
        exact held
      · exact held
  | exit loop =>
      rw [act, effects]
      split
      · rename_i ends
        have fewer := length_loops_exit balanced ends.1
        let later : Custody :=
          { custody.adjust loop Timer.exit with loops := custody.loops.filter (· ≠ loop) }
        have same : later.charges.length = custody.charges.length :=
          custody.length_charges_adjust loop Timer.exit
        have after : later.handles + 1 = custody.handles := by
          rw [handles, handles, same, ← fewer]
          rfl
        have dropped : (exchange.run sink [.drop]).1.handles = exchange.handles - 1 := rfl
        rw [dropped, held, ← after]
        rfl
      · exact held

/-- A probe that comes back to a loop gives rise to the event of its timer. -/
theorem eventOf_of_mem (balanced : Balanced custody seen) {charge : Charge}
    (member : charge ∈ custody.charges) (now : Int) (result : Timer.Return) :
    custody.eventOf charge.registration now result = (charge.timer.finishProbe now result).2 := by
  have distinct : (custody.charges.map Charge.registration).Nodup := by
    have held := balanced.distinct.of_map
    rwa [held_eq] at held
  have some : (custody.charges.find? fun other =>
      other.registration = charge.registration).isSome = true :=
    List.find?_isSome.mpr ⟨charge, member, decide_eq_true rfl⟩
  obtain ⟨other, found⟩ := Option.isSome_iff_exists.mp some
  have same : other.registration = charge.registration := by
    simpa using List.find?_some found
  rw [eventOf, found, Option.bind_some,
    List.inj_on_of_nodup_map distinct (List.mem_of_find?_eq_some found) member same]

end Counting

end Custody

end HealthWatch
