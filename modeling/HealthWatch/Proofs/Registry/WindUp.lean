import HealthWatch.Proofs.Registry.Share

/-! # Winding up

Once nobody begins a new call, the calls in progress return: each cancels its timers one after the
other, the probes in flight come back with whatever they come to, the loops end and are joined
(`Custody.exists_windUp`).
-/

namespace HealthWatch

namespace Timer

variable (timer : Timer) (now : Int) (result : Return)

/-- A probe that comes back does not bring a cancelled timer back to life. -/
theorem active_finishProbe :
    (timer.finishProbe now result).1.active = timer.active ∧
      (timer.finishProbe now result).1.running = timer.running := by
  cases result with
  | crash =>
      rw [finishProbe, crash]
      split <;> exact ⟨rfl, rfl⟩
  | outcome outcome =>
      rw [finishProbe, tick]
      split <;> exact ⟨rfl, rfl⟩

/-- The loop of a cancelled timer can end when its probe has come back. -/
theorem mayExit_finishProbe :
    (timer.deactivate.finishProbe now result).1.mayExit = true := by
  rw [mayExit, probing_finishProbe, (timer.deactivate.active_finishProbe now result).1]
  simp [deactivate]

end Timer

/-- Whether a step only goes on with what has begun. A probe in flight comes back with the answer
to it. -/
def CustodyAction.WindsUp (answer : Registration → Timer.Return) : CustodyAction → Prop
  | .cancel _ => True
  | .join _ => True
  | .finish _ => True
  | .exit _ => True
  | .finishProbe loop _ result => result = answer loop
  | _ => False

namespace Custody

section Discarding

variable {custody : Custody} {seen : List CustodyEvent} {before after : List Removal}
  {removal : Removal} (split : custody.removals = before ++ removal :: after)
  {charge : Charge} {rest : List Charge} (charges : removal.charges = charge :: rest)
  (answer : Registration → Timer.Return)

include split charges

/-- A probe that comes back during a call changes its own timer and nothing else. -/
theorem act_finishProbe_of_split (balanced : Balanced custody seen)
    (runs : charge.registration ∈ custody.loops) (now : Int) (result : Timer.Return) :
    (custody.act (.finishProbe charge.registration now result)).1 =
      { custody with
        removals := before ++
          { removal with
            charges := { charge with timer := (charge.timer.finishProbe now result).1 } ::
              rest } :: after } := by
  rw [act, if_pos runs, adjust_of_split split charges balanced]

/-- A call comes to the end with its next timer. -/
theorem exists_discard (balanced : Balanced custody seen) :
    ∃ actions : List CustodyAction, (∀ action ∈ actions, action.WindsUp answer) ∧
      (custody.run actions).1 =
        { custody with
          removals := before ++ { removal with charges := rest } :: after
          loops := custody.loops.filter (· ≠ charge.registration) } := by
  let cancelled : Charge := { charge with timer := charge.timer.deactivate }
  have cancels := act_cancel_of_split split charges balanced
  have ofCancelled := balanced.act (.cancel removal.caller)
  rw [cancels] at ofCancelled
  have holds : ({ removal with charges := cancelled :: rest } : Removal).charges =
      cancelled :: rest := rfl
  by_cases runs : charge.registration ∈ custody.loops
  · let result := answer charge.registration
    let finished : Charge :=
      { charge with timer := (charge.timer.deactivate.finishProbe 0 result).1 }
    have finishes := act_finishProbe_of_split rfl holds ofCancelled runs 0 result
    have ofFinished := ofCancelled.act (.finishProbe charge.registration 0 result)
    rw [finishes] at ofFinished
    have holds : ({ removal with charges := finished :: rest } : Removal).charges =
        finished :: rest := rfl
    have exits := act_exit_of_split rfl holds ofFinished runs
      (charge.timer.mayExit_finishProbe 0 result)
    have ofEnded := ofFinished.act (.exit charge.registration)
    rw [exits] at ofEnded
    let ended : Charge := { finished with timer := finished.timer.exit }
    have holds : ({ removal with charges := ended :: rest } : Removal).charges =
        ended :: rest := rfl
    have stopped : ended.timer.running = false :=
      (charge.timer.deactivate.active_finishProbe 0 result).2
    have joins := act_join_of_split rfl holds ofEnded stopped (by simp [ended, finished])
    refine ⟨[.cancel removal.caller, .finishProbe charge.registration 0 result,
      .exit charge.registration, .join removal.caller], ?_, ?_⟩
    · simp [CustodyAction.WindsUp, result]
    · simp only [run]
      rw [cancels, finishes, exits, joins]
  · have joins := act_join_of_split rfl holds ofCancelled rfl runs
    refine ⟨[.cancel removal.caller, .join removal.caller], ?_, ?_⟩
    · simp [CustodyAction.WindsUp]
    · simp only [run]
      rw [cancels, joins, filter_loops_of_ended runs]

end Discarding

section WindingUp

variable (answer : Registration → Timer.Return)

/-- A call stops all of its timers, and returns. -/
theorem exists_return (charges : List Charge) {custody : Custody} {seen : List CustodyEvent}
    (balanced : Balanced custody seen) {before after : List Removal} {removal : Removal}
    (split : custody.removals = before ++ removal :: after) (own : removal.charges = charges) :
    ∃ actions : List CustodyAction, (∀ action ∈ actions, action.WindsUp answer) ∧
      (custody.run actions).1.removals = before ++ after ∧
      (custody.run actions).1.registry.timers = custody.registry.timers := by
  induction charges generalizing custody seen removal with
  | nil =>
      refine ⟨[.finish removal.caller], by simp [CustodyAction.WindsUp], ?_⟩
      simp only [run]
      rw [act_finish_of_split split balanced own]
      refine ⟨rfl, ?_⟩
      cases removal.container <;> rfl
  | cons charge rest ih =>
      obtain ⟨actions, windsUp, discarded⟩ := exists_discard split own answer balanced
      have later := balanced.run actions
      rw [discarded] at later
      obtain ⟨more, goesOn, gone, kept⟩ := ih later rfl rfl
      refine ⟨actions ++ more, ?_, ?_, ?_⟩
      · exact List.forall_mem_append.mpr ⟨windsUp, goesOn⟩
      · rw [run_append_fst, discarded, gone]
      · rw [run_append_fst, discarded, kept]

/-- All calls in progress can return, whatever the probes in flight come to. -/
theorem exists_windUp {custody : Custody} {seen : List CustodyEvent}
    (balanced : Balanced custody seen) :
    ∃ actions : List CustodyAction, (∀ action ∈ actions, action.WindsUp answer) ∧
      (custody.run actions).1.removals = [] ∧
      (custody.run actions).1.registry.timers = custody.registry.timers := by
  obtain ⟨calls, inProgress⟩ : ∃ calls, custody.removals = calls := ⟨_, rfl⟩
  induction calls generalizing custody seen with
  | nil => exact ⟨[], by simp, inProgress, rfl⟩
  | cons removal rest ih =>
      have split : custody.removals = [] ++ removal :: rest := inProgress
      obtain ⟨actions, windsUp, gone, kept⟩ :=
        exists_return answer removal.charges balanced split rfl
      obtain ⟨more, goesOn, none, still⟩ := ih (balanced.run actions) gone
      refine ⟨actions ++ more, List.forall_mem_append.mpr ⟨windsUp, goesOn⟩, ?_, ?_⟩
      · rw [run_append_fst, none]
      · rw [run_append_fst, still, kept]

end WindingUp

end Custody

end HealthWatch
