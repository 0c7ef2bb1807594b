import HealthWatch.Proofs.Healthcheck.Values
import HealthWatch.Proofs.Timer.Session

/-! # A timer and its session

Started, stopped, brought down by its probe and started again, a timer shows exactly what the
outcomes since its last start lead to. Nothing but such operations happens to the timer of a
watch (`Watch.exists_operateAll_run`).
-/

namespace HealthWatch

namespace Healthcheck

/-- A healthcheck that a timer can be given: one with checked values, or the disabled one. -/
def Built (check : Healthcheck) : Prop :=
  (∃ test interval timeout startPeriod retries,
    ofValues test interval timeout startPeriod retries = .ok check) ∨ check = disabled

/-- Exactly the enabled healthchecks can be run. -/
theorem Built.runnable_eq {check : Healthcheck} (built : check.Built) :
    check.runnable = check.enabled := by
  rcases built with made | disabled
  · have runnable := Made.runnable made
    rw [runnable]
    exact (Bool.and_eq_true_iff.mp runnable).1.symm
  · rw [disabled]
    rfl

end Healthcheck

namespace Session

/-- A timer that cannot be started does not come to run. -/
theorem isRunning_next_of_not_startable (session : Session) (operation : TimerOperation)
    (still : session.isRunning = false) : (session.next false operation).isRunning = false := by
  rw [Bool.eq_false_iff, Ne, isRunning_next_iff still]
  rintro ⟨⟨⟩, -⟩

/-- Whatever is done to it, a timer that cannot be started does not come to run. -/
theorem isRunning_foldl_of_not_startable (operations : List TimerOperation) (session : Session)
    (still : session.isRunning = false) :
    (operations.foldl (next false) session).isRunning = false := by
  induction operations generalizing session with
  | nil => exact still
  | cons operation rest ih => exact ih _ (isRunning_next_of_not_startable session operation still)

/-- Only a timer that can be started ever runs. -/
theorem startable_of_isRunning {startable : Bool} {operations : List TimerOperation}
    (running : (after startable operations).isRunning = true) : startable = true := by
  cases startable with
  | true => rfl
  | false =>
      rw [after, isRunning_foldl_of_not_startable operations idle rfl] at running
      cases running

end Session

namespace Timer

/-- The timer without the moment of its last check. -/
def undated (timer : Timer) : Timer :=
  { timer with snapshot := { timer.snapshot with lastCheck := none } }

/-- What a timer promises in the session that it is in. -/
structure InSession (container : String) (check : Healthcheck) (session : Session)
    (timer : Timer) : Prop where
  /-- A timer can be started exactly when it is enabled and idle. -/
  starts : ∀ now, (∃ started, timer.start now = .ok started) ↔
    check.enabled = true ∧ session = .idle
  /-- A start that is refused leaves everything as it was. -/
  refuses : ∀ now, (¬ ∃ started, timer.start now = .ok started) →
    ∃ fault, operate (some timer) (.start now) = (some timer, .refused fault, none)
  /-- A running timer shows what the outcomes since its start lead to. -/
  shows : ∀ outcomes phase, session = .running outcomes phase →
    ∃ last, timer.snapshot =
      .of (.after check.interval check.retries (.starting check.startPeriod) outcomes) last true
  rests : session = .idle → ∃ last, timer.snapshot = .of (.idle check.startPeriod) last false
  /-- A probe that brings the loop down takes nothing but the loop with it. -/
  crashes : timer.probing = true → ∀ now,
    operate (some timer) (.finish now .crash) = (some { timer with loop := none }, .done, none)
  crashed : ∀ outcomes, session = .running outcomes .crashed →
    timer.loop = none ∧ timer.running = true ∧ ∀ now, timer.start now = .error .alreadyActive
  /-- Stopping completes the tick that is in flight. -/
  completes : timer.probing = true → ∀ now result other,
    operate (some timer) (.stop now result) =
      ((operateAll (some timer) [.finish now result, .stop now other]).1,
        (operate (some timer) (.finish now result)).2)
  stops : ∀ now result, ∃ stopped, (operate (some timer) (.stop now result)).1 = some stopped ∧
    stopped.running = false ∧ stopped.loop = none ∧
      ∃ last, stopped.snapshot = .of (.idle check.startPeriod) last false
  /-- The flag of the loop, the snapshot and the lifecycle agree on whether the timer runs. -/
  agrees : timer.active = timer.snapshot.active ∧ timer.active = timer.running
  restarts : session = .idle → ∀ now, timer.start now = (create container check).start now
  /-- Whatever is done to an idle timer comes to what it would if the timer was never started. -/
  forgets : session = .idle → ∀ later,
    (operateAll (some timer) later).2 = (operateAll (some (create container check)) later).2 ∧
      (operateAll (some timer) later).1.map undated =
        (operateAll (some (create container check)) later).1.map undated

/-- What is left of a timer after some operations, as its session says. -/
structure Refines (container : String) (check : Healthcheck) (session : Session)
    (left : Option Timer) : Prop where
  gone : left = none ↔ session = .dropped
  kept : ∀ timer, left = some timer → timer.InSession container check session

end Timer

namespace Session

variable (container : String) (check : Healthcheck) (last : Option Int) (session : Session)

/-- A timer can be started exactly when its healthcheck can be run and no session is on. -/
theorem exists_start_timer_iff (kept : session ≠ dropped) (now : Int) :
    (∃ started, (session.timer container check last).start now = .ok started) ↔
      check.runnable = true ∧ session = idle := by
  rw [start_timer]
  cases check.runnable with
  | false => simp
  | true =>
      cases session with
      | idle => simp [isRunning]
      | running outcomes phase => simp [isRunning]
      | dropped => exact absurd rfl kept

/-- A start that is refused leaves the timer as it was. -/
theorem operate_start_of_refused (now : Int)
    (refused : ¬ ∃ started, (session.timer container check last).start now = .ok started) :
    ∃ fault, Timer.operate (some (session.timer container check last)) (.start now) =
      (some (session.timer container check last), .refused fault, none) := by
  cases start : (session.timer container check last).start now with
  | ok started => exact absurd ⟨started, start⟩ refused
  | error fault => exact ⟨fault, by rw [Timer.operate, start]⟩

/-- Stopping a timer whose probe is in flight is completing the tick and then stopping. -/
theorem operate_stop_of_probing (outcomes : List Outcome) (now : Int)
    (result other : Timer.Return) :
    Timer.operate ((running outcomes .probing).timer? container check last) (.stop now result) =
      ((Timer.operateAll ((running outcomes .probing).timer? container check last)
          [.finish now result, .stop now other]).1,
        (Timer.operate ((running outcomes .probing).timer? container check last)
          (.finish now result)).2) := by
  simp only [Timer.operateAll, operate_timer?]
  cases result with
  | crash => rfl
  | outcome outcome => rfl

/-- A stop leaves the timer idle, with or without a probe in flight. -/
theorem operate_stop (kept : session ≠ dropped) (now : Int) (result : Timer.Return) :
    ∃ later, (Timer.operate (session.timer? container check last) (.stop now result)).1 =
      some (idle.timer container check later) := by
  rw [operate_timer?]
  cases session with
  | idle => exact ⟨last, rfl⟩
  | dropped => exact absurd rfl kept
  | running outcomes phase =>
      cases phase with
      | waiting => exact ⟨last, rfl⟩
      | probing => exact ⟨_, rfl⟩
      | crashed => exact ⟨last, rfl⟩

/-- A session that was not dropped has its timer. -/
theorem timer?_of_ne_dropped (kept : session ≠ dropped) :
    session.timer? container check last = some (session.timer container check last) := by
  cases session with
  | idle => rfl
  | running outcomes phase => rfl
  | dropped => exact absurd rfl kept

/-- But for the moment of its last check, the timer is determined by its session. -/
theorem map_undated_timer? (other : Option Int) :
    (session.timer? container check last).map Timer.undated =
      (session.timer? container check other).map Timer.undated := by
  cases session with
  | idle => rfl
  | running outcomes phase => rfl
  | dropped => rfl

/-- What a timer promises holds of the timer of every session that operations lead to. -/
theorem inSession_timer (built : check.Built) (kept : session ≠ dropped)
    (reached : session.isRunning = true → check.enabled = true) :
    (session.timer container check last).InSession container check session := by
  have present := timer?_of_ne_dropped container check last session kept
  constructor
  case starts =>
    intro now
    rw [← built.runnable_eq]
    exact exists_start_timer_iff container check last session kept now
  case refuses => exact operate_start_of_refused container check last session
  case shows =>
    rintro outcomes phase rfl
    exact ⟨last, rfl⟩
  case rests =>
    rintro rfl
    exact ⟨last, rfl⟩
  case crashes =>
    intro probing now
    obtain ⟨outcomes, rfl⟩ := (probing_timer container check last session).mp probing
    rfl
  case crashed =>
    rintro outcomes rfl
    refine ⟨rfl, rfl, fun now => ?_⟩
    rw [start_timer, built.runnable_eq, reached rfl]
    rfl
  case completes =>
    intro probing now result other
    obtain ⟨outcomes, rfl⟩ := (probing_timer container check last session).mp probing
    exact operate_stop_of_probing container check last outcomes now result other
  case stops =>
    intro now result
    obtain ⟨later, stopped⟩ := operate_stop container check last session kept now result
    rw [present] at stopped
    exact ⟨_, stopped, rfl, rfl, later, rfl⟩
  case agrees => exact ⟨rfl, rfl⟩
  case restarts =>
    rintro rfl now
    rw [create_eq_timer, start_timer, start_timer]
  case forgets =>
    rintro rfl later
    rw [create_eq_timer]
    refine ⟨operateAll_timer?_snd container check last idle none later, ?_⟩
    obtain ⟨one, here⟩ := exists_operateAll_timer? container check last idle later
    obtain ⟨other, there⟩ := exists_operateAll_timer? container check none idle later
    rw [timer?_of_ne_dropped _ _ _ _ kept] at here there
    rw [here, there]
    exact map_undated_timer? container check one _ other

end Session

namespace Timer

/-- Whatever is done to a timer, it refines the session that the operations lead to. -/
theorem refines_operateAll (container : String) {check : Healthcheck} (built : check.Built)
    (operations : List TimerOperation) :
    Refines container check (.after check.enabled operations)
      (operateAll (some (create container check)) operations).1 := by
  obtain ⟨last, reached⟩ :=
    Session.exists_operateAll_timer? container check none .idle operations
  have begun : Session.idle.timer? container check none = some (create container check) := rfl
  rw [built.runnable_eq, begun] at reached
  rw [Session.after, reached]
  constructor
  case gone =>
    cases operations.foldl (Session.next check.enabled) .idle with
    | idle => simp [Session.timer?]
    | running outcomes phase => simp [Session.timer?]
    | dropped => simp [Session.timer?]
  case kept =>
    intro timer left
    have kept : operations.foldl (Session.next check.enabled) .idle ≠ .dropped := by
      intro dropped
      rw [dropped] at left
      cases left
    rw [Session.timer?_of_ne_dropped _ _ _ _ kept] at left
    cases left
    exact Session.inSession_timer container check last _ built kept Session.startable_of_isRunning

/-- A timer that its probe brought down in its second tick, and that was started again. -/
theorem refines_operateAll_of_restart :
    let check : Healthcheck := ⟨["true"], 30, 30, 0, 3, true⟩
    let operations : List TimerOperation :=
      [.start 0, .due, .finish 30 (.outcome (.completed 1)), .due, .finish 60 .crash, .start 61,
        .stop 62 .crash, .start 63]
    check.Built ∧
      Refines "c1" check (.running [] .waiting)
        (operateAll (some (create "c1" check)) operations).1 := by
  have built : Healthcheck.Built ⟨["true"], 30, 30, 0, 3, true⟩ :=
    .inl ⟨["true"], 30, 30, 0, 3, by rfl⟩
  exact ⟨built, refines_operateAll "c1" built
    [.start 0, .due, .finish 30 (.outcome (.completed 1)), .due, .finish 60 .crash, .start 61,
      .stop 62 .crash, .start 63]⟩

end Timer

namespace Watch

variable {σ : Type} (sink : Sink σ)

/-- An action on a watch is made of operations on its timer. -/
theorem exists_operateAll_act (watch : Watch σ) (action : TimerAction) :
    ∃ operations, (Timer.operateAll (some watch.timer) operations).1 =
      some (watch.act sink action).1.timer := by
  cases action with
  | start now due =>
      cases start : watch.timer.start now with
      | error fault => exact ⟨[], by rw [act, start, Timer.operateAll]⟩
      | ok timer =>
          have started : Timer.operate (some watch.timer) (.start now) =
              (some timer, .done, none) := by rw [Timer.operate, start]
          cases due with
          | false => exact ⟨[.start now], by simp [act, start, Timer.operateAll, started]⟩
          | true =>
              refine ⟨[.start now, .due], ?_⟩
              rw [act, start, Timer.operateAll, started]
              rfl
  | tick now result =>
      by_cases probing : watch.timer.probing = true
      · refine ⟨[.finish now result, .due], ?_⟩
        rw [act, if_pos probing]
        simp only [Timer.operateAll, Timer.operate, if_pos probing]
        rfl
      · exact ⟨[], by rw [act, if_neg probing, Timer.operateAll]⟩
  | stop now result => exact ⟨[.stop now result], rfl⟩

/-- Nothing but operations happens to the timer of a watch. -/
theorem exists_operateAll_run {watch : Watch σ} {actions : List TimerAction}
    {entry : Watch σ × Acted × List Handed} (member : entry ∈ watch.run sink actions) :
    ∃ operations, (Timer.operateAll (some watch.timer) operations).1 = some entry.1.timer := by
  induction actions generalizing watch with
  | nil => cases member
  | cons action rest ih =>
      obtain ⟨first, acted⟩ := exists_operateAll_act sink watch action
      rw [run, List.mem_cons] at member
      rcases member with rfl | later
      · exact ⟨first, acted⟩
      · obtain ⟨second, reached⟩ := ih later
        exact ⟨first ++ second, by rw [Timer.operateAll_append_fst, acted, reached]⟩

end Watch

end HealthWatch
