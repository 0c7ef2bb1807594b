import HealthWatch.Timer.Watch

/-! # Sessions of a timer

Whatever is done to a timer, all that it shows and all that its loop keeps is determined by the
session that it is in: the outcomes of the probes completed since it was last started. A
`Session` is read off the operations alone, and one operation on the timer leads from a session
to the next (`Session.operate_timer?`); only the moment of the last check outlives a session.
-/

namespace HealthWatch

/-- Something that is done to a timer, or that its loop does. -/
inductive TimerOperation
  | start (now : Int)
  | due
  /-- The probe in flight comes back, or brings the loop down. -/
  | finish (now : Int) (result : Timer.Return)
  /-- The timer is stopped, and a probe in flight comes back after that. -/
  | stop (now : Int) (result : Timer.Return)
  | drop (now : Int) (result : Timer.Return)
  deriving DecidableEq, Repr

/-- What the loop of a running timer does. -/
inductive LoopPhase
  | waiting
  | probing
  /-- A probe brought the loop down. -/
  | crashed
  deriving DecidableEq, Repr

/-- The session that a timer is in. -/
inductive Session
  | idle
  /-- The timer runs, and its probes had the given outcomes. -/
  | running (outcomes : List Outcome) (phase : LoopPhase)
  | dropped
  deriving DecidableEq, Repr

namespace Session

def isRunning : Session → Bool
  | running _ _ => true
  | _ => false

/-- The session after one operation on a timer that can be started or not. -/
def next (startable : Bool) : Session → TimerOperation → Session
  | dropped, _ => dropped
  | _, .drop _ _ => dropped
  | idle, .start _ => if startable then running [] .waiting else idle
  | running outcomes .waiting, .due => running outcomes .probing
  | running outcomes .probing, .finish _ (.outcome outcome) =>
      running (outcomes ++ [outcome]) .waiting
  | running outcomes .probing, .finish _ .crash => running outcomes .crashed
  | running _ _, .stop _ _ => idle
  | session, _ => session

/-- The session after some operations on a timer that was never started. -/
def after (startable : Bool) (operations : List TimerOperation) : Session :=
  operations.foldl (next startable) idle

def health (check : Healthcheck) : Session → Health
  | running outcomes _ =>
      .after check.interval check.retries (.starting check.startPeriod) outcomes
  | _ => .idle check.startPeriod

def loop (check : Healthcheck) : Session → Option TickLoop
  | running outcomes .waiting => some ⟨(running outcomes .waiting).health check, false⟩
  | running outcomes .probing => some ⟨(running outcomes .probing).health check, true⟩
  | _ => none

/-- When the timer last took note of the container's health, after one operation. -/
def lastCheck (startable : Bool) (last : Option Int) : Session → TimerOperation → Option Int
  | idle, .start now => if startable then some now else last
  | running _ .probing, .finish now (.outcome _) => some now
  | running _ .probing, .stop now (.outcome _) => some now
  | _, _ => last

/-- What the probe in flight of a session comes to. -/
def event (container : String) (check : Healthcheck) (outcomes : List Outcome) (now : Int) :
    Timer.Return → Option StatusEvent
  | .crash => none
  | .outcome outcome =>
      let transition :=
        ((running outcomes .probing).health check).step check.interval check.retries outcome
      if transition.report then
        some (.of container transition.health.status outcome.exitCode now)
      else none

/-- What an operation comes to in a session. -/
def reaction (container : String) (check : Healthcheck) :
    Session → TimerOperation → Acted × Option StatusEvent
  | dropped, _ => (.nothingInFlight, none)
  | idle, .start _ => if check.runnable then (.done, none) else (.refused .disabled, none)
  | running _ _, .start _ =>
      if check.runnable then (.refused .alreadyActive, none) else (.refused .disabled, none)
  | running outcomes .probing, .finish now result =>
      (.done, event container check outcomes now result)
  | running outcomes .probing, .stop now result =>
      (.done, event container check outcomes now result)
  | running outcomes .probing, .drop now result =>
      (.done, event container check outcomes now result)
  | _, .finish _ _ => (.nothingInFlight, none)
  | _, _ => (.done, none)

/-- The timer that is in a session and last took note of its container's health at a moment. -/
def timer (container : String) (check : Healthcheck) (last : Option Int) (session : Session) :
    Timer where
  container := container
  check := check
  running := session.isRunning
  active := session.isRunning
  loop := session.loop check
  snapshot := .of (session.health check) last session.isRunning

/-- The timer of a session, unless it was dropped. -/
def timer? (container : String) (check : Healthcheck) (last : Option Int) :
    Session → Option Timer
  | dropped => none
  | session => some (session.timer container check last)

/-- A timer that does not run begins to run when it is idle, can be started, and is started. -/
theorem isRunning_next_iff {startable : Bool} {session : Session}
    (still : session.isRunning = false) {operation : TimerOperation} :
    (session.next startable operation).isRunning = true ↔
      startable = true ∧ session = idle ∧ ∃ now, operation = .start now := by
  cases session with
  | running outcomes phase => cases still
  | dropped => cases operation <;> simp [next, isRunning]
  | idle =>
      cases operation with
      | start now => cases startable <;> simp [next, isRunning]
      | due => simp [next, isRunning]
      | finish => simp [next, isRunning]
      | stop => simp [next, isRunning]
      | drop => simp [next, isRunning]

end Session

namespace Timer

/-- One operation: the timer after it, what it came to, and the event to be reported. Nothing
is left of a timer that was dropped. -/
def operate : Option Timer → TimerOperation → Option Timer × Acted × Option StatusEvent
  | none, _ => (none, .nothingInFlight, none)
  | some timer, .start now =>
      match timer.start now with
      | .error fault => (some timer, .refused fault, none)
      | .ok started => (some started, .done, none)
  | some timer, .due => (some timer.callProbe, .done, none)
  | some timer, .finish now result =>
      if timer.probing then
        let (timer, event) := timer.finishProbe now result
        (some timer, .done, event)
      else (some timer, .nothingInFlight, none)
  | some timer, .stop now result =>
      let (timer, event) := timer.stop now result
      (some timer, .done, event)
  | some timer, .drop now result => (none, .done, (timer.stop now result).2)

def operateAll : Option Timer → List TimerOperation →
    Option Timer × List (Acted × Option StatusEvent)
  | timer, [] => (timer, [])
  | timer, operation :: rest =>
      let (next, reaction) := operate timer operation
      let (last, reactions) := operateAll next rest
      (last, reaction :: reactions)

/-- Operations in two parts lead where they lead together. -/
theorem operateAll_append_fst (timer : Option Timer) (first second : List TimerOperation) :
    (operateAll timer (first ++ second)).1 = (operateAll (operateAll timer first).1 second).1 := by
  induction first generalizing timer with
  | nil => rfl
  | cons operation rest ih => exact ih _

end Timer

namespace Session

variable (container : String) (check : Healthcheck) (last : Option Int)

/-- A timer that was never started is idle. -/
theorem create_eq_timer : Timer.create container check = idle.timer container check none := rfl

theorem health_concat (outcomes : List Outcome) (outcome : Outcome) (phase : LoopPhase) :
    (running (outcomes ++ [outcome]) phase).health check =
      (((running outcomes phase).health check).step check.interval check.retries outcome).health := by
  rw [health, health, Health.after, List.foldl_append]
  rfl

/-- A start succeeds for a healthcheck that can be run, unless a session is on already. -/
theorem start_timer (session : Session) (now : Int) :
    (session.timer container check last).start now =
      if !check.runnable then .error .disabled
      else if session.isRunning then .error .alreadyActive
      else .ok ((running [] .waiting).timer container check (some now)) := rfl

/-- A timer that was never started starts if its healthcheck can be run. -/
theorem start_create (now : Int) :
    (Timer.create container check).start now =
      if check.runnable then .ok ((running [] .waiting).timer container check (some now))
      else .error .disabled := by
  rw [create_eq_timer, start_timer]
  cases check.runnable <;> rfl

/-- A probe is in flight exactly in a session that probes. -/
theorem probing_timer (session : Session) :
    (session.timer container check last).probing = true ↔
      ∃ outcomes, session = running outcomes .probing := by
  cases session with
  | idle => simp [Timer.probing, timer, loop]
  | dropped => simp [Timer.probing, timer, loop]
  | running outcomes phase => cases phase <;> simp [Timer.probing, timer, loop]

/-- A tick adds its outcome to those of the session, and tells what the health makes of it. -/
theorem tick_timer (outcomes : List Outcome) (now : Int) (outcome : Outcome) :
    ((running outcomes .probing).timer container check last).tick now outcome =
      ((running (outcomes ++ [outcome]) .waiting).timer container check (some now),
        event container check outcomes now (.outcome outcome)) := by
  simp only [timer, loop, health_concat]
  rfl

/-- Starting leads from a session to the next, and is refused to a timer that runs or that
cannot be started. -/
theorem operate_start (session : Session) (now : Int) :
    Timer.operate (some (session.timer container check last)) (.start now) =
      if !check.runnable then
        (some (session.timer container check last), .refused .disabled, none)
      else if session.isRunning then
        (some (session.timer container check last), .refused .alreadyActive, none)
      else (some ((running [] .waiting).timer container check (some now)), .done, none) := by
  rw [Timer.operate, start_timer]
  cases check.runnable <;> cases session.isRunning <;> rfl

/-- One operation leads from a session to the next, and what it comes to depends on nothing
but the session. -/
theorem operate_timer? (session : Session) (operation : TimerOperation) :
    Timer.operate (session.timer? container check last) operation =
      ((session.next check.runnable operation).timer? container check
          (session.lastCheck check.runnable last operation),
        session.reaction container check operation) := by
  cases session with
  | dropped => cases operation <;> rfl
  | idle =>
      cases operation with
      | start now =>
          refine (operate_start container check last idle now).trans ?_
          dsimp only [next, lastCheck, reaction, isRunning]
          cases check.runnable <;> rfl
      | due => rfl
      | finish => rfl
      | stop => rfl
      | drop => rfl
  | running outcomes phase =>
      cases operation with
      | start now =>
          refine (operate_start container check last (running outcomes phase) now).trans ?_
          cases phase <;> dsimp only [next, lastCheck, reaction, isRunning] <;>
            cases check.runnable <;> rfl
      | due => cases phase <;> rfl
      | finish now result =>
          cases phase with
          | waiting => cases result <;> rfl
          | crashed => cases result <;> rfl
          | probing =>
              cases result with
              | crash => rfl
              | outcome outcome =>
                  have tick := tick_timer container check last outcomes now outcome
                  exact congrArg (fun ticked => (some ticked.1, Acted.done, ticked.2)) tick
      | stop now result => cases phase <;> cases result <;> rfl
      | drop now result => cases phase <;> cases result <;> rfl

/-- Operations on the timer of a session lead to the timer of the session that they lead to. -/
theorem exists_operateAll_timer? (session : Session) (operations : List TimerOperation) :
    ∃ later, (Timer.operateAll (session.timer? container check last) operations).1 =
      (operations.foldl (next check.runnable) session).timer? container check later := by
  induction operations generalizing session last with
  | nil => exact ⟨last, rfl⟩
  | cons operation rest ih =>
      rw [Timer.operateAll, operate_timer?]
      exact ih _ _

/-- What operations come to does not depend on when the timer last took note of the health. -/
theorem operateAll_timer?_snd (session : Session) (other : Option Int)
    (operations : List TimerOperation) :
    (Timer.operateAll (session.timer? container check last) operations).2 =
      (Timer.operateAll (session.timer? container check other) operations).2 := by
  induction operations generalizing session last other with
  | nil => rfl
  | cons operation rest ih =>
      rw [Timer.operateAll, Timer.operateAll, operate_timer?, operate_timer?]
      exact congrArg (List.cons _) (ih _ _ _)

end Session

end HealthWatch
