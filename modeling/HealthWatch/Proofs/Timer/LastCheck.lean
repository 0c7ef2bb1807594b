import HealthWatch.Proofs.Timer.Emission
import HealthWatch.Proofs.Timer.Refinement

/-! # The moment of the last check

A timer takes note of the moment when it is started and when it completes a tick, and shows the
latest of these moments (`Timer.dated_operateAll`). So what it shows is the moment of its last check
only when it has completed a tick since it was last started: a timer that was just started shows a
moment although nothing has been checked (`Timer.started_unchecked`).
-/

namespace HealthWatch

/-- Something whose moment a timer takes note of. -/
inductive Sighting
  | start (now : Int)
  | tick (tick : CompletedTick)
  deriving DecidableEq, Repr

namespace Sighting

def moment : Sighting → Int
  | start now => now
  | tick completed => completed.now

def start? : Sighting → Option Int
  | start now => some now
  | tick _ => none

def tick? : Sighting → Option CompletedTick
  | start _ => none
  | tick completed => some completed

/-- The latest moment of some sightings, of which the last one counts. -/
def latest (last : Option Int) (sightings : List Sighting) : Option Int :=
  (sightings.getLast?.map moment).or last

theorem latest_append (last : Option Int) (sightings later : List Sighting) :
    latest (latest last sightings) later = latest last (sightings ++ later) := by
  rw [latest, latest, latest, List.getLast?_append, Option.map_or, Option.or_assoc]

end Sighting

namespace Session

/-- What a timer takes note of in an operation: a start that succeeds, or a completed tick. -/
def sighting (startable : Bool) : Session → TimerOperation → Option Sighting
  | idle, .start now => if startable then some (.start now) else none
  | session, operation => (session.completed operation).map .tick

def sightingsIn (startable : Bool) : Session → List TimerOperation → List Sighting
  | _, [] => []
  | session, operation :: rest =>
      (session.sighting startable operation).toList ++
        sightingsIn startable (session.next startable operation) rest

variable (startable : Bool)

/-- A timer that was dropped stays dropped. -/
theorem foldl_next_dropped (operations : List TimerOperation) :
    operations.foldl (next startable) dropped = dropped := by
  induction operations with
  | nil => rfl
  | cons operation rest ih => exact ih

/-- A timer that is kept takes note of what is seen in an operation, and of nothing else. -/
theorem lastCheck_eq (last : Option Int) {session : Session} {operation : TimerOperation}
    (kept : session.next startable operation ≠ dropped) :
    session.lastCheck startable last operation =
      Sighting.latest last (session.sighting startable operation).toList := by
  cases session with
  | dropped => exact absurd rfl kept
  | idle =>
      cases operation with
      | start now => cases startable <;> rfl
      | due => rfl
      | finish => rfl
      | stop => rfl
      | drop => rfl
  | running outcomes phase =>
      cases operation with
      | drop => exact absurd rfl kept
      | start => cases phase <;> rfl
      | due => cases phase <;> rfl
      | finish now result => cases phase <;> cases result <;> rfl
      | stop now result => cases phase <;> cases result <;> rfl

/-- After some operations a timer shows the latest moment of what was seen in them. -/
theorem operateAll_timer?_fst (container : String) (check : Healthcheck) (last : Option Int)
    (session : Session) (operations : List TimerOperation) :
    (Timer.operateAll (session.timer? container check last) operations).1 =
      (operations.foldl (next check.runnable) session).timer? container check
        (Sighting.latest last (session.sightingsIn check.runnable operations)) := by
  induction operations generalizing session last with
  | nil => rfl
  | cons operation rest ih =>
      rw [Timer.operateAll, operate_timer?, List.foldl_cons, sightingsIn]
      refine (ih _ _).trans ?_
      by_cases gone : session.next check.runnable operation = dropped
      · rw [gone, foldl_next_dropped]
        rfl
      · rw [lastCheck_eq check.runnable last gone, Sighting.latest_append]

/-- What is seen in an operation is a start that succeeds, or the tick that it completes. -/
theorem sighting_cases (session : Session) (operation : TimerOperation) :
    (∃ now, session = idle ∧ operation = .start now ∧ startable = true ∧
      session.sighting startable operation = some (.start now)) ∨
    session.sighting startable operation = (session.completed operation).map .tick := by
  cases session with
  | running => exact .inr rfl
  | dropped => exact .inr rfl
  | idle =>
      cases operation with
      | start now =>
          cases startable with
          | true => exact .inl ⟨now, rfl, rfl, rfl, rfl⟩
          | false => exact .inr rfl
      | due => exact .inr rfl
      | finish => exact .inr rfl
      | stop => exact .inr rfl
      | drop => exact .inr rfl

/-- The completed ticks are the ticks that are seen. -/
theorem filterMap_tick?_sightingsIn (session : Session) (operations : List TimerOperation) :
    (session.sightingsIn startable operations).filterMap Sighting.tick? =
      session.completedIn startable operations := by
  induction operations generalizing session with
  | nil => rfl
  | cons operation rest ih =>
      rw [sightingsIn, List.filterMap_append, ih, completedIn]
      congr 1
      obtain ⟨now, rfl, rfl, -, seen⟩ | seen := session.sighting_cases startable operation
      · rw [seen]
        rfl
      · rw [seen]
        cases session.completed operation <;> rfl

/-- A timer that does not run begins to run only when a start of it is seen. -/
theorem isRunning_next_of_unseen {session : Session} (still : session.isRunning = false)
    {operation : TimerOperation} (unseen : session.sighting startable operation = none) :
    (session.next startable operation).isRunning = false := by
  rw [Bool.eq_false_iff, Ne, isRunning_next_iff still]
  rintro ⟨rfl, rfl, now, rfl⟩
  cases unseen

/-- The first thing that is seen of a timer that does not run is that it starts. -/
theorem exists_start_of_not_running {session : Session} (still : session.isRunning = false)
    {operations : List TimerOperation} {first : Sighting} {rest : List Sighting}
    (seen : session.sightingsIn startable operations = first :: rest) :
    ∃ now, first = .start now := by
  induction operations generalizing session with
  | nil => cases seen
  | cons operation later ih =>
      rw [sightingsIn] at seen
      obtain ⟨now, rfl, rfl, -, here⟩ | here := session.sighting_cases startable operation
      · rw [here] at seen
        cases seen
        exact ⟨now, rfl⟩
      · rw [completed_of_not_running still] at here
        rw [here] at seen
        exact ih (isRunning_next_of_unseen startable still here) seen

end Session

namespace Timer

/-- What the moment means that a timer shows after some operations. -/
structure Dated (check : Healthcheck) (operations : List TimerOperation) (timer : Timer) :
    Prop where
  /-- It is the latest moment of a start that succeeded or of a completed tick. -/
  latest : timer.snapshot.lastCheck =
    Sighting.latest none (Session.idle.sightingsIn check.runnable operations)
  ticks : (Session.idle.sightingsIn check.runnable operations).filterMap Sighting.tick? =
    Session.idle.completedIn check.runnable operations
  /-- There is none as long as no start has succeeded. -/
  unset : timer.snapshot.lastCheck = none ↔
    (Session.idle.sightingsIn check.runnable operations).filterMap Sighting.start? = []
  /-- When a tick was completed after the last start, it is the moment of the last tick. -/
  checked : ∀ tick,
    (Session.idle.sightingsIn check.runnable operations).getLast? = some (.tick tick) →
      timer.snapshot.lastCheck = some tick.now ∧
        (Session.idle.completedIn check.runnable operations).getLast? = some tick
  /-- It stays in an operation that is no start which succeeds and completes no tick. -/
  kept : ∀ operation later, (operate (some timer) operation).1 = some later →
    (∀ now, operation = .start now → (operate (some timer) operation).2.1 ≠ .done) →
    (Session.after check.runnable operations).completed operation = none →
      later.snapshot.lastCheck = timer.snapshot.lastCheck

/-- **What a timer shows as the moment of its last check.** -/
theorem dated_operateAll (container : String) (check : Healthcheck)
    (operations : List TimerOperation) (timer : Timer)
    (left : (operateAll (some (create container check)) operations).1 = some timer) :
    timer.Dated check operations := by
  -- The timer is the one of the session that the operations lead to, so its session is not dropped.
  have reached := Session.operateAll_timer?_fst container check none .idle operations
  have shown : (Session.after check.runnable operations).timer? container check
      (Sighting.latest none (Session.idle.sightingsIn check.runnable operations)) = some timer :=
    reached.symm.trans left
  have kept : Session.after check.runnable operations ≠ .dropped := by
    intro dropped
    rw [dropped] at shown
    cases shown
  rw [Session.timer?_of_ne_dropped _ _ _ _ kept] at shown
  cases shown
  constructor
  case latest => rfl
  case ticks => exact Session.filterMap_tick?_sightingsIn check.runnable .idle operations
  case unset =>
    change Sighting.latest none _ = none ↔ _
    cases seen : Session.idle.sightingsIn check.runnable operations with
    | nil => exact ⟨fun _ => rfl, fun _ => rfl⟩
    | cons first rest =>
        obtain ⟨now, rfl⟩ := Session.exists_start_of_not_running check.runnable rfl seen
        simp [Sighting.latest, Sighting.start?]
  case checked =>
    intro tick last
    obtain ⟨earlier, seen⟩ := List.getLast?_eq_some_iff.mp last
    refine ⟨?_, ?_⟩
    · change Sighting.latest none _ = _
      rw [Sighting.latest, last]
      rfl
    · rw [← Session.filterMap_tick?_sightingsIn, seen, List.filterMap_append]
      exact List.getLast?_concat
  case kept =>
    intro operation later operated unstarted incomplete
    rw [← Session.timer?_of_ne_dropped _ _ _ _ kept, Session.operate_timer?] at operated unstarted
    have stays : (Session.after check.runnable operations).next check.runnable operation ≠
        .dropped := by
      intro dropped
      rw [dropped] at operated
      cases operated
    have unseen : (Session.after check.runnable operations).sighting check.runnable operation =
        none := by
      obtain ⟨now, idle, rfl, runnable, -⟩ | seen :=
        (Session.after check.runnable operations).sighting_cases check.runnable operation
      · refine absurd ?_ (unstarted now rfl)
        rw [idle, Session.reaction, if_pos runnable]
      · rw [seen, incomplete]
        rfl
    rw [Session.lastCheck_eq _ _ stays, unseen, Session.timer?_of_ne_dropped _ _ _ _ stays]
      at operated
    cases operated
    rfl

/-- A timer that completed a tick, was stopped, and was started again. -/
theorem dated_operateAll_of_restart :
    let check : Healthcheck := ⟨["true"], 30, 5, 0, 3, true⟩
    let operations : List TimerOperation :=
      [.start 0, .due, .finish 30 (.outcome (.completed 1)), .stop 40 .crash, .start 50]
    let timer := (Session.running [] .waiting).timer "c1" check (some 50)
    (operateAll (some (create "c1" check)) operations).1 = some timer ∧
      timer.Dated check operations := by
  have left : (operateAll (some (create "c1" ⟨["true"], 30, 5, 0, 3, true⟩))
      [.start 0, .due, .finish 30 (.outcome (.completed 1)), .stop 40 .crash, .start 50]).1 = some
        ((Session.running [] .waiting).timer "c1" ⟨["true"], 30, 5, 0, 3, true⟩ (some 50)) := rfl
  exact ⟨left, dated_operateAll "c1" ⟨["true"], 30, 5, 0, 3, true⟩ _ _ left⟩

/-- What a timer shows is not always the moment of its last completed tick: one that was just
started has completed none. -/
theorem started_unchecked :
    ¬ ∀ (container : String) (check : Healthcheck) (operations : List TimerOperation)
        (timer : Timer),
      (operateAll (some (create container check)) operations).1 = some timer →
        timer.snapshot.lastCheck =
          (Session.idle.completedIn check.runnable operations).getLast?.map CompletedTick.now := by
  intro agrees
  have same := agrees "c1" ⟨["true"], 30, 5, 0, 3, true⟩ [.start 5] _ rfl
  cases same

end Timer

end HealthWatch
