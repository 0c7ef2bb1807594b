import HealthWatch.Proofs.Health.View
import HealthWatch.Proofs.Timer.Emission

/-! # What the parent knows of a timer

Whoever reads the events of a session knows the status that the timer shows: as long as no event
of the session was refused, the last one has the status of the snapshot, at every moment between
two happenings and after the tick that a stop waits for (`Reporting.agrees_run`).
-/

namespace HealthWatch

namespace Note

/-- Whether a session of the timer begins. -/
def begins : Note → Bool
  | operated (.start _) .done _ => true
  | _ => false

/-- What is known of the latest session of the timer. -/
def sessionIn (notes : List Note) : List Note :=
  notes.foldl (fun kept note => if note.begins then [] else kept ++ [note]) []

theorem sessionIn_concat (notes : List Note) (note : Note) :
    sessionIn (notes ++ [note]) = if note.begins then [] else sessionIn notes ++ [note] := by
  rw [sessionIn, List.foldl_append]
  rfl

/-- Notes that begin no session belong to the latest one. -/
theorem sessionIn_append {notes more : List Note} (within : ∀ note ∈ more, note.begins = false) :
    sessionIn (notes ++ more) = sessionIn notes ++ more := by
  induction more using List.reverseRecOn with
  | nil => simp
  | append_singleton more note ih =>
      rw [← List.append_assoc, sessionIn_concat, within note (by simp),
        ih fun other member => within other (List.mem_append_left _ member), List.append_assoc]
      rfl

/-- What is known of the latest session is known. -/
theorem mem_of_mem_sessionIn {notes : List Note} {note : Note} (member : note ∈ sessionIn notes) :
    note ∈ notes := by
  induction notes using List.reverseRecOn with
  | nil => exact member
  | append_singleton notes latest ih =>
      rw [sessionIn_concat] at member
      split at member
      · cases member
      · rcases List.mem_append.mp member with earlier | last
        · exact List.mem_append_left _ (ih earlier)
        · exact List.mem_append_right _ last

end Note

namespace Session

variable {container : String} {check : Healthcheck} {session : Session}
  {operation : TimerOperation}

/-- The timer of a session is determined by it. -/
theorem eq_timer_of_timer? {last : Option Int} {timer : Timer}
    (present : session.timer? container check last = some timer) :
    timer = session.timer container check last := by
  cases session with
  | dropped => cases present
  | idle => exact (Option.some.inj present).symm
  | running outcomes phase => exact (Option.some.inj present).symm

/-- Only an idle timer begins a session. -/
theorem next_of_begins {left : Option Timer}
    (begins : (Note.operated operation
      (session.reaction container check operation).1 left).begins = true) :
    session = idle ∧ session.next check.runnable operation = running [] .waiting := by
  cases operation with
  | due => cases begins
  | finish => cases begins
  | stop => cases begins
  | drop => cases begins
  | start now =>
      cases session with
      | dropped => cases begins
      | running outcomes phase =>
          cases runnable : check.runnable <;> simp [reaction, runnable, Note.begins] at begins
      | idle =>
          cases runnable : check.runnable with
          | true => exact ⟨rfl, rfl⟩
          | false => simp [reaction, runnable, Note.begins] at begins

/-- A completed tick belongs to a running session, whose health steps with it. -/
theorem next_of_completed {tick : CompletedTick}
    (completed : session.completed operation = some tick) :
    session = running tick.earlier .probing ∧
      ((session.next check.runnable operation).isRunning = true →
        (session.next check.runnable operation).health check =
          (tick.transition check).health) := by
  cases session with
  | idle => cases operation <;> cases completed
  | dropped => cases operation <;> cases completed
  | running outcomes phase =>
      cases operation with
      | start => cases phase <;> cases completed
      | due => cases phase <;> cases completed
      | finish now result =>
          cases phase <;> cases result <;> cases completed
          exact ⟨rfl, fun _ => health_concat check outcomes _ .waiting⟩
      | stop now result =>
          cases phase <;> cases result <;> cases completed
          exact ⟨rfl, fun running => by cases running⟩
      | drop now result =>
          cases phase <;> cases result <;> cases completed
          exact ⟨rfl, fun running => by cases running⟩

/-- Without a completed tick, a session that goes on keeps its health. -/
theorem next_of_rest {left : Option Timer}
    (within : (Note.operated operation
      (session.reaction container check operation).1 left).begins = false)
    (rests : session.completed operation = none)
    (goesOn : (session.next check.runnable operation).isRunning = true) :
    session.isRunning = true ∧
      (session.next check.runnable operation).health check = session.health check := by
  cases session with
  | dropped => cases operation <;> cases goesOn
  | idle =>
      cases operation with
      | start now =>
          cases runnable : check.runnable with
          | true => simp [reaction, runnable, Note.begins] at within
          | false =>
              rw [runnable] at goesOn
              cases goesOn
      | due => cases goesOn
      | finish => cases goesOn
      | stop => cases goesOn
      | drop => cases goesOn
  | running outcomes phase =>
      refine ⟨rfl, ?_⟩
      cases operation with
      | start => cases phase <;> rfl
      | due => cases phase <;> rfl
      | finish now result => cases phase <;> cases result <;> first | rfl | cases rests
      | stop => cases phase <;> cases goesOn
      | drop => cases phase <;> cases goesOn

/-- What an operation makes of all that is known of the latest session. -/
inductive Continues (container : String) (check : Healthcheck) (session : Session)
    (operation : TimerOperation) (earlier : List Note) : List Note → Prop
  /-- A session begins, of which nothing is known yet. -/
  | begins (next : session.next check.runnable operation = running [] .waiting) :
      Continues container check session operation earlier []
  /-- No tick is completed, and nothing is told. -/
  | rests {later : List Note} (kept : earlier ⊆ later)
      (told : Note.toldIn later = Note.toldIn earlier)
      (next : (session.next check.runnable operation).isRunning = true →
        session.isRunning = true ∧
          (session.next check.runnable operation).health check = session.health check) :
      Continues container check session operation earlier later
  | ticks (tick : CompletedTick) {later : List Note} (kept : earlier ⊆ later)
      (told : Note.toldIn later =
        Note.toldIn earlier ++ (tick.event? container check).toList)
      (was : session = running tick.earlier .probing)
      (next : (session.next check.runnable operation).isRunning = true →
        (session.next check.runnable operation).health check = (tick.transition check).health) :
      Continues container check session operation earlier later

end Session

namespace Reporting

variable {σ : Type}

theorem begins_tell (exchange : Exchange σ) (event : Option StatusEvent) :
    ∀ note ∈ (tell exchange event).2, note.begins = false := by
  cases event <;> simp [tell, Note.begins]

/-- An operation goes on with the latest session or begins the next. -/
theorem continues_operate {container : String} {check : Healthcheck} {session : Session}
    {last : Option Int} (sink : Sink σ) {reporting : Reporting σ}
    (inSession : reporting.timer = session.timer? container check last)
    (operation : TimerOperation) (notes : List Note) :
    session.Continues container check operation (Note.sessionIn notes)
      (Note.sessionIn (notes ++ (reporting.act sink (.timer operation)).2)) := by
  have step := operate_inSession inSession operation
  rw [notes_act_timer, step]
  -- What matters of the note is whether a session begins with it, not the timer it shows.
  generalize Session.timer? container check (session.lastCheck check.runnable last operation)
    (session.next check.runnable operation) = left
  cases begins :
      (Note.operated operation (session.reaction container check operation).1 left).begins with
  | true =>
      rw [← List.append_assoc, Note.sessionIn_concat, begins]
      exact .begins (Session.next_of_begins begins).2
  | false =>
      rw [← List.append_assoc, Note.sessionIn_concat, begins, if_neg Bool.false_ne_true,
        Note.sessionIn_append (begins_tell _ _), List.append_assoc]
      have kept := List.subset_append_left (Note.sessionIn notes)
      cases completed : session.completed operation with
      | none =>
          apply Session.Continues.rests (kept _)
          case told => simp [tell]
          case next => exact Session.next_of_rest begins completed
      | some tick =>
          obtain ⟨was, next⟩ := Session.next_of_completed completed
          apply Session.Continues.ticks tick (kept _)
          case told => simp
          case was => exact was
          case next => exact next

/-- What holds of a timer after everything that is known of it, when no event of the latest
session was refused. -/
def Viewed (container : String) (check : Healthcheck) (reporting : Reporting σ)
    (notes : List Note) : Prop :=
  ∃ session last, reporting.timer = Session.timer? container check last session ∧
    (Accepted (Note.sessionIn notes) →
      ∃ health : Health, health.View (Note.toldIn (Note.sessionIn notes)) ∧
        (session.isRunning = true → health = session.health check))

namespace Viewed

variable {container : String} {check : Healthcheck} {sink : Sink σ} {reporting : Reporting σ}
  {notes : List Note}

theorem begin (container : String) (check : Healthcheck) (capacity : Nat) (wait : Span)
    (state : σ) : Viewed container check (.begin container check capacity wait state) [] :=
  ⟨.idle, none, rfl, fun _ => ⟨.starting 0, .starting 0, fun running => by cases running⟩⟩

/-- A completed tick keeps the health in view. -/
theorem completed (tick : CompletedTick) {told : List StatusEvent}
    (view : (Health.after check.interval check.retries (.starting check.startPeriod)
      tick.earlier).View told) :
    (tick.transition check).health.View (told ++ (tick.event? container check).toList) := by
  have next := view.step container tick.now tick.outcome check.interval check.retries
  rwa [Health.View.toldAfter_eq] at next

/-- An operation keeps the timer in view of what it told. -/
theorem operate (viewed : Viewed container check reporting notes) (operation : TimerOperation) :
    Viewed container check (reporting.act sink (.timer operation)).1
      (notes ++ (reporting.act sink (.timer operation)).2) := by
  obtain ⟨session, last, inSession, view⟩ := viewed
  have step := operate_inSession inSession operation
  have continued := continues_operate sink inSession operation notes
  refine ⟨_, _, (timer_act_timer sink reporting operation).trans (congrArg Prod.fst step), ?_⟩
  generalize Note.sessionIn (notes ++ (reporting.act sink (.timer operation)).2) = later
    at continued
  intro accepted
  cases continued with
  | begins next =>
      rw [next]
      exact ⟨.starting check.startPeriod, .starting check.startPeriod, fun _ => rfl⟩
  | rests kept told next =>
      obtain ⟨health, seen, same⟩ := view (accepted.mono kept)
      rw [told]
      refine ⟨health, seen, ?_⟩
      intro goesOn
      obtain ⟨running, unchanged⟩ := next goesOn
      rw [unchanged, same running]
  | ticks tick kept told was next =>
      obtain ⟨health, seen, same⟩ := view (accepted.mono kept)
      subst was
      rw [same rfl] at seen
      rw [told]
      exact ⟨_, Viewed.completed tick seen, fun goesOn => (next goesOn).symm⟩

/-- Whatever happens, the timer stays in view of what it told. -/
theorem act (viewed : Viewed container check reporting notes) (happening : Happening) :
    Viewed container check (reporting.act sink happening).1
      (notes ++ (reporting.act sink happening).2) := by
  cases happening with
  | timer operation => exact viewed.operate operation
  | elsewhere action =>
      obtain ⟨session, last, inSession, view⟩ := viewed
      refine ⟨session, last, inSession, ?_⟩
      rw [Reporting.act, Note.sessionIn_append (by simp [Note.begins]), Note.toldIn_append,
        Note.toldIn_map_seen, List.append_nil]
      exact fun accepted => view (accepted.mono (List.subset_append_left _ _))

/-- After any happenings, what was told shows the timer. -/
theorem run (viewed : Viewed container check reporting notes) (happenings : List Happening) :
    Viewed container check (reporting.run sink happenings).1
      (notes ++ (reporting.run sink happenings).2) :=
  run_induction sink (Viewed container check) (fun _ _ happening viewed => viewed.act happening)
    viewed happenings

end Viewed

/-- What the events of a session say, and how that agrees with the timer. -/
structure Agrees (reporting : Reporting σ) (told : List StatusEvent) : Prop where
  /-- The last event tells the status that a running timer shows. -/
  shown : ∀ timer, reporting.timer = some timer → timer.running = true →
    StatusEvent.lastStatus told = timer.snapshot.status.word
  /-- So it does after the tick that a stop waits for. -/
  stopping : ∀ timer, reporting.timer = some timer → timer.probing = true → ∀ now outcome,
    StatusEvent.lastStatus (told ++ (timer.cancel.tick now outcome).2.toList) =
      (timer.cancel.tick now outcome).1.snapshot.status.word
  /-- A session starts, and then has verdicts only. -/
  ordered : ∃ count verdicts,
    told.map StatusEvent.status = List.replicate count Status.starting.word ++ verdicts ∧
      ∀ verdict ∈ verdicts, verdict = Status.healthy.word ∨ verdict = Status.unhealthy.word
  healthy : ∀ event ∈ told, event.status = Status.healthy.word → event.exitCode = 0
  unhealthy : ∀ event ∈ told, event.status = Status.unhealthy.word → event.exitCode ≠ 0
  /-- No event but the first says that the timer is starting and that its probe passed. -/
  first : ∀ event ∈ told.tail, event.status = Status.starting.word → event.exitCode ≠ 0

/-- Whatever happens to a timer that was never started, to its exchange and to its sink, the
events of its latest session agree with it, if all of them were accepted. -/
theorem agrees_run (container : String) (check : Healthcheck) (capacity : Nat) (wait : Span)
    (state : σ) (sink : Sink σ) (happenings : List Happening)
    (accepted : Accepted (Note.sessionIn
      ((begin container check capacity wait state).run sink happenings).2)) :
    Agrees ((begin container check capacity wait state).run sink happenings).1
      (Note.toldIn (Note.sessionIn
        ((begin container check capacity wait state).run sink happenings).2)) := by
  have viewed : Viewed container check
      ((begin container check capacity wait state).run sink happenings).1
      ([] ++ ((begin container check capacity wait state).run sink happenings).2) :=
    (Viewed.begin container check capacity wait state).run happenings
  obtain ⟨session, last, inSession, view⟩ := viewed
  obtain ⟨health, seen, same⟩ := view accepted
  rw [List.nil_append] at seen
  constructor
  case shown =>
    intro timer present running
    rw [inSession] at present
    cases Session.eq_timer_of_timer? present
    rw [seen.current, same running]
    rfl
  case stopping =>
    intro timer present probing now outcome
    rw [inSession] at present
    cases Session.eq_timer_of_timer? present
    obtain ⟨outcomes, rfl⟩ := (Session.probing_timer container check last session).mp probing
    rw [same rfl] at seen
    exact (Viewed.completed ⟨outcomes, outcome, now⟩ seen).current
  case ordered => exact seen.ordered
  case healthy => exact seen.healthy
  case unhealthy => exact seen.unhealthy
  case first => exact seen.first

/-- A session of four ticks, of which the second passed inside the start period and the third
failed after it without being told. -/
theorem agrees_run_of_silent_ticks :
    let check : Healthcheck := ⟨["true"], 2, 2, 3, 2, true⟩
    let operations : List (TimerOperation × Nat) :=
      [(.start 0, 2), (.due, 2), (.finish 2 (.outcome (.completed 0)), 2),
        (.due, 2), (.finish 4 (.outcome (.completed 0)), 2),
        (.due, 2), (.finish 6 (.outcome (.completed 1)), 2),
        (.due, 2), (.finish 8 (.outcome (.completed 1)), 2)]
    let ran := (begin "c1" check 4 ⟨1000⟩ ()).run Sink.accepting (turns operations)
    Accepted (Note.sessionIn ran.2) ∧ Agrees ran.1 (Note.toldIn (Note.sessionIn ran.2)) ∧
      Note.toldIn ran.2 = [.of "c1" .starting 0 2, .of "c1" .unhealthy 1 8] := by
  intro check operations ran
  have accepts : Sink.accepting.Accepts := fun _ _ _ => rfl
  have opened : (begin "c1" check 4 ⟨1000⟩ ()).exchange.Open := .begin ..
  have prompt : ∀ turn ∈ operations, 2 ≤ turn.2 := by decide
  have all := (cleared_run_turns accepts opened rfl operations prompt).2
  have accepted : Accepted (Note.sessionIn ran.2) := fun event result member =>
    all event result (Note.mem_of_mem_sessionIn member)
  have told : Note.toldIn ran.2 = eventsOf "c1" check (operations.map Prod.fst) :=
    toldIn_turns "c1" check 4 ⟨1000⟩ () operations
  exact ⟨accepted,
    agrees_run "c1" check 4 ⟨1000⟩ () Sink.accepting (turns operations) accepted,
    told.trans (by decide)⟩

end Reporting

end HealthWatch
