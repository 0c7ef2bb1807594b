import HealthWatch.Proofs.Report.Acceptance
import HealthWatch.Proofs.Timer.Reporting

/-! # What a timer makes its sink say

Which ticks were completed is read off the operations on a timer (`Session.completedIn`), those
that a stop or a drop found in flight included. A timer tells one event for each of them whose
transition has to be told, and none otherwise (`Reporting.toldIn_run`). Before a sink that takes
every message, the events that were accepted become messages in the order in which they were
told, and a writer that keeps up leaves none behind (`Reporting.emits_run`).
-/

namespace HealthWatch

/-- A tick of a timer. -/
structure CompletedTick where
  /-- What the probes of the session came to before it. -/
  earlier : List Outcome
  outcome : Outcome
  now : Int
  deriving DecidableEq, Repr

namespace CompletedTick

def transition (check : Healthcheck) (tick : CompletedTick) : Transition :=
  (Health.after check.interval check.retries (.starting check.startPeriod) tick.earlier).step
    check.interval check.retries tick.outcome

/-- The event of a tick whose transition has to be told. -/
def event? (container : String) (check : Healthcheck) (tick : CompletedTick) :
    Option StatusEvent :=
  if (tick.transition check).report then
    some (.of container (tick.transition check).health.status tick.outcome.exitCode tick.now)
  else none

end CompletedTick

/-- Whether an operation ends the session of a timer. -/
def TimerOperation.ends : TimerOperation → Bool
  | stop _ _ => true
  | drop _ _ => true
  | _ => false

namespace Session

/-- The tick that an operation completes. -/
def completed : Session → TimerOperation → Option CompletedTick
  | running earlier .probing, .finish now (.outcome outcome) => some ⟨earlier, outcome, now⟩
  | running earlier .probing, .stop now (.outcome outcome) => some ⟨earlier, outcome, now⟩
  | running earlier .probing, .drop now (.outcome outcome) => some ⟨earlier, outcome, now⟩
  | _, _ => none

/-- The ticks that operations complete, in order. -/
def completedIn (startable : Bool) : Session → List TimerOperation → List CompletedTick
  | _, [] => []
  | session, operation :: rest =>
      (session.completed operation).toList ++
        completedIn startable (session.next startable operation) rest

/-- An operation tells an event exactly when it completes a tick that has one. -/
theorem reaction_snd (container : String) (check : Healthcheck) (session : Session)
    (operation : TimerOperation) :
    (session.reaction container check operation).2 =
      (session.completed operation).bind (CompletedTick.event? container check) := by
  cases session with
  | idle =>
      cases operation with
      | start now =>
          rw [reaction]
          split <;> rfl
      | due => rfl
      | finish => rfl
      | stop => rfl
      | drop => rfl
  | dropped => cases operation <;> rfl
  | running earlier phase =>
      cases operation with
      | start now =>
          cases phase <;> rw [reaction] <;> split <;> rfl
      | due => cases phase <;> rfl
      | finish now result => cases phase <;> cases result <;> rfl
      | stop now result => cases phase <;> cases result <;> rfl
      | drop now result => cases phase <;> cases result <;> rfl

/-- A session that does not run begins only with a start that succeeds. -/
theorem isRunning_next (container : String) {check : Healthcheck} {session : Session}
    (still : session.isRunning = false) (operation : TimerOperation)
    (unstarted : ∀ now, operation = .start now →
      (session.reaction container check operation).1 ≠ .done) :
    (session.next check.runnable operation).isRunning = false := by
  rw [Bool.eq_false_iff, Ne, isRunning_next_iff still]
  rintro ⟨runnable, rfl, now, rfl⟩
  refine unstarted now rfl ?_
  rw [reaction, if_pos runnable]

/-- Without a running session no tick is completed. -/
theorem completed_of_not_running {session : Session} (still : session.isRunning = false)
    (operation : TimerOperation) : session.completed operation = none := by
  cases session with
  | running earlier phase => cases still
  | idle => cases operation <;> rfl
  | dropped => cases operation <;> rfl

/-- An operation that ends the session leaves none running. -/
theorem isRunning_next_of_ends (startable : Bool) (session : Session) {operation : TimerOperation}
    (ends : operation.ends = true) : (session.next startable operation).isRunning = false := by
  cases operation with
  | start => cases ends
  | due => cases ends
  | finish => cases ends
  | stop now result =>
      cases session with
      | running earlier phase => cases phase <;> rfl
      | idle => rfl
      | dropped => rfl
  | drop now result =>
      cases session with
      | running earlier phase => cases phase <;> rfl
      | idle => rfl
      | dropped => rfl

end Session

namespace Reporting

variable {σ : Type}

section Told

variable (sink : Sink σ) {container : String} {check : Healthcheck} {last : Option Int}

/-- The event of an operation is that of the tick which it completes. -/
theorem operate_inSession {session : Session} {reporting : Reporting σ}
    (inSession : reporting.timer = session.timer? container check last)
    (operation : TimerOperation) :
    Timer.operate reporting.timer operation =
      ((session.next check.runnable operation).timer? container check
          (session.lastCheck check.runnable last operation),
        (session.reaction container check operation).1,
        (session.completed operation).bind (CompletedTick.event? container check)) := by
  rw [inSession, session.operate_timer? container check last operation, ← Session.reaction_snd]

/-- A timer tells the events of the ticks that were completed, and nothing else. -/
theorem toldIn_run (session : Session) (reporting : Reporting σ)
    (inSession : reporting.timer = session.timer? container check last)
    (happenings : List Happening) :
    Note.toldIn (reporting.run sink happenings).2 =
      (session.completedIn check.runnable (Happening.operationsIn happenings)).filterMap
        (CompletedTick.event? container check) := by
  induction happenings generalizing session reporting last with
  | nil => rfl
  | cons happening rest ih =>
      rw [run_cons_snd, Note.toldIn_append]
      cases happening with
      | elsewhere action =>
          rw [act, Note.toldIn_map_seen, Happening.operationsIn_elsewhere]
          exact ih session _ inSession
      | timer operation =>
          have step := operate_inSession inSession operation
          have later : (reporting.act sink (.timer operation)).1.timer = _ :=
            congrArg Prod.fst step
          rw [ih _ _ later, notes_act_timer, Note.toldIn_append, toldIn_tell, step,
            Note.toldIn_operated, List.append_nil, Happening.operationsIn_timer,
            Session.completedIn, List.filterMap_append]
          cases session.completed operation <;> rfl

/-- A timer that does not run tells nothing before a start of it succeeds. -/
theorem toldIn_run_of_not_running (session : Session) (reporting : Reporting σ)
    (inSession : reporting.timer = session.timer? container check last)
    (still : session.isRunning = false) (happenings : List Happening)
    (unstarted : ∀ now left, .operated (.start now) .done left ∉
      (reporting.run sink happenings).2) :
    Note.toldIn (reporting.run sink happenings).2 = [] := by
  induction happenings generalizing session reporting last with
  | nil => rfl
  | cons happening rest ih =>
      rw [run_cons_snd] at unstarted ⊢
      have laterUnstarted := fun now left member =>
        unstarted now left (List.mem_append_right _ member)
      rw [Note.toldIn_append]
      cases happening with
      | elsewhere action =>
          rw [act, Note.toldIn_map_seen]
          exact ih session _ inSession still laterUnstarted
      | timer operation =>
          have step := operate_inSession inSession operation
          have later : (reporting.act sink (.timer operation)).1.timer = _ :=
            congrArg Prod.fst step
          have refused : ∀ now, operation = .start now →
              (session.reaction container check operation).1 ≠ .done := by
            -- A start that succeeds leaves a note, and there is no such note.
            rintro now rfl done
            apply unstarted now (Timer.operate reporting.timer (.start now)).1
            rw [notes_act_timer, step, done]
            simp
          have stillLater := Session.isRunning_next container still operation refused
          rw [ih _ _ later stillLater laterUnstarted, notes_act_timer, Note.toldIn_append,
            toldIn_tell, step, Session.completed_of_not_running still]
          rfl

end Told

/-- Operations in turn with the writer, which makes some number of steps after each. -/
def turns (operations : List (TimerOperation × Nat)) : List Happening :=
  operations.flatMap fun turn => .timer turn.1 :: (List.replicate turn.2 .write).map .elsewhere

theorem turns_cons (turn : TimerOperation × Nat) (rest : List (TimerOperation × Nat)) :
    turns (turn :: rest) =
      (.timer turn.1 :: (List.replicate turn.2 .write).map .elsewhere) ++ turns rest := rfl

/-- The operations of some turns are those that the turns were made of. -/
theorem operationsIn_turns (operations : List (TimerOperation × Nat)) :
    Happening.operationsIn (turns operations) = operations.map Prod.fst := by
  induction operations with
  | nil => rfl
  | cons turn rest ih =>
      have written :
          Happening.operationsIn ((List.replicate turn.2 .write).map .elsewhere) = [] := by
        simp [Happening.operationsIn, Happening.operation?]
      rw [turns_cons, Happening.operationsIn_append, Happening.operationsIn_timer, written, ih]
      rfl

/-- In turns nobody else uses the exchange. -/
theorem Alone.turns (operations : List (TimerOperation × Nat)) : Alone (turns operations) := by
  intro action member
  obtain ⟨turn, -, member⟩ := List.mem_flatMap.mp member
  rw [List.mem_cons, or_iff_right (by simp)] at member
  exact Alone.writes _ action member

section Writing

variable {sink : Sink σ} {reporting : Reporting σ}

/-- Telling an event leaves the writer running and the handle in place. -/
theorem open_tell (opened : reporting.exchange.Open) (event : Option StatusEvent) :
    (tell reporting.exchange event).1.Open := by
  obtain ⟨running, alive, handle⟩ := opened
  cases event with
  | none => exact ⟨running, alive, handle⟩
  | some event =>
      obtain ⟨queue, told⟩ := reporting.exchange.tell_fst event
      rw [tell, told]
      exact ⟨running, alive, handle⟩

/-- The writer stays, and every message that the sink is given is that of an event. -/
theorem open_run (accepts : sink.Accepts) (opened : reporting.exchange.Open)
    {happenings : List Happening} (alone : Alone happenings) :
    (reporting.run sink happenings).1.exchange.Open ∧
      Note.handedIn (reporting.run sink happenings).2 =
        (Observation.deliveredIn (Note.observedIn (reporting.run sink happenings).2)).map
          StatusEvent.message := by
  induction happenings generalizing reporting with
  | nil => exact ⟨opened, rfl⟩
  | cons happening rest ih =>
      have restAlone := alone.tail
      rw [run_cons_fst, run_cons_snd, Note.handedIn_append, Note.observedIn_append,
        Observation.deliveredIn_append, List.map_append]
      cases happening with
      | timer operation =>
          have stillOpen : (reporting.act sink (.timer operation)).1.exchange.Open :=
            open_tell opened _
          obtain ⟨last, later⟩ := ih stillOpen restAlone
          refine ⟨last, ?_⟩
          rw [later, notes_act_timer]
          cases (Timer.operate reporting.timer operation).2.2 <;> rfl
      | elsewhere action =>
          cases alone action (List.mem_cons_self ..)
          obtain ⟨still, -, handed⟩ := Exchange.open_write accepts opened
          have stillOpen : (reporting.act sink (.elsewhere .write)).1.exchange.Open := still
          obtain ⟨last, later⟩ := ih stillOpen restAlone
          refine ⟨last, ?_⟩
          rw [later, act, Note.handedIn_map_seen, Note.observedIn_map_seen]
          exact congrArg (· ++ _) handed

/-- When all that was told was accepted, the accepted events are those that were told. -/
theorem acceptedIn_run {happenings : List Happening} (alone : Alone happenings)
    (accepted : Accepted (reporting.run sink happenings).2) :
    Observation.acceptedIn (Note.observedIn (reporting.run sink happenings).2) =
      Note.toldIn (reporting.run sink happenings).2 := by
  induction happenings generalizing reporting with
  | nil => rfl
  | cons happening rest ih =>
      have restAlone := alone.tail
      rw [run_cons_snd] at accepted ⊢
      have restAccepted := accepted.mono (List.subset_append_right _ _)
      rw [Note.observedIn_append, Observation.acceptedIn_append, Note.toldIn_append,
        ih restAlone restAccepted]
      cases happening with
      | timer operation =>
          rw [notes_act_timer] at accepted ⊢
          cases event : (Timer.operate reporting.timer operation).2.2 with
          | none => rfl
          | some event' =>
              rw [event, tell] at accepted
              have told := accepted event' _
                (List.mem_append_left _ (List.mem_append_left _ (List.mem_singleton_self _)))
              rw [tell, told]
              rfl
      | elsewhere action =>
          cases alone action (List.mem_cons_self ..)
          rw [act, Note.observedIn_map_seen, Note.toldIn_map_seen]
          exact congrArg (· ++ _) (Exchange.acceptedIn_write sink)

/-- An exchange with nothing pending accepts an event, which then takes two steps. -/
theorem pending_tell (opened : reporting.exchange.Open)
    (cleared : reporting.exchange.pending = 0) (event : Option StatusEvent) :
    (tell reporting.exchange event).1.pending ≤ 2 ∧ Accepted (tell reporting.exchange event).2 := by
  cases event with
  | none => exact ⟨by simp [tell, cleared], by simp [Accepted, tell]⟩
  | some event =>
      obtain ⟨held, queue⟩ := Exchange.delivery_of_pending cleared
      have room : reporting.exchange.delivery.queue.length <
          max reporting.exchange.delivery.capacity 1 := by
        rw [queue]
        exact Nat.lt_of_lt_of_le Nat.zero_lt_one (Nat.le_max_right _ _)
      rw [tell, reporting.exchange.tell_of_room event opened.alive room]
      constructor
      · simp [Exchange.pending, held, queue]
      · intro told result member
        cases List.mem_singleton.mp member
        rfl

/-- After two steps of the writer nothing of a turn is left with it, so the next event is
accepted. -/
theorem cleared_run_turn (accepts : sink.Accepts) (opened : reporting.exchange.Open)
    (cleared : reporting.exchange.pending = 0) (operation : TimerOperation) {count : Nat}
    (enough : 2 ≤ count) {after : Reporting σ × List Note}
    (turn : reporting.run sink (.timer operation :: (List.replicate count .write).map .elsewhere) =
      after) :
    after.1.exchange.Open ∧ after.1.exchange.pending = 0 ∧ Accepted after.2 := by
  obtain ⟨few, told⟩ := pending_tell opened cleared (Timer.operate reporting.timer operation).2.2
  obtain ⟨still, left, -⟩ := Exchange.open_run_write accepts
    (open_tell opened (Timer.operate reporting.timer operation).2.2) count
  rw [run_turn, exchange_act_timer, notes_act_timer] at turn
  subst turn
  refine ⟨still, ?_, (told.append ?_).append ?_⟩
  · dsimp only
    rw [left]
    omega
  · simp [Accepted]
  · simp [Accepted]

/-- A writer that makes two steps after every operation always has room for the next event, and
leaves nothing behind. -/
theorem cleared_run_turns (accepts : sink.Accepts) (opened : reporting.exchange.Open)
    (cleared : reporting.exchange.pending = 0) (operations : List (TimerOperation × Nat))
    (prompt : ∀ turn ∈ operations, 2 ≤ turn.2) :
    (reporting.run sink (turns operations)).1.exchange.pending = 0 ∧
      Accepted (reporting.run sink (turns operations)).2 := by
  induction operations generalizing reporting with
  | nil => exact ⟨cleared, by simp [Accepted, turns, run]⟩
  | cons turn rest ih =>
      obtain ⟨stillOpen, stillCleared, told⟩ := cleared_run_turn accepts opened cleared turn.1
        (prompt turn (List.mem_cons_self ..)) rfl
      obtain ⟨lastCleared, later⟩ := ih stillOpen stillCleared fun next member =>
        prompt next (List.mem_cons_of_mem _ member)
      rw [turns_cons, run_append_fst, run_append_snd]
      exact ⟨lastCleared, told.append later⟩

/-- An exchange with nothing pending accounts for its events anew. -/
theorem conserved_of_cleared {exchange : Exchange σ} (opened : exchange.Open)
    (cleared : exchange.pending = 0) : exchange.Conserved exchange.delivery.capacity [] := by
  obtain ⟨held, queue⟩ := Exchange.delivery_of_pending cleared
  constructor
  case kept =>
    intro _
    rw [held, queue]
    rfl
  case ordered => exact List.nil_prefix
  case places => rfl
  case fits =>
    rw [queue]
    exact Nat.zero_le _
  case alive => exact iff_of_true opened.alive (.inl opened.running)
  case idle => exact fun stopped => absurd opened.running stopped
  case crashed => simp [opened.running]
  case ended => exact fun ended => absurd (opened.running.symm.trans ended) (by simp)
  case written => simp

/-- Before a sink that takes everything, what was told and accepted is what was handed over, held
or queued. -/
theorem handedIn_run (accepts : sink.Accepts) (opened : reporting.exchange.Open)
    (cleared : reporting.exchange.pending = 0) {happenings : List Happening}
    (alone : Alone happenings) (accepted : Accepted (reporting.run sink happenings).2) :
    Note.handedIn (reporting.run sink happenings).2 ++
        ((reporting.run sink happenings).1.exchange.delivery.held.toList ++
          (reporting.run sink happenings).1.exchange.delivery.queue).map StatusEvent.message =
      (Note.toldIn (reporting.run sink happenings).2).map StatusEvent.message := by
  obtain ⟨last, handed⟩ := open_run accepts opened alone
  have began : reporting.exchange.Conserved _ (Note.observedIn []) :=
    conserved_of_cleared opened cleared
  have kept := (conserved_run sink began happenings).kept last.alive
  rw [List.nil_append, acceptedIn_run alone accepted] at kept
  rw [handed, kept, List.append_assoc]
  simp only [List.map_append]

/-- Between two moments with nothing pending, the sink is given the messages for what was told. -/
theorem handedIn_run_of_cleared (accepts : sink.Accepts) (opened : reporting.exchange.Open)
    (cleared : reporting.exchange.pending = 0) {happenings : List Happening}
    (alone : Alone happenings) (accepted : Accepted (reporting.run sink happenings).2)
    (nothing : (reporting.run sink happenings).1.exchange.pending = 0) :
    Note.handedIn (reporting.run sink happenings).2 =
      (Note.toldIn (reporting.run sink happenings).2).map StatusEvent.message := by
  obtain ⟨held, queue⟩ := Exchange.delivery_of_pending nothing
  have kept := handedIn_run accepts opened cleared alone accepted
  rwa [held, queue, Option.toList_none, List.nil_append, List.map_nil, List.append_nil] at kept

/-- Steps of the writer tell nothing, and bring it nearer to having nothing pending. -/
theorem run_writes (accepts : sink.Accepts) (opened : reporting.exchange.Open) (count : Nat) :
    (reporting.run sink ((List.replicate count .write).map .elsewhere)).1.exchange.pending =
        reporting.exchange.pending - count ∧
      Note.toldIn (reporting.run sink ((List.replicate count .write).map .elsewhere)).2 = [] := by
  obtain ⟨-, left, -⟩ := Exchange.open_run_write accepts opened count
  rw [run_elsewhere]
  exact ⟨left, Note.toldIn_map_seen _⟩

end Writing

/-- The events that a timer has to tell when the operations are done to it. -/
def eventsOf (container : String) (check : Healthcheck) (operations : List TimerOperation) :
    List StatusEvent :=
  (Session.idle.completedIn check.runnable operations).filterMap
    (CompletedTick.event? container check)

/-- What a timer that was never started makes a sink say that takes everything, when operations
on it and the writer take turns. -/
structure Emits (container : String) (check : Healthcheck) (sink : Sink σ) (first : Reporting σ)
    (operations : List (TimerOperation × Nat)) : Prop where
  /-- One event is told for each completed tick that has to be told, in order. -/
  told : Note.toldIn (first.run sink (turns operations)).2 =
    eventsOf container check (operations.map Prod.fst)
  /-- Unless an event was refused, every one of them was handed over or is still on its way. -/
  conserved : Accepted (first.run sink (turns operations)).2 →
    Note.handedIn (first.run sink (turns operations)).2 ++
        ((first.run sink (turns operations)).1.exchange.delivery.held.toList ++
          (first.run sink (turns operations)).1.exchange.delivery.queue).map StatusEvent.message =
      (eventsOf container check (operations.map Prod.fst)).map StatusEvent.message
  /-- What is on its way is handed over as the writer goes on. -/
  drained : Accepted (first.run sink (turns operations)).2 → ∀ count,
    (first.run sink (turns operations)).1.exchange.pending ≤ count →
    Note.handedIn (first.run sink
        (turns operations ++ (List.replicate count .write).map .elsewhere)).2 =
      (eventsOf container check (operations.map Prod.fst)).map StatusEvent.message
  /-- Before a writer that keeps up no event is refused, and each is handed over at once. -/
  prompt : (∀ turn ∈ operations, 2 ≤ turn.2) →
    Accepted (first.run sink (turns operations)).2 ∧
      Note.handedIn (first.run sink (turns operations)).2 =
        (eventsOf container check (operations.map Prod.fst)).map StatusEvent.message
  /-- Once a stop or a drop has returned, nothing is told before a start succeeds. -/
  silent : ∀ before final later, operations = before ++ final :: later → final.1.ends = true →
    (∀ now left, .operated (.start now) .done left ∉
      ((first.run sink (turns (before ++ [final]))).1.run sink (turns later)).2) →
    Note.toldIn ((first.run sink (turns (before ++ [final]))).1.run sink (turns later)).2 = [] ∧
      ((∀ turn ∈ before ++ [final], 2 ≤ turn.2) →
        Note.handedIn
          ((first.run sink (turns (before ++ [final]))).1.run sink (turns later)).2 = [])

section Emits

variable (container : String) (check : Healthcheck) (capacity : Nat) (wait : Span) (state : σ)
  {sink : Sink σ} (operations : List (TimerOperation × Nat))

/-- What a timer tells in turns is what its operations make it tell. -/
theorem toldIn_turns :
    Note.toldIn ((begin container check capacity wait state).run sink (turns operations)).2 =
      eventsOf container check (operations.map Prod.fst) := by
  have begun : (begin container check capacity wait state).timer =
      Session.idle.timer? container check none := rfl
  rw [toldIn_run sink .idle _ begun, operationsIn_turns, eventsOf]

/-- Once the writer has caught up, the sink has been given all the messages in their order. -/
theorem handedIn_drained (accepts : sink.Accepts)
    (accepted : Accepted
      ((begin container check capacity wait state).run sink (turns operations)).2) (count : Nat)
    (enough : ((begin container check capacity wait state).run sink
      (turns operations)).1.exchange.pending ≤ count) :
    Note.handedIn ((begin container check capacity wait state).run sink
        (turns operations ++ (List.replicate count .write).map .elsewhere)).2 =
      (eventsOf container check (operations.map Prod.fst)).map StatusEvent.message := by
  have opened : (begin container check capacity wait state).exchange.Open := .begin ..
  obtain ⟨still, -⟩ := open_run accepts opened (.turns operations)
  obtain ⟨left, silent⟩ := run_writes accepts still count
  -- Enough further steps leave nothing pending, and tell nothing.
  have nothing := left.trans (Nat.sub_eq_zero_of_le enough)
  have alone := (Alone.turns operations).append (.writes count)
  rw [← run_append_fst] at nothing
  rw [handedIn_run_of_cleared accepts opened rfl alone ?_ nothing, run_append_snd,
    Note.toldIn_append, silent, List.append_nil, toldIn_turns]
  rw [run_append_snd]
  exact accepted.append (accepted_of_toldIn silent)

/-- After an operation that ends the session nothing is told, unless the timer is started again. -/
theorem silent_after (accepts : sink.Accepts) (before : List (TimerOperation × Nat))
    (final : TimerOperation × Nat) (later : List (TimerOperation × Nat))
    (ends : final.1.ends = true) {middle : Reporting σ}
    (reached : ((begin container check capacity wait state).run sink
      (turns (before ++ [final]))).1 = middle)
    (unstarted : ∀ now left,
      .operated (.start now) .done left ∉ (middle.run sink (turns later)).2) :
    Note.toldIn (middle.run sink (turns later)).2 = [] ∧
      ((∀ turn ∈ before ++ [final], 2 ≤ turn.2) →
        Note.handedIn (middle.run sink (turns later)).2 = []) := by
  obtain ⟨last, left⟩ := exists_timer_run sink container check capacity wait state
    (turns (before ++ [final]))
  rw [reached, operationsIn_turns] at left
  have still : (Session.after check.runnable
      ((before ++ [final]).map Prod.fst)).isRunning = false := by
    rw [Session.after, List.map_append, List.foldl_append]
    exact Session.isRunning_next_of_ends check.runnable _ ends
  have told := toldIn_run_of_not_running sink _ middle left still (turns later) unstarted
  refine ⟨told, ?_⟩
  intro prompt
  have opened : (begin container check capacity wait state).exchange.Open := .begin ..
  obtain ⟨cleared, -⟩ := cleared_run_turns accepts opened rfl (before ++ [final]) prompt
  obtain ⟨stillOpen, -⟩ := open_run accepts opened (.turns (before ++ [final]))
  rw [reached] at cleared stillOpen
  have kept := handedIn_run accepts stillOpen cleared (.turns later) (accepted_of_toldIn told)
  rw [told] at kept
  exact (List.append_eq_nil_iff.mp kept).1

end Emits

/-- **What a sink is given.** The messages for the ticks that have something to report, in their
order and no others, at the pace of the writer and as long as none is refused by a full queue.
After a stop or a drop there are no more of them. -/
theorem emits_run (container : String) (check : Healthcheck) (capacity : Nat) (wait : Span)
    (state : σ) {sink : Sink σ} (accepts : sink.Accepts)
    (operations : List (TimerOperation × Nat)) :
    Emits container check sink (begin container check capacity wait state) operations := by
  have opened : (begin container check capacity wait state).exchange.Open := .begin ..
  have told : Note.toldIn ((begin container check capacity wait state).run sink
      (turns operations)).2 = _ := toldIn_turns container check capacity wait state operations
  constructor
  case told => exact told
  case conserved =>
    intro accepted
    rw [handedIn_run accepts opened rfl (.turns operations) accepted, told]
  case drained => exact handedIn_drained container check capacity wait state operations accepts
  case prompt =>
    intro prompt
    obtain ⟨nothing, accepted⟩ := cleared_run_turns accepts opened rfl operations prompt
    refine ⟨accepted, ?_⟩
    rw [handedIn_run_of_cleared accepts opened rfl (.turns operations) accepted nothing, told]
  case silent =>
    intro before final later _ ends unstarted
    exact silent_after container check capacity wait state accepts before final later ends rfl
      unstarted

/-- A probe that passed, and one that was in flight when the timer was stopped. -/
theorem emits_run_lines :
    let check : Healthcheck := ⟨["true"], 30, 30, 0, 1, true⟩
    let operations : List (TimerOperation × Nat) :=
      [(.start 0, 2), (.due, 2), (.finish 30 (.outcome (.completed 0)), 2), (.due, 2),
        (.stop 61 (.outcome (.infrastructure "fork")), 2), (.stop 62 .crash, 2)]
    Sink.lines.Accepts ∧
      Note.handedIn ((begin "c1" check 0 ⟨1000⟩ "").run Sink.lines (turns operations)).2 =
        [(StatusEvent.of "c1" .healthy 0 30).message,
          (StatusEvent.of "c1" .unhealthy (-1) 61).message] := by
  intro check operations
  have accepts : Sink.lines.Accepts := fun _ _ _ => rfl
  have prompt : ∀ turn ∈ operations, 2 ≤ turn.2 := by decide
  exact ⟨accepts, ((emits_run "c1" check 0 ⟨1000⟩ "" accepts operations).prompt prompt).2⟩

end Reporting

end HealthWatch
