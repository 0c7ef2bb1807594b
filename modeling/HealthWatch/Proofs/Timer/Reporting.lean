import HealthWatch.Proofs.Report.Conservation
import HealthWatch.Proofs.Timer.Session

/-! # A timer that reports

A `Reporting` is a timer together with the exchange that its events go to. What is done to the
timer, what its loop does, what the writer does and what others report take turns in any order.
An operation of the timer tells the exchange at most one event, and goes on whether the event is
accepted or not: what the timer does and shows is determined by the operations alone
(`Reporting.operatedIn_run`), so two runs with the same operations never differ in it
(`Reporting.undisturbed`).
-/

namespace HealthWatch

namespace Exchange

variable {σ : Type} {capacity : Nat} {seen : List Observation}

/-- A timer reports an event through a handle of its own. -/
def tell (exchange : Exchange σ) (event : StatusEvent) : Exchange σ × Except Failure Unit :=
  match exchange.delivery.report event with
  | .ok delivery => ({ exchange with delivery }, .ok ())
  | .error failure => (exchange, .error failure)

/-- An event is accepted while the writer runs and the queue has room. -/
theorem tell_of_room (exchange : Exchange σ) (event : StatusEvent)
    (alive : exchange.delivery.alive = true)
    (room : exchange.delivery.queue.length < max exchange.delivery.capacity 1) :
    exchange.tell event =
      ({ exchange with
          delivery := { exchange.delivery with queue := exchange.delivery.queue ++ [event] } },
        .ok ()) := by
  rw [tell, Delivery.report, if_neg (by simp [alive]), Delivery.places, if_pos room]

/-- An event that is refused leaves the exchange as it was. -/
theorem tell_of_refused (exchange : Exchange σ) (event : StatusEvent)
    (refused : ¬ (exchange.delivery.alive = true ∧
      exchange.delivery.queue.length < max exchange.delivery.capacity 1)) :
    ∃ failure, exchange.tell event = (exchange, .error failure) := by
  rw [tell, Delivery.report, Delivery.places]
  cases alive : exchange.delivery.alive with
  | false => exact ⟨.channelClosed, by simp⟩
  | true =>
      have full : ¬ exchange.delivery.queue.length < max exchange.delivery.capacity 1 :=
        fun room => refused ⟨alive, room⟩
      rw [if_neg full]
      exact ⟨.reportRefused exchange.delivery.wait, by simp⟩

/-- Telling an event changes nothing but the queue. -/
theorem tell_fst (exchange : Exchange σ) (event : StatusEvent) :
    ∃ queue, (exchange.tell event).1 =
      { exchange with delivery := { exchange.delivery with queue } } := by
  by_cases accepts : exchange.delivery.alive = true ∧
      exchange.delivery.queue.length < max exchange.delivery.capacity 1
  · rw [exchange.tell_of_room event accepts.1 accepts.2]
    exact ⟨_, rfl⟩
  · obtain ⟨failure, refused⟩ := exchange.tell_of_refused event accepts
    rw [refused]
    exact ⟨exchange.delivery.queue, rfl⟩

/-- Telling an event loses none. -/
theorem Conserved.tell {exchange : Exchange σ} (conserved : Conserved capacity exchange seen)
    (event : StatusEvent) :
    Conserved capacity (exchange.tell event).1
      (seen ++ [.reported event (exchange.tell event).2]) := by
  by_cases accepts : exchange.delivery.alive = true ∧
      exchange.delivery.queue.length < max exchange.delivery.capacity 1
  · rw [exchange.tell_of_room event accepts.1 accepts.2]
    exact conserved.accept event accepts.1 accepts.2
  · obtain ⟨failure, refused⟩ := exchange.tell_of_refused event accepts
    rw [refused]
    exact conserved.refuse event failure

end Exchange

/-- A timer and the exchange that its events go to. -/
structure Reporting (σ : Type) where
  /-- Nothing, once the timer was dropped. -/
  timer : Option Timer
  exchange : Exchange σ

/-- Something that happens while a timer reports. -/
inductive Happening
  | timer (operation : TimerOperation)
  /-- The writer goes one step, or somebody else uses the exchange. -/
  | elsewhere (action : ExchangeAction)
  deriving DecidableEq, Repr

namespace Happening

def operation? : Happening → Option TimerOperation
  | timer operation => some operation
  | elsewhere _ => none

/-- What was done to the timer, in order. -/
def operationsIn (happenings : List Happening) : List TimerOperation :=
  happenings.filterMap operation?

@[simp] theorem operationsIn_append (happenings more : List Happening) :
    operationsIn (happenings ++ more) = operationsIn happenings ++ operationsIn more :=
  List.filterMap_append

@[simp] theorem operationsIn_timer (operation : TimerOperation) (rest : List Happening) :
    operationsIn (timer operation :: rest) = operation :: operationsIn rest := rfl

@[simp] theorem operationsIn_elsewhere (action : ExchangeAction) (rest : List Happening) :
    operationsIn (elsewhere action :: rest) = operationsIn rest := rfl

end Happening

/-- What is known of something that happened. -/
inductive Note
  /-- The timer told an event, which was accepted or not. -/
  | told (event : StatusEvent) (result : Except Failure Unit)
  /-- An operation came to something, and left a timer. -/
  | operated (operation : TimerOperation) (acted : Acted) (left : Option Timer)
  | seen (observation : Observation)

namespace Note

def told? : Note → Option StatusEvent
  | told event _ => some event
  | _ => none

def operated? : Note → Option (TimerOperation × Acted × Option Timer)
  | operated operation acted left => some (operation, acted, left)
  | _ => none

def observation? : Note → Option Observation
  | told event result => some (.reported event result)
  | operated _ _ _ => none
  | seen observation => some observation

/-- The events that the timer told, accepted or not. -/
def toldIn (notes : List Note) : List StatusEvent := notes.filterMap told?

/-- What every operation came to, and the timer after it. -/
def operatedIn (notes : List Note) : List (TimerOperation × Acted × Option Timer) :=
  notes.filterMap operated?

/-- What can be seen of the exchange. -/
def observedIn (notes : List Note) : List Observation := notes.filterMap observation?

/-- The messages that the sink was given. -/
def handedIn (notes : List Note) : List Handed :=
  (observedIn notes).filterMap Observation.handed?

@[simp] theorem toldIn_append (notes more : List Note) :
    toldIn (notes ++ more) = toldIn notes ++ toldIn more :=
  List.filterMap_append

@[simp] theorem operatedIn_append (notes more : List Note) :
    operatedIn (notes ++ more) = operatedIn notes ++ operatedIn more :=
  List.filterMap_append

@[simp] theorem observedIn_append (notes more : List Note) :
    observedIn (notes ++ more) = observedIn notes ++ observedIn more :=
  List.filterMap_append

@[simp] theorem handedIn_append (notes more : List Note) :
    handedIn (notes ++ more) = handedIn notes ++ handedIn more := by
  rw [handedIn, observedIn_append, List.filterMap_append]
  rfl

@[simp] theorem observedIn_nil : observedIn [] = [] := rfl

@[simp] theorem toldIn_operated (operation : TimerOperation) (acted : Acted)
    (left : Option Timer) : toldIn [operated operation acted left] = [] := rfl

@[simp] theorem observedIn_operated (operation : TimerOperation) (acted : Acted)
    (left : Option Timer) : observedIn [operated operation acted left] = [] := rfl

@[simp] theorem toldIn_map_seen (seen : List Observation) : toldIn (seen.map Note.seen) = [] := by
  simp [toldIn, List.filterMap_map, told?, Function.comp_def]

@[simp] theorem operatedIn_map_seen (seen : List Observation) :
    operatedIn (seen.map Note.seen) = [] := by
  simp [operatedIn, List.filterMap_map, operated?, Function.comp_def]

@[simp] theorem handedIn_operated (operation : TimerOperation) (acted : Acted)
    (left : Option Timer) : handedIn [operated operation acted left] = [] := rfl

@[simp] theorem observedIn_map_seen (seen : List Observation) :
    observedIn (seen.map Note.seen) = seen := by
  simp [observedIn, List.filterMap_map, observation?, Function.comp_def]

@[simp] theorem handedIn_map_seen (seen : List Observation) :
    handedIn (seen.map Note.seen) = seen.filterMap Observation.handed? := by
  rw [handedIn, observedIn_map_seen]

end Note

namespace Timer

/-- What operations come to, each with the timer after it. -/
def history : Option Timer → List TimerOperation → List (TimerOperation × Acted × Option Timer)
  | _, [] => []
  | timer, operation :: rest =>
      let (next, acted, _) := operate timer operation
      (operation, acted, next) :: history next rest

end Timer

namespace Reporting

variable {σ τ : Type}

/-- A timer that was never started, before an exchange with an empty queue. -/
def begin (container : String) (check : Healthcheck) (capacity : Nat) (wait : Span) (state : σ) :
    Reporting σ :=
  ⟨some (.create container check), .begin capacity wait state⟩

/-- The timer tells the event of an operation, if there is one. What comes of it is not looked
at. -/
def tell (exchange : Exchange σ) : Option StatusEvent → Exchange σ × List Note
  | none => (exchange, [])
  | some event => ((exchange.tell event).1, [.told event (exchange.tell event).2])

def act (sink : Sink σ) (reporting : Reporting σ) : Happening → Reporting σ × List Note
  | .timer operation =>
      let (timer, acted, event) := Timer.operate reporting.timer operation
      let (exchange, notes) := tell reporting.exchange event
      (⟨timer, exchange⟩, notes ++ [.operated operation acted timer])
  | .elsewhere action =>
      let (exchange, seen) := reporting.exchange.act sink action
      ({ reporting with exchange }, seen.map .seen)

/-- Happenings one after the other, and everything that is known of them. -/
def run (sink : Sink σ) : Reporting σ → List Happening → Reporting σ × List Note
  | reporting, [] => (reporting, [])
  | reporting, happening :: rest =>
      let (next, notes) := reporting.act sink happening
      let (last, more) := run sink next rest
      (last, notes ++ more)

@[simp] theorem toldIn_tell (exchange : Exchange σ) (event : Option StatusEvent) :
    Note.toldIn (tell exchange event).2 = event.toList := by
  cases event <;> rfl

@[simp] theorem handedIn_tell (exchange : Exchange σ) (event : Option StatusEvent) :
    Note.handedIn (tell exchange event).2 = [] := by
  cases event <;> rfl

@[simp] theorem operatedIn_tell (exchange : Exchange σ) (event : Option StatusEvent) :
    Note.operatedIn (tell exchange event).2 = [] := by
  cases event <;> rfl

/-- Operations on the timer and steps of the writer, while nobody else uses the exchange. -/
def Alone (happenings : List Happening) : Prop :=
  ∀ action, .elsewhere action ∈ happenings → action = .write

/-- Nobody else uses the exchange in two parts when nobody does in either. -/
theorem Alone.append {happenings more : List Happening} (alone : Alone happenings)
    (later : Alone more) : Alone (happenings ++ more) := by
  intro action member
  rcases List.mem_append.mp member with now | after
  · exact alone action now
  · exact later action after

theorem Alone.tail {happening : Happening} {rest : List Happening}
    (alone : Alone (happening :: rest)) : Alone rest :=
  fun action member => alone action (List.mem_cons_of_mem _ member)

theorem Alone.timer (operation : TimerOperation) : Alone [.timer operation] := by
  simp [Alone]

/-- The writer's steps leave the exchange to the timer. -/
theorem Alone.writes (count : Nat) : Alone ((List.replicate count .write).map .elsewhere) := by
  intro action member
  simp at member
  exact member.2

/-- All that the timer told was accepted. -/
def Accepted (notes : List Note) : Prop :=
  ∀ event result, .told event result ∈ notes → result = .ok ()

/-- Everything was accepted in two parts when it was in each. -/
theorem Accepted.append {notes more : List Note} (accepted : Accepted notes)
    (later : Accepted more) : Accepted (notes ++ more) := by
  intro event result member
  rcases List.mem_append.mp member with now | after
  · exact accepted event result now
  · exact later event result after

theorem Accepted.mono {notes more : List Note} (accepted : Accepted more) (fewer : notes ⊆ more) :
    Accepted notes :=
  fun event result member => accepted event result (fewer member)

/-- Nothing was refused where nothing was told. -/
theorem accepted_of_toldIn {notes : List Note} (nothing : Note.toldIn notes = []) :
    Accepted notes := by
  intro event result member
  have told : event ∈ Note.toldIn notes := List.mem_filterMap.mpr ⟨_, member, rfl⟩
  rw [nothing] at told
  cases told

section Run

variable (sink : Sink σ) (reporting : Reporting σ)

theorem run_cons_fst (happening : Happening) (rest : List Happening) :
    (reporting.run sink (happening :: rest)).1 =
      ((reporting.act sink happening).1.run sink rest).1 := rfl

theorem run_cons_snd (happening : Happening) (rest : List Happening) :
    (reporting.run sink (happening :: rest)).2 =
      (reporting.act sink happening).2 ++ ((reporting.act sink happening).1.run sink rest).2 := rfl

variable {reporting} in
/-- What every happening keeps, of a timer that reports and of all that is known of it, is kept by a
whole run. -/
theorem run_induction (holds : Reporting σ → List Note → Prop)
    (act : ∀ reporting notes happening, holds reporting notes →
      holds (reporting.act sink happening).1 (notes ++ (reporting.act sink happening).2))
    {notes : List Note} (held : holds reporting notes) (happenings : List Happening) :
    holds (reporting.run sink happenings).1 (notes ++ (reporting.run sink happenings).2) := by
  induction happenings generalizing reporting notes with
  | nil =>
      rw [run, List.append_nil]
      exact held
  | cons happening rest ih =>
      rw [run_cons_fst, run_cons_snd, ← List.append_assoc]
      exact ih (act reporting notes happening held)

/-- Happenings in two parts lead where they lead together. -/
theorem run_append_fst (first second : List Happening) :
    (reporting.run sink (first ++ second)).1 =
      ((reporting.run sink first).1.run sink second).1 := by
  induction first generalizing reporting with
  | nil => rfl
  | cons happening rest ih => exact ih _

/-- The notes of happenings in two parts are those of each. -/
theorem run_append_snd (first second : List Happening) :
    (reporting.run sink (first ++ second)).2 =
      (reporting.run sink first).2 ++ ((reporting.run sink first).1.run sink second).2 := by
  induction first generalizing reporting with
  | nil => rfl
  | cons happening rest ih =>
      rw [List.cons_append, run_cons_snd, run_cons_snd, run_cons_fst, ih, List.append_assoc]

theorem timer_act_timer (operation : TimerOperation) :
    (reporting.act sink (.timer operation)).1.timer =
      (Timer.operate reporting.timer operation).1 := rfl

theorem exchange_act_timer (operation : TimerOperation) :
    (reporting.act sink (.timer operation)).1.exchange =
      (tell reporting.exchange (Timer.operate reporting.timer operation).2.2).1 := rfl

/-- What is known of an operation is what came of its event, and then the operation itself. -/
theorem notes_act_timer (operation : TimerOperation) :
    (reporting.act sink (.timer operation)).2 =
      (tell reporting.exchange (Timer.operate reporting.timer operation).2.2).2 ++
        [.operated operation (Timer.operate reporting.timer operation).2.1
          (Timer.operate reporting.timer operation).1] := rfl

theorem timer_act_elsewhere (action : ExchangeAction) :
    (reporting.act sink (.elsewhere action)).1.timer = reporting.timer := rfl

/-- The timer goes its way, whatever happens to the exchange. -/
theorem timer_run (happenings : List Happening) :
    (reporting.run sink happenings).1.timer =
      (Timer.operateAll reporting.timer (Happening.operationsIn happenings)).1 := by
  induction happenings generalizing reporting with
  | nil => rfl
  | cons happening rest ih =>
      rw [run_cons_fst, ih]
      cases happening with
      | timer operation => rw [timer_act_timer, Happening.operationsIn_timer, Timer.operateAll]
      | elsewhere action => rw [timer_act_elsewhere, Happening.operationsIn_elsewhere]

/-- The timer is that of the session which the operations lead to. -/
theorem exists_timer_run (container : String) (check : Healthcheck) (capacity : Nat) (wait : Span)
    (state : σ) (happenings : List Happening) :
    ∃ last, ((begin container check capacity wait state).run sink happenings).1.timer =
      (Session.after check.runnable (Happening.operationsIn happenings)).timer?
        container check last := by
  rw [timer_run]
  exact Session.exists_operateAll_timer? container check none .idle _

/-- What operations come to, and the timer after each, is what they do to the timer alone. -/
theorem operatedIn_run (happenings : List Happening) :
    Note.operatedIn (reporting.run sink happenings).2 =
      Timer.history reporting.timer (Happening.operationsIn happenings) := by
  induction happenings generalizing reporting with
  | nil => rfl
  | cons happening rest ih =>
      rw [run_cons_snd, Note.operatedIn_append, ih]
      cases happening with
      | timer operation =>
          rw [timer_act_timer, Happening.operationsIn_timer, Timer.history, notes_act_timer,
            Note.operatedIn_append, operatedIn_tell]
          rfl
      | elsewhere action =>
          rw [timer_act_elsewhere, Happening.operationsIn_elsewhere, act, Note.operatedIn_map_seen,
            List.nil_append]

variable {reporting}

/-- Whatever happens, the events of the exchange stay accounted for. -/
theorem conserved_act {capacity : Nat} {notes : List Note}
    (conserved : reporting.exchange.Conserved capacity (Note.observedIn notes))
    (happening : Happening) :
    (reporting.act sink happening).1.exchange.Conserved capacity
      (Note.observedIn (notes ++ (reporting.act sink happening).2)) := by
  rw [Note.observedIn_append]
  cases happening with
  | timer operation =>
      rw [exchange_act_timer, notes_act_timer, Note.observedIn_append, Note.observedIn_operated,
        List.append_nil]
      cases (Timer.operate reporting.timer operation).2.2 with
      | none =>
          rw [tell, Note.observedIn_nil, List.append_nil]
          exact conserved
      | some event => exact conserved.tell event
  | elsewhere action =>
      rw [act, Note.observedIn_map_seen]
      exact conserved.act action

/-- No report of the timer is lost, doubled or put out of order once it was accepted. -/
theorem conserved_run {capacity : Nat} {notes : List Note}
    (conserved : reporting.exchange.Conserved capacity (Note.observedIn notes))
    (happenings : List Happening) :
    (reporting.run sink happenings).1.exchange.Conserved capacity
      (Note.observedIn (notes ++ (reporting.run sink happenings).2)) := by
  apply run_induction sink fun reporting notes =>
    reporting.exchange.Conserved capacity (Note.observedIn notes)
  case act => exact fun _ _ happening conserved => conserved_act sink conserved happening
  case held => exact conserved

/-- Happenings elsewhere are a run of the exchange alone. -/
theorem run_elsewhere (reporting : Reporting σ) (actions : List ExchangeAction) :
    reporting.run sink (actions.map .elsewhere) =
      ({ reporting with exchange := (reporting.exchange.run sink actions).1 },
        (reporting.exchange.run sink actions).2.map .seen) := by
  induction actions generalizing reporting with
  | nil => rfl
  | cons action rest ih =>
      have step : (reporting.act sink (.elsewhere action)) =
          ({ reporting with exchange := (reporting.exchange.act sink action).1 },
            (reporting.exchange.act sink action).2.map .seen) := rfl
      rw [List.map_cons, run, step]
      dsimp only
      rw [ih, Exchange.run, List.map_append]

/-- A turn is one operation and a run of the writer. -/
theorem run_turn (reporting : Reporting σ) (operation : TimerOperation) (count : Nat) :
    reporting.run sink (.timer operation :: (List.replicate count .write).map .elsewhere) =
      (⟨(Timer.operate reporting.timer operation).1,
          ((reporting.act sink (.timer operation)).1.exchange.run sink
            (List.replicate count .write)).1⟩,
        (reporting.act sink (.timer operation)).2 ++
          ((reporting.act sink (.timer operation)).1.exchange.run sink
            (List.replicate count .write)).2.map .seen) := by
  apply Prod.ext
  · rw [run_cons_fst, run_elsewhere]
    rfl
  · rw [run_cons_snd, run_elsewhere]

end Run

/-- Whatever becomes of the reports, be it that they are handed over, wait, fail or find the
writer dead, two runs with the same operations on one timer agree in what each operation comes
to and in the whole timer after it. -/
theorem undisturbed (timer : Option Timer) (sink : Sink σ) (other : Sink τ)
    (exchange : Exchange σ) (second : Exchange τ) (here there : List Happening)
    (same : Happening.operationsIn here = Happening.operationsIn there) :
    Note.operatedIn (run sink ⟨timer, exchange⟩ here).2 =
        Note.operatedIn (run other ⟨timer, second⟩ there).2 ∧
      (run sink ⟨timer, exchange⟩ here).1.timer = (run other ⟨timer, second⟩ there).1.timer := by
  constructor
  · rw [operatedIn_run, operatedIn_run, same]
  · rw [timer_run, timer_run, same]

/-- A report that is accepted and handed over, and one that finds the writer dead. -/
theorem undisturbed_of_dead_writer :
    let check : Healthcheck := ⟨["true"], 30, 30, 0, 1, true⟩
    let operations : List TimerOperation :=
      [.start 0, .due, .finish 30 (.outcome (.completed 1)), .due,
        .stop 60 (.outcome (.completed 0))]
    let here : List Happening :=
      operations.flatMap fun operation => [.timer operation, .elsewhere .write, .elsewhere .write]
    let there : List Happening := operations.map .timer
    let dead : Exchange Unit := ⟨{ Delivery.begin 4 ⟨1000⟩ () with alive := false }, 1, .dead⟩
    Happening.operationsIn here = Happening.operationsIn there ∧
      Note.operatedIn (run Sink.accepting (begin "c1" check 4 ⟨1000⟩ ()) here).2 =
        Note.operatedIn (run Sink.crashing ⟨some (.create "c1" check), dead⟩ there).2 ∧
      Note.handedIn (run Sink.crashing ⟨some (.create "c1" check), dead⟩ there).2 = [] := by
  intro check operations here there dead
  have same : Happening.operationsIn here = Happening.operationsIn there := rfl
  exact ⟨same, (undisturbed (some (.create "c1" check)) Sink.accepting Sink.crashing
    (.begin 4 ⟨1000⟩ ()) dead here there same).1, rfl⟩

end Reporting

namespace Watch

variable {σ : Type} (sink : Sink σ)

/-- A watch is what shows of a timer and an exchange, when the writer has let go of the queue or
runs. -/
structure Shows (reporting : Reporting σ) (watch : Watch σ) : Prop where
  timer : reporting.timer = some watch.timer
  delivery : reporting.exchange.delivery = watch.delivery
  runs : reporting.exchange.delivery.alive = true → reporting.exchange.phase = .running

/-- Posting an event is telling it and letting the writer make some number of steps. -/
theorem exists_run_post (reporting : Reporting σ) (event : Option StatusEvent)
    (runs : reporting.exchange.delivery.alive = true → reporting.exchange.phase = .running) :
    ∃ count,
      let told := (Reporting.tell reporting.exchange event).1
      let written := told.run sink (List.replicate count .write)
      written.1.delivery = (reporting.exchange.delivery.post sink event).1 ∧
        written.2.filterMap Observation.handed? =
          (reporting.exchange.delivery.post sink event).2 ∧
        (written.1.delivery.alive = true → written.1.phase = .running) := by
  have posted : reporting.exchange.delivery.post sink event =
      (Reporting.tell reporting.exchange event).1.delivery.settle sink := by
    cases event with
    | none => rfl
    | some event =>
        rw [Delivery.post, Reporting.tell, Exchange.tell, Option.map_some]
        cases reporting.exchange.delivery.report event <;> rfl
  have still : (Reporting.tell reporting.exchange event).1.delivery.alive = true →
      (Reporting.tell reporting.exchange event).1.phase = .running := by
    cases event with
    | none => exact runs
    | some event =>
        obtain ⟨queue, told⟩ := reporting.exchange.tell_fst event
        rw [Reporting.tell, told]
        exact runs
  rw [posted, Delivery.settle]
  cases alive : (Reporting.tell reporting.exchange event).1.delivery.alive with
  | true =>
      obtain ⟨count, settled⟩ := Exchange.settles sink _ (still alive) alive
      exact ⟨count, settled⟩
  | false =>
      -- A writer that let go of the queue has nothing to settle, so no step is needed.
      rw [Exchange.settleUpTo_of_gone sink alive]
      exact ⟨0, rfl, rfl, still⟩

/-- Some happenings do to a timer and its exchange what an action came to on the watch. -/
structure Follows (reporting : Reporting σ) (happenings : List Happening)
    (result : Watch σ × Acted × List Handed) : Prop where
  alone : Reporting.Alone happenings
  shows : result.1.Shows (reporting.run sink happenings).1
  acted : ((Note.operatedIn (reporting.run sink happenings).2).head?.map fun entry => entry.2.1) =
    some result.2.1
  handed : Note.handedIn (reporting.run sink happenings).2 = result.2.2

variable {reporting : Reporting σ} {watch : Watch σ}

/-- An operation that tells nothing is followed by itself. -/
theorem Follows.of_silent (shows : watch.Shows reporting) (operation : TimerOperation)
    (acted : Acted) (timer : Timer)
    (operated : Timer.operate (some watch.timer) operation = (some timer, acted, none)) :
    Follows sink reporting [.timer operation] ({ watch with timer }, acted, []) := by
  rw [← shows.timer] at operated
  have step : reporting.run sink [.timer operation] =
      (⟨some timer, reporting.exchange⟩, [.operated operation acted (some timer)]) := by
    rw [Reporting.run, Reporting.act, operated]
    rfl
  constructor
  · exact .timer operation
  · rw [step]
    exact ⟨rfl, shows.delivery, shows.runs⟩
  · rw [step]
    rfl
  · rw [step]
    rfl

/-- An operation with an event is followed by itself and the steps that the writer needs to hand the
event over. -/
theorem exists_follows_post (shows : watch.Shows reporting) (operation : TimerOperation)
    (acted : Acted) (timer : Timer) (event : Option StatusEvent)
    (operated : Timer.operate (some watch.timer) operation = (some timer, acted, event)) :
    ∃ happenings, Follows sink reporting happenings
      ({ watch with timer, delivery := (watch.delivery.post sink event).1 }, acted,
        (watch.delivery.post sink event).2) := by
  obtain ⟨count, delivery, handed, runs⟩ := exists_run_post sink reporting event shows.runs
  rw [← shows.timer] at operated
  have step : reporting.act sink (.timer operation) =
      (⟨some timer, (Reporting.tell reporting.exchange event).1⟩,
        (Reporting.tell reporting.exchange event).2 ++
          [.operated operation acted (some timer)]) := by
    rw [Reporting.act, operated]
  refine ⟨.timer operation :: (List.replicate count .write).map .elsewhere, ?_, ?_, ?_, ?_⟩
  · exact (Reporting.Alone.timer operation).append (.writes count)
  · rw [Reporting.run_turn, step, operated]
    exact ⟨rfl, by rw [delivery, shows.delivery], runs⟩
  · rw [Reporting.run_turn, step, Note.operatedIn_append, Note.operatedIn_append,
      Reporting.operatedIn_tell]
    rfl
  · rw [Reporting.run_turn, step, Note.handedIn_append, Note.handedIn_append,
      Note.handedIn_map_seen, handed, shows.delivery, Reporting.handedIn_tell,
      Note.handedIn_operated]
    rfl

/-- A probe that is called afterwards is followed by one more happening. -/
theorem Follows.callProbe {happenings : List Happening} {acted : Acted} {handed : List Handed}
    (follows : Follows sink reporting happenings (watch, acted, handed)) :
    Follows sink reporting (happenings ++ [.timer .due]) (watch.callProbe, acted, handed) := by
  obtain ⟨alone, later, first, given⟩ := follows
  have due : Follows sink (reporting.run sink happenings).1 [.timer .due]
      ({ watch with timer := watch.timer.callProbe }, .done, []) :=
    .of_silent sink later .due .done watch.timer.callProbe rfl
  constructor
  · exact alone.append (.timer .due)
  · rw [Reporting.run_append_fst]
    exact ⟨due.shows.timer, due.shows.delivery, due.shows.runs⟩
  · rw [Reporting.run_append_snd, Note.operatedIn_append, List.head?_append, Option.map_or, first]
    rfl
  · rw [Reporting.run_append_snd, Note.handedIn_append, given, due.handed, List.append_nil]

/-- What happens to a watch is what happens to its timer and to the exchange behind it, with the
writer at work after the operation. -/
theorem exists_follows_act (shows : watch.Shows reporting) (action : TimerAction) :
    ∃ happenings, Follows sink reporting happenings (watch.act sink action) := by
  cases action with
  | start now due =>
      cases start : watch.timer.start now with
      | error fault =>
          rw [act, start]
          exact ⟨_, .of_silent sink shows (.start now) (.refused fault) watch.timer
            (by rw [Timer.operate, start])⟩
      | ok timer =>
          have started : Follows sink reporting [.timer (.start now)]
              ({ watch with timer }, .done, []) :=
            .of_silent sink shows (.start now) .done timer (by rw [Timer.operate, start])
          rw [act, start]
          cases due with
          | false => exact ⟨_, started⟩
          | true => exact ⟨_, started.callProbe sink⟩
  | tick now result =>
      rw [act]
      by_cases probing : watch.timer.probing = true
      · rw [if_pos probing]
        obtain ⟨happenings, finished⟩ := exists_follows_post sink shows
          (.finish now result) .done (watch.timer.finishProbe now result).1
          (watch.timer.finishProbe now result).2 (by rw [Timer.operate, if_pos probing])
        exact ⟨_, finished.callProbe sink⟩
      · rw [if_neg probing]
        exact ⟨_, .of_silent sink shows (.finish now result) .nothingInFlight watch.timer
          (by rw [Timer.operate, if_neg probing])⟩
  | stop now result =>
      exact exists_follows_post sink shows (.stop now result) .done
        (watch.timer.stop now result).1 (watch.timer.stop now result).2 rfl

/-- A whole history of a watch is one way in which the operations on its timer and the writer
take turns. -/
theorem exists_run (shows : watch.Shows reporting) (actions : List TimerAction) :
    ∃ happenings,
      Reporting.Alone happenings ∧
        Shows (reporting.run sink happenings).1
          (actions.foldl (fun current action => (current.act sink action).1) watch) ∧
        Note.handedIn (reporting.run sink happenings).2 =
          (watch.run sink actions).flatMap fun entry => entry.2.2 := by
  induction actions generalizing watch reporting with
  | nil => exact ⟨[], by simp [Reporting.Alone], shows, rfl⟩
  | cons action rest ih =>
      obtain ⟨first, now⟩ := exists_follows_act sink shows action
      obtain ⟨second, alone, last, handed⟩ := ih now.shows
      refine ⟨first ++ second, now.alone.append alone, ?_, ?_⟩
      · rw [Reporting.run_append_fst]
        exact last
      · rw [Reporting.run_append_snd, Note.handedIn_append, now.handed, handed, run,
          List.flatMap_cons]

end Watch

end HealthWatch
