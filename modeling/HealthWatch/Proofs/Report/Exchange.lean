import HealthWatch.Report.Delivery

/-! # Reports from many handles

An `Exchange` is a delivery in use: handles through which events are reported, the queue, and
the writer that hands one event after the other to the sink. Every action is one step that no
other step can interrupt, so a list of actions is one way in which the callers and the writer
take turns. A caller that waits for a place in the queue acts when it gets the place, or when
it gives up.

What was accepted is, at every moment, what was handed over, then the event that the writer
holds, then the queue (`Exchange.Conserved`).
-/

namespace HealthWatch

/-- How far the writer has come. -/
inductive WriterPhase
  | running
  /-- The sink brought the writer down, which still has to let go of the queue. -/
  | falling
  /-- The sink brought the writer down. -/
  | dead
  /-- The writer came to the end of the queue after every handle was gone. -/
  | ended
  deriving DecidableEq, Repr

/-- Something that happens to an exchange. -/
inductive ExchangeAction
  | report (event : StatusEvent)
  | copy
  | drop
  | write
  deriving DecidableEq, Repr

/-- What can be seen of an action. -/
inductive Observation
  | reported (event : StatusEvent) (result : Except Failure Unit)
  | delivered (event : StatusEvent) (handed : Handed)

namespace Observation

def accepted? : Observation → Option StatusEvent
  | reported event (.ok ()) => some event
  | _ => none

def delivered? : Observation → Option StatusEvent
  | delivered event _ => some event
  | _ => none

/-- The message that the sink was given. -/
def handed? : Observation → Option Handed
  | delivered _ handed => some handed
  | _ => none

/-- Whether the sink brought the writer down. -/
def crashed : Observation → Bool
  | delivered _ handed => handed.result = .crashed
  | _ => false

@[simp] theorem crashed_reported (event : StatusEvent) (result : Except Failure Unit) :
    (reported event result).crashed = false := rfl

@[simp] theorem crashed_delivered (event : StatusEvent) (handed : Handed) :
    (delivered event handed).crashed = decide (handed.result = .crashed) := rfl

/-- The accepted events, in the order of their acceptance. -/
def acceptedIn (seen : List Observation) : List StatusEvent := seen.filterMap accepted?

/-- The events that the sink was given, in order. -/
def deliveredIn (seen : List Observation) : List StatusEvent := seen.filterMap delivered?

@[simp] theorem acceptedIn_append (seen more : List Observation) :
    acceptedIn (seen ++ more) = acceptedIn seen ++ acceptedIn more :=
  List.filterMap_append

@[simp] theorem deliveredIn_append (seen more : List Observation) :
    deliveredIn (seen ++ more) = deliveredIn seen ++ deliveredIn more :=
  List.filterMap_append

@[simp] theorem acceptedIn_nil : acceptedIn [] = [] := rfl

@[simp] theorem deliveredIn_nil : deliveredIn [] = [] := rfl

@[simp] theorem acceptedIn_reported_ok (event : StatusEvent) :
    acceptedIn [reported event (.ok ())] = [event] := rfl

@[simp] theorem acceptedIn_reported_error (event : StatusEvent) (failure : Failure) :
    acceptedIn [reported event (.error failure)] = [] := rfl

@[simp] theorem acceptedIn_delivered (event : StatusEvent) (handed : Handed) :
    acceptedIn [delivered event handed] = [] := rfl

@[simp] theorem deliveredIn_reported (event : StatusEvent) (result : Except Failure Unit) :
    deliveredIn [reported event result] = [] := rfl

@[simp] theorem deliveredIn_delivered (event : StatusEvent) (handed : Handed) :
    deliveredIn [delivered event handed] = [event] := rfl

/-- An event is accepted by a report of it that was accepted. -/
theorem mem_acceptedIn {seen : List Observation} {event : StatusEvent} :
    event ∈ acceptedIn seen ↔ .reported event (.ok ()) ∈ seen := by
  rw [acceptedIn, List.mem_filterMap]
  constructor
  · rintro ⟨observation, member, accepted⟩
    cases observation with
    | reported other result =>
        cases result with
        | ok => cases accepted; exact member
        | error => cases accepted
    | delivered => cases accepted
  · exact fun member => ⟨_, member, rfl⟩

end Observation

/-- A delivery in use. -/
structure Exchange (σ : Type) where
  delivery : Delivery σ
  handles : Nat
  phase : WriterPhase

namespace Exchange

variable {σ : Type}

/-- An exchange with one handle and a queue without events. -/
def begin (capacity : Nat) (wait : Span) (state : σ) : Exchange σ :=
  ⟨.begin capacity wait state, 1, .running⟩

/-- The writer lets go of the queue, and what is in it is lost. -/
def release (exchange : Exchange σ) (phase : WriterPhase) : Exchange σ where
  delivery := { exchange.delivery with queue := [], alive := false }
  handles := exchange.handles
  phase := phase

/-- The writer hands over an event that it holds. A sink that crashes leaves the queue open
until the writer lets go of it. -/
def handOver (sink : Sink σ) (exchange : Exchange σ) (event : StatusEvent) :
    Exchange σ × List Observation :=
  match exchange.delivery.handOver sink with
  | (after, some handed) =>
      if handed.result = .crashed then
        ({ exchange with
            delivery := { after with queue := exchange.delivery.queue, alive := true }
            phase := .falling },
          [.delivered event handed])
      else ({ exchange with delivery := after }, [.delivered event handed])
  | (_, none) => (exchange, [])

/-- The writer goes one step: it hands over what it holds, takes the next event, or ends when
the queue is empty and no handle is left. -/
def write (sink : Sink σ) (exchange : Exchange σ) : Exchange σ × List Observation :=
  match exchange.phase, exchange.delivery.held with
  | .running, some event => exchange.handOver sink event
  | .running, none =>
      if exchange.delivery.queue = [] ∧ exchange.handles = 0 then (exchange.release .ended, [])
      else ({ exchange with delivery := exchange.delivery.take }, [])
  | .falling, _ => (exchange.release .dead, [])
  | _, _ => (exchange, [])

/-- Somebody reports an event, if there is a handle. -/
def report (exchange : Exchange σ) (event : StatusEvent) : Exchange σ × List Observation :=
  if exchange.handles = 0 then (exchange, [])
  else
    match exchange.delivery.report event with
    | .ok delivery => ({ exchange with delivery }, [.reported event (.ok ())])
    | .error failure => (exchange, [.reported event (.error failure)])

def act (sink : Sink σ) (exchange : Exchange σ) : ExchangeAction → Exchange σ × List Observation
  | .report event => exchange.report event
  | .copy =>
      if exchange.handles = 0 then (exchange, [])
      else ({ exchange with handles := exchange.handles + 1 }, [])
  | .drop => ({ exchange with handles := exchange.handles - 1 }, [])
  | .write => exchange.write sink

/-- Actions one after the other, and everything that can be seen of them. -/
def run (sink : Sink σ) : Exchange σ → List ExchangeAction → Exchange σ × List Observation
  | exchange, [] => (exchange, [])
  | exchange, action :: rest =>
      let (next, seen) := exchange.act sink action
      let (last, more) := run sink next rest
      (last, seen ++ more)

section Actions

variable (sink : Sink σ) (exchange : Exchange σ) (event : StatusEvent)

/-- What becomes of a message that the writer hands over. -/
def handed : Handed where
  type := Frame.statusType
  payload := event.encode
  result := (sink.send exchange.delivery.sink Frame.statusType event.encode).2

/-- The exchange after the writer handed over what it holds. -/
def afterHandOver : Exchange σ where
  delivery :=
    { exchange.delivery with
      sink := (sink.send exchange.delivery.sink Frame.statusType event.encode).1
      held := none }
  handles := exchange.handles
  phase := if (handed sink exchange event).result = .crashed then .falling else exchange.phase

/-- A writer that holds an event gives it to the sink, whatever becomes of it there. -/
theorem handOver_of_held (alive : exchange.delivery.alive = true)
    (held : exchange.delivery.held = some event) :
    exchange.handOver sink event =
      (exchange.afterHandOver sink event, [.delivered event (exchange.handed sink event)]) := by
  rw [handOver, Delivery.handOver, alive, held]
  dsimp only
  by_cases crashed :
      (sink.send exchange.delivery.sink Frame.statusType event.encode).2 = .crashed
  · simp only [crashed, ↓reduceIte, afterHandOver, handed, alive]
  · simp only [crashed, ↓reduceIte, afterHandOver, handed, alive]

/-- A writer that holds an event hands it over. -/
theorem write_of_held (running : exchange.phase = .running)
    (alive : exchange.delivery.alive = true) (held : exchange.delivery.held = some event) :
    exchange.write sink =
      (exchange.afterHandOver sink event, [.delivered event (exchange.handed sink event)]) := by
  rw [write, running, held]
  exact exchange.handOver_of_held sink event alive held

/-- A writer that holds nothing takes the next event from the queue. -/
theorem write_of_queued {rest : List StatusEvent} (running : exchange.phase = .running)
    (alive : exchange.delivery.alive = true) (held : exchange.delivery.held = none)
    (queue : exchange.delivery.queue = event :: rest) :
    exchange.write sink =
      ({ exchange with
          delivery := { exchange.delivery with queue := rest, held := some event } }, []) := by
  rw [write, running, held]
  dsimp only
  rw [if_neg (by rw [queue]; simp), Delivery.take, alive, held, queue]

/-- A writer that has nothing to do waits while there is a handle. -/
theorem write_of_waiting (running : exchange.phase = .running)
    (held : exchange.delivery.held = none) (queue : exchange.delivery.queue = [])
    (handle : exchange.handles ≠ 0) : exchange.write sink = (exchange, []) := by
  have taken : exchange.delivery.take = exchange.delivery := by
    rw [Delivery.take, held, queue]
    cases exchange.delivery.alive <;> rfl
  rw [write, running, held]
  dsimp only
  rw [if_neg fun done => handle done.2, taken, ← running]

/-- A writer that has nothing to do ends when no handle is left. -/
theorem write_of_over (running : exchange.phase = .running)
    (held : exchange.delivery.held = none) (queue : exchange.delivery.queue = [])
    (handle : exchange.handles = 0) :
    exchange.write sink = (exchange.release .ended, []) := by
  rw [write, running, held]
  dsimp only
  rw [if_pos ⟨queue, handle⟩]

theorem write_of_falling (falling : exchange.phase = .falling) :
    exchange.write sink = (exchange.release .dead, []) := by
  rw [write, falling]

/-- A writer that is gone does nothing. -/
theorem write_of_gone (gone : exchange.phase = .dead ∨ exchange.phase = .ended) :
    exchange.write sink = (exchange, []) := by
  rcases gone with dead | ended
  · rw [write, dead]
  · rw [write, ended]

/-- A report is accepted while the writer runs and the queue has room. -/
theorem report_of_room (handle : exchange.handles ≠ 0) (alive : exchange.delivery.alive = true)
    (room : exchange.delivery.queue.length < max exchange.delivery.capacity 1) :
    exchange.report event =
      ({ exchange with
          delivery := { exchange.delivery with queue := exchange.delivery.queue ++ [event] } },
        [.reported event (.ok ())]) := by
  have accepted : exchange.delivery.report event =
      .ok { exchange.delivery with queue := exchange.delivery.queue ++ [event] } := by
    rw [Delivery.report, if_neg (by simp [alive]), Delivery.places, if_pos room]
  rw [report, if_neg handle, accepted]

/-- A report is refused when there is no place in the queue. -/
theorem report_of_full (handle : exchange.handles ≠ 0) (alive : exchange.delivery.alive = true)
    (full : max exchange.delivery.capacity 1 ≤ exchange.delivery.queue.length) :
    exchange.report event =
      (exchange, [.reported event (.error (.reportRefused exchange.delivery.wait))]) := by
  have refused : exchange.delivery.report event =
      .error (.reportRefused exchange.delivery.wait) := by
    rw [Delivery.report, if_neg (by simp [alive]), Delivery.places,
      if_neg (Nat.not_lt.mpr full)]
  rw [report, if_neg handle, refused]

/-- Without a writer a report is refused because the channel is closed. -/
theorem report_of_gone (handle : exchange.handles ≠ 0)
    (gone : exchange.delivery.alive = false) :
    exchange.report event = (exchange, [.reported event (.error .channelClosed)]) := by
  have closed : exchange.delivery.report event = .error .channelClosed := by
    rw [Delivery.report, if_pos (by simp [gone])]
  rw [report, if_neg handle, closed]

end Actions

section Stopped

variable (sink : Sink σ) {exchange : Exchange σ}

/-- A writer that does not run never runs again and hands nothing over. -/
theorem act_of_stopped (stopped : exchange.phase ≠ .running) (action : ExchangeAction) :
    (exchange.act sink action).1.phase ≠ .running ∧
      Observation.deliveredIn (exchange.act sink action).2 = [] := by
  cases action with
  | report event =>
      rw [act, report]
      split
      · exact ⟨stopped, rfl⟩
      · cases exchange.delivery.report event <;> exact ⟨stopped, rfl⟩
  | copy =>
      rw [act]
      split <;> exact ⟨stopped, rfl⟩
  | drop => exact ⟨stopped, rfl⟩
  | write =>
      rw [act]
      cases phase : exchange.phase with
      | running => exact absurd phase stopped
      | falling =>
          rw [exchange.write_of_falling sink phase]
          exact ⟨by simp [release], rfl⟩
      | dead =>
          rw [exchange.write_of_gone sink (.inl phase)]
          exact ⟨stopped, rfl⟩
      | ended =>
          rw [exchange.write_of_gone sink (.inr phase)]
          exact ⟨stopped, rfl⟩

/-- A writer that has stopped delivers nothing more. -/
theorem run_of_stopped (stopped : exchange.phase ≠ .running) (actions : List ExchangeAction) :
    Observation.deliveredIn (exchange.run sink actions).2 = [] := by
  induction actions generalizing exchange with
  | nil => rfl
  | cons action rest ih =>
      obtain ⟨still, silent⟩ := exchange.act_of_stopped sink stopped action
      rw [run, Observation.deliveredIn_append, silent, ih still]
      rfl

/-- A writer that is dead stays dead, and every report fails. -/
theorem act_of_dead (dead : exchange.phase = .dead) (gone : exchange.delivery.alive = false)
    (action : ExchangeAction) :
    ((exchange.act sink action).1.phase = .dead ∧
        (exchange.act sink action).1.delivery.alive = false) ∧
      ∀ observation ∈ (exchange.act sink action).2,
        ∃ event, observation = .reported event (.error .channelClosed) := by
  cases action with
  | report event =>
      rw [act]
      by_cases handle : exchange.handles = 0
      · rw [report, if_pos handle]
        exact ⟨⟨dead, gone⟩, by simp⟩
      · rw [exchange.report_of_gone event handle gone]
        exact ⟨⟨dead, gone⟩, by simp⟩
  | copy =>
      rw [act]
      split <;> exact ⟨⟨dead, gone⟩, by simp⟩
  | drop => exact ⟨⟨dead, gone⟩, by simp [act]⟩
  | write =>
      rw [act, exchange.write_of_gone sink (.inl dead)]
      exact ⟨⟨dead, gone⟩, by simp⟩

/-- After a crash every report is refused, and nothing else is seen. -/
theorem run_of_dead (dead : exchange.phase = .dead) (gone : exchange.delivery.alive = false)
    (actions : List ExchangeAction) :
    ∀ observation ∈ (exchange.run sink actions).2,
      ∃ event, observation = .reported event (.error .channelClosed) := by
  induction actions generalizing exchange with
  | nil => simp [run]
  | cons action rest ih =>
      obtain ⟨⟨stillDead, stillGone⟩, refused⟩ := exchange.act_of_dead sink dead gone action
      intro observation member
      rw [run] at member
      rcases List.mem_append.mp member with now | later
      · exact refused observation now
      · exact ih stillDead stillGone observation later

end Stopped

section Drain

variable (sink : Sink σ) {exchange : Exchange σ}

/-- The steps that the writer has before it until it has handed over everything. -/
def pending (exchange : Exchange σ) : Nat :=
  2 * exchange.delivery.queue.length + exchange.delivery.held.toList.length

/-- A writer that has ended makes no more steps. -/
theorem run_write_of_ended (ended : exchange.phase = .ended) (count : Nat) :
    exchange.run sink (List.replicate count .write) = (exchange, []) := by
  induction count with
  | zero => rfl
  | succ count ih =>
      rw [List.replicate_succ, run, act, exchange.write_of_gone sink (.inr ended)]
      dsimp only
      rw [ih]
      rfl

/-- The writer accepts nothing. -/
theorem acceptedIn_write : Observation.acceptedIn (exchange.write sink).2 = [] := by
  rw [write]
  split
  · rw [handOver]
    split
    · split <;> rfl
    · rfl
  · split <;> rfl
  · rfl
  · rfl

/-- However many steps it makes, the writer accepts nothing. -/
theorem acceptedIn_run_write (count : Nat) :
    Observation.acceptedIn (exchange.run sink (List.replicate count .write)).2 = [] := by
  induction count generalizing exchange with
  | zero => rfl
  | succ count ih =>
      rw [List.replicate_succ, run, Observation.acceptedIn_append, ih, List.append_nil]
      exact acceptedIn_write sink

/-- Once no handle is left the writer goes through the whole queue and ends, unless the sink
brings it down. -/
theorem run_write_of_abandoned (handles : exchange.handles = 0)
    (running : exchange.phase = .running) (alive : exchange.delivery.alive = true) (count : Nat)
    (enough : exchange.pending < count) :
    (∃ observation ∈ (exchange.run sink (List.replicate count .write)).2,
        observation.crashed = true) ∨
      (exchange.run sink (List.replicate count .write)).1.phase = .ended := by
  induction count generalizing exchange with
  | zero => exact absurd enough (Nat.not_lt_zero _)
  | succ count ih =>
      rw [List.replicate_succ, run, act]
      cases held : exchange.delivery.held with
      | some event =>
          rw [exchange.write_of_held sink event running alive held]
          dsimp only
          by_cases crashed : (exchange.handed sink event).result = .crashed
          · exact .inl ⟨_, List.mem_append_left _ (List.mem_singleton_self _), by simp [crashed]⟩
          · have still : (exchange.afterHandOver sink event).phase = .running := by
              rw [afterHandOver, if_neg crashed, running]
            have fewer : (exchange.afterHandOver sink event).pending < count := by
              simp only [pending, held, afterHandOver, Option.toList_some, Option.toList_none,
                List.length_singleton, List.length_nil] at enough ⊢
              omega
            have abandoned : (exchange.afterHandOver sink event).handles = 0 := handles
            rcases ih abandoned still alive fewer with ⟨observation, member, crash⟩ | ended
            · exact .inl ⟨observation, List.mem_append_right _ member, crash⟩
            · exact .inr ended
      | none =>
          cases queue : exchange.delivery.queue with
          | nil =>
              rw [exchange.write_of_over sink running held queue handles]
              dsimp only
              rw [run_write_of_ended sink rfl]
              exact .inr rfl
          | cons event rest =>
              rw [exchange.write_of_queued sink event running alive held queue]
              refine ih handles running alive ?_
              simp only [pending, held, queue, Option.toList_some, Option.toList_none,
                List.length_nil, List.length_cons] at enough ⊢
              omega

end Drain

section Settle

variable (sink : Sink σ) {exchange : Exchange σ}

/-- A delivery whose writer is gone has nothing to settle. -/
theorem settleUpTo_of_gone {delivery : Delivery σ} (gone : delivery.alive = false) (fuel : Nat) :
    delivery.settleUpTo sink fuel = (delivery, []) := by
  have taken : delivery.take = delivery := by
    rw [Delivery.take, gone]
  cases fuel with
  | zero => rfl
  | succ fuel =>
      rw [Delivery.settleUpTo, taken]
      dsimp only
      rw [Delivery.handOver, gone]
      split <;> rfl

/-- What a delivery comes to when its writer hands over an event. -/
theorem delivery_handOver_of_held {event : StatusEvent}
    (alive : exchange.delivery.alive = true) (held : exchange.delivery.held = some event) :
    exchange.delivery.handOver sink =
      ((if (exchange.handed sink event).result = .crashed then
          ((exchange.afterHandOver sink event).release .dead).delivery
        else (exchange.afterHandOver sink event).delivery),
        some (exchange.handed sink event)) := by
  rw [Delivery.handOver, alive, held]
  dsimp only [handed, afterHandOver, release]
  by_cases crashed :
      (sink.send exchange.delivery.sink Frame.statusType event.encode).2 = .crashed
  · simp only [crashed, ↓reduceIte]
  · simp only [crashed, ↓reduceIte, alive]

/-- Some number of steps of the writer does what settling the delivery does, and leaves no
writer that has yet to let go of the queue. -/
def Settles (fuel : Nat) (exchange : Exchange σ) : Prop :=
  ∃ count,
    (exchange.run sink (List.replicate count .write)).1.delivery =
        (exchange.delivery.settleUpTo sink fuel).1 ∧
      (exchange.run sink (List.replicate count .write)).2.filterMap Observation.handed? =
        (exchange.delivery.settleUpTo sink fuel).2 ∧
      ((exchange.run sink (List.replicate count .write)).1.delivery.alive = true →
        (exchange.run sink (List.replicate count .write)).1.phase = .running)

/-- Handing over what is held settles one event more, if what comes after it settles. -/
theorem settles_of_held {fuel : Nat} {event : StatusEvent}
    (later : ∀ next : Exchange σ, next.phase = .running → next.delivery.alive = true →
      Settles sink fuel next)
    (running : exchange.phase = .running) (alive : exchange.delivery.alive = true)
    (held : exchange.delivery.held = some event) : Settles sink (fuel + 1) exchange := by
  have taken : exchange.delivery.take = exchange.delivery := by
    rw [Delivery.take, alive, held]
  cases ready : sink.ready exchange.delivery.sink with
  | false =>
      refine ⟨0, ?_⟩
      rw [Delivery.settleUpTo, taken]
      dsimp only
      rw [ready]
      exact ⟨rfl, rfl, fun _ => running⟩
  | true =>
      have settled : exchange.delivery.settleUpTo sink (fuel + 1) =
          (((exchange.delivery.handOver sink).1.settleUpTo sink fuel).1,
            exchange.handed sink event ::
              ((exchange.delivery.handOver sink).1.settleUpTo sink fuel).2) := by
        rw [Delivery.settleUpTo, taken]
        dsimp only
        rw [ready, delivery_handOver_of_held sink alive held]
        rfl
      rw [Settles, settled, delivery_handOver_of_held sink alive held]
      by_cases crashed : (exchange.handed sink event).result = .crashed
      · have falling : (exchange.afterHandOver sink event).phase = .falling := by
          rw [afterHandOver, if_pos crashed]
        refine ⟨2, ?_⟩
        dsimp only
        rw [if_pos crashed, settleUpTo_of_gone sink rfl, List.replicate_succ, run, act,
          exchange.write_of_held sink event running alive held]
        dsimp only
        rw [List.replicate_one, run, act, write_of_falling sink _ falling]
        exact ⟨rfl, rfl, fun alive => by cases alive⟩
      · have still : (exchange.afterHandOver sink event).phase = .running := by
          rw [afterHandOver, if_neg crashed, running]
        obtain ⟨count, delivery, handed, runs⟩ :=
          later (exchange.afterHandOver sink event) still alive
        refine ⟨count + 1, ?_⟩
        dsimp only
        rw [if_neg crashed, List.replicate_succ, run, act,
          exchange.write_of_held sink event running alive held]
        dsimp only
        rw [List.filterMap_append, handed]
        exact ⟨delivery, rfl, runs⟩

/-- Letting the writer of a delivery go on, as far as the sink is ready, is one way in which it
makes its steps. -/
theorem settles (fuel : Nat) (running : exchange.phase = .running)
    (alive : exchange.delivery.alive = true) : Settles sink fuel exchange := by
  induction fuel generalizing exchange with
  | zero => exact ⟨0, rfl, rfl, fun _ => running⟩
  | succ fuel ih =>
      cases held : exchange.delivery.held with
      | some event => exact settles_of_held sink (fun next => ih) running alive held
      | none =>
          cases queue : exchange.delivery.queue with
          | nil =>
              have taken : exchange.delivery.take = exchange.delivery := by
                rw [Delivery.take, alive, held, queue]
              refine ⟨0, ?_⟩
              rw [Delivery.settleUpTo, taken]
              dsimp only
              rw [Delivery.handOver, alive, held]
              split <;> exact ⟨rfl, rfl, fun _ => running⟩
          | cons event rest =>
              let next : Exchange σ :=
                { exchange with
                  delivery := { exchange.delivery with queue := rest, held := some event } }
              have taking : exchange.write sink = (next, []) :=
                exchange.write_of_queued sink event running alive held queue
              have taken : exchange.delivery.take = next.delivery := by
                rw [Delivery.take, alive, held, queue]
                simp only [next, alive]
              have same : next.delivery.take = next.delivery := by
                rw [Delivery.take]
                simp only [next, alive]
              have settled : exchange.delivery.settleUpTo sink (fuel + 1) =
                  next.delivery.settleUpTo sink (fuel + 1) := by
                rw [Delivery.settleUpTo, Delivery.settleUpTo, taken, same]
              have settles : Settles sink (fuel + 1) next :=
                settles_of_held sink (fun later => ih) running alive rfl
              obtain ⟨count, same⟩ := settles
              refine ⟨count + 1, ?_⟩
              rw [settled, List.replicate_succ, run, act, taking]
              exact same

end Settle

end Exchange

end HealthWatch
