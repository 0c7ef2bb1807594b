import HealthWatch.Failure
import HealthWatch.Report.Event
import HealthWatch.Report.Sink

/-! # Delivery of status events

Timers put events into a queue of bounded length; one writer takes them out in order and
hands each to the sink. The writer holds at most one event that it has taken and not handed
over. An event that the sink refuses is lost and the writer goes on; a sink that crashes
brings the writer down, and then nothing can be reported any more.
-/

namespace HealthWatch

/-- A message that was handed to the sink, and what became of it. -/
structure Handed where
  type : Int
  payload : String
  result : Sending
  deriving DecidableEq, Repr

/-- The queue of events and its writer, before a sink in state `σ`. -/
structure Delivery (σ : Type) where
  /-- The places in the queue that were asked for. -/
  capacity : Nat
  /-- How long an event may wait for a place. -/
  wait : Span
  queue : List StatusEvent
  /-- The event that the writer has taken and not handed over. -/
  held : Option StatusEvent
  /-- Whether the writer still runs. -/
  alive : Bool
  sink : σ

namespace Delivery

variable {σ : Type}

/-- A queue without events, and its writer. -/
def begin (capacity : Nat) (wait : Span) (sink : σ) : Delivery σ :=
  ⟨capacity, wait, [], none, true, sink⟩

/-- The places in the queue: at least one. -/
def places (delivery : Delivery σ) : Nat := max delivery.capacity 1

/-- Puts an event into the queue. It is refused when the queue stays full, or when the writer
is gone. -/
def report (delivery : Delivery σ) (event : StatusEvent) : Except Failure (Delivery σ) :=
  if !delivery.alive then .error .channelClosed
  else if delivery.queue.length < delivery.places then
    .ok { delivery with queue := delivery.queue ++ [event] }
  else .error (.reportRefused delivery.wait)

/-- The writer takes the first event of the queue, if it holds none. -/
def take (delivery : Delivery σ) : Delivery σ :=
  match delivery.alive, delivery.held, delivery.queue with
  | true, none, event :: rest => { delivery with queue := rest, held := some event }
  | _, _, _ => delivery

/-- The writer hands over the event that it holds. -/
def handOver (sink : Sink σ) (delivery : Delivery σ) : Delivery σ × Option Handed :=
  match delivery.alive, delivery.held with
  | true, some event =>
      let payload := event.encode
      let (state, result) := sink.send delivery.sink Frame.statusType payload
      let after :=
        if result = .crashed then
          { delivery with sink := state, held := none, queue := [], alive := false }
        else { delivery with sink := state, held := none }
      (after, some ⟨Frame.statusType, payload, result⟩)
  | _, _ => (delivery, none)

/-- The writer goes on until it has nothing to hand over or the sink is not ready. `fuel`
bounds the number of messages handed over. -/
def settleUpTo (sink : Sink σ) : Nat → Delivery σ → Delivery σ × List Handed
  | 0, delivery => (delivery, [])
  | fuel + 1, delivery =>
      let delivery := delivery.take
      if sink.ready delivery.sink then
        match delivery.handOver sink with
        | (delivery, some handed) =>
            let (delivery, more) := settleUpTo sink fuel delivery
            (delivery, handed :: more)
        | (delivery, none) => (delivery, [])
      else (delivery, [])

/-- The writer goes on until it has nothing to hand over or the sink is not ready. -/
def settle (sink : Sink σ) (delivery : Delivery σ) : Delivery σ × List Handed :=
  delivery.settleUpTo sink (delivery.queue.length + 2)

/-- Reports an event, if there is one, and lets the writer go on. An event that is refused is
lost. -/
def post (sink : Sink σ) (delivery : Delivery σ) (event : Option StatusEvent) :
    Delivery σ × List Handed :=
  match event.map delivery.report with
  | some (.ok delivery) => delivery.settle sink
  | _ => delivery.settle sink

end Delivery

end HealthWatch
