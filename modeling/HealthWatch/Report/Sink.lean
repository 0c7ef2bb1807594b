import HealthWatch.IoFault
import HealthWatch.Report.Frame

/-! # Sinks

A sink takes messages one after the other. Each is taken, refused with a fault, or brings
down the writer that hands it over. A sink may also hold a message back until it is ready.
-/

namespace HealthWatch

/-- What became of one message. -/
inductive Sending
  | sent
  | failed (fault : IoFault)
  /-- The sink brought down whoever handed the message over. -/
  | crashed
  deriving DecidableEq, Repr

/-- A destination of messages whose own state is a `σ`. -/
structure Sink (σ : Type) where
  /-- Whether the next message goes through without waiting. -/
  ready : σ → Bool
  /-- Takes a message of a type. -/
  send : σ → Int → String → σ × Sending

namespace Sink

/-- The sink that takes every message and does nothing with it. -/
def accepting : Sink Unit := ⟨fun _ => true, fun _ _ _ => ((), .sent)⟩

/-- The sink that refuses every message. -/
def refusing (fault : IoFault) : Sink Unit := ⟨fun _ => true, fun _ _ _ => ((), .failed fault)⟩

/-- The sink that brings down the writer with the first message. -/
def crashing : Sink Unit := ⟨fun _ => true, fun _ _ _ => ((), .crashed)⟩

/-- The sink that lets as many messages through as its state says, or all of them once its
state is nothing. -/
def gated : Sink (Option Nat) where
  ready permits := permits != some 0
  send permits _ _ := (permits.map (· - 1), .sent)

/-- The sink that appends the line of every message to a text. -/
def lines : Sink String where
  ready _ := true
  send written type payload := (written ++ Frame.encode type payload, .sent)

end Sink

end HealthWatch
