import HealthWatch.Proofs.Report.Exchange

/-! # An exchange before a sink that takes everything

Such a sink never brings the writer down, so the writer of an exchange with a handle always runs
(`Exchange.Open`). A step of the writer hands over the message of an event, takes one from the
queue, or finds nothing to do, and after as many steps as are pending nothing is left
(`Exchange.open_run_write`).
-/

namespace HealthWatch

/-- A sink that takes every message. -/
def Sink.Accepts {σ : Type} (sink : Sink σ) : Prop :=
  ∀ state type payload, (sink.send state type payload).2 = .sent

/-- The message for an event, once the sink has taken it. -/
def StatusEvent.message (event : StatusEvent) : Handed := ⟨Frame.statusType, event.encode, .sent⟩

namespace Exchange

variable {σ : Type} {sink : Sink σ} {exchange : Exchange σ}

/-- The writer runs, and there is somebody who can report to it. -/
structure Open (exchange : Exchange σ) : Prop where
  running : exchange.phase = .running
  alive : exchange.delivery.alive = true
  handle : exchange.handles ≠ 0

theorem Open.begin (capacity : Nat) (wait : Span) (state : σ) :
    (begin capacity wait state : Exchange σ).Open :=
  ⟨rfl, rfl, Nat.one_ne_zero⟩

/-- A step of the writer leaves it running, uses up a pending step if there is one, and gives
the sink the message of an event or nothing. -/
theorem open_write (accepts : sink.Accepts) (opened : exchange.Open) :
    (exchange.write sink).1.Open ∧
      (exchange.write sink).1.pending = exchange.pending - 1 ∧
      (exchange.write sink).2.filterMap Observation.handed? =
        (Observation.deliveredIn (exchange.write sink).2).map StatusEvent.message := by
  obtain ⟨running, alive, handle⟩ := opened
  cases held : exchange.delivery.held with
  | some event =>
      have sent : (exchange.handed sink event).result = .sent := accepts _ _ _
      have still : (exchange.afterHandOver sink event).phase = .running := by
        rw [afterHandOver, sent]
        exact running
      rw [exchange.write_of_held sink event running alive held]
      refine ⟨⟨still, alive, handle⟩, ?_, ?_⟩
      · simp [pending, held, afterHandOver]
      · have message : exchange.handed sink event = event.message := by
          rw [StatusEvent.message, ← sent]
          rfl
        rw [Observation.deliveredIn_delivered, List.map_singleton, ← message]
        rfl
  | none =>
      cases queue : exchange.delivery.queue with
      | nil =>
          rw [exchange.write_of_waiting sink running held queue handle]
          refine ⟨⟨running, alive, handle⟩, ?_, rfl⟩
          simp [pending, held, queue]
      | cons event rest =>
          rw [exchange.write_of_queued sink event running alive held queue]
          refine ⟨⟨running, alive, handle⟩, ?_, rfl⟩
          simp [pending, held, queue]
          omega

/-- When the writer has nothing before it, nothing is queued or held. -/
theorem delivery_of_pending (cleared : exchange.pending = 0) :
    exchange.delivery.held = none ∧ exchange.delivery.queue = [] := by
  rw [pending, Nat.add_eq_zero_iff, List.length_eq_zero_iff, Option.toList_eq_nil_iff] at cleared
  exact ⟨cleared.2, List.length_eq_zero_iff.mp (by omega)⟩

/-- A sink that accepts everything takes one message for every two steps of the writer until nothing
is left. -/
theorem open_run_write (accepts : sink.Accepts) (opened : exchange.Open) (count : Nat) :
    (exchange.run sink (List.replicate count .write)).1.Open ∧
      (exchange.run sink (List.replicate count .write)).1.pending = exchange.pending - count ∧
      (exchange.run sink (List.replicate count .write)).2.filterMap Observation.handed? =
        (Observation.deliveredIn (exchange.run sink (List.replicate count .write)).2).map
          StatusEvent.message := by
  induction count generalizing exchange with
  | zero => exact ⟨opened, rfl, rfl⟩
  | succ count ih =>
      obtain ⟨stillOpen, fewer, handed⟩ := open_write accepts opened
      obtain ⟨lastOpen, left, later⟩ := ih stillOpen
      rw [List.replicate_succ, run, act]
      refine ⟨lastOpen, ?_, ?_⟩
      · dsimp only
        rw [left, fewer]
        omega
      · dsimp only
        rw [List.filterMap_append, Observation.deliveredIn_append, List.map_append, handed, later]

end Exchange

end HealthWatch
