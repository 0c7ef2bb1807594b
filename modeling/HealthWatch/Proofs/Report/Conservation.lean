import HealthWatch.Proofs.Report.Exchange

/-! # Conservation of reports

What was accepted is, at every moment, what was handed over, then the event that the writer
holds, then the queue. `Exchange.Conserved` says so of one exchange and every action keeps it,
so an exchange that began with an empty queue keeps its promises whatever its callers, its
writer and its sink do.
-/

namespace HealthWatch.Exchange

variable {σ : Type}

/-- What holds of an exchange after everything that was seen of it. -/
structure Conserved (capacity : Nat) (exchange : Exchange σ) (seen : List Observation) : Prop where
  /-- While the writer lives, what was accepted and not handed over is held or in the queue. -/
  kept : exchange.delivery.alive = true →
    Observation.acceptedIn seen =
      Observation.deliveredIn seen ++ exchange.delivery.held.toList ++ exchange.delivery.queue
  ordered : Observation.deliveredIn seen <+: Observation.acceptedIn seen
  places : exchange.delivery.capacity = capacity
  fits : exchange.delivery.queue.length ≤ max capacity 1
  alive : exchange.delivery.alive = true ↔
    exchange.phase = .running ∨ exchange.phase = .falling
  idle : exchange.phase ≠ .running → exchange.delivery.held = none
  crashed : (∃ observation ∈ seen, observation.crashed = true) ↔
    exchange.phase = .falling ∨ exchange.phase = .dead
  ended : exchange.phase = .ended →
    exchange.handles = 0 ∧ Observation.deliveredIn seen = Observation.acceptedIn seen
  /-- The sink is given the text of each event. -/
  written : ∀ event handed, .delivered event handed ∈ seen →
    handed.type = Frame.statusType ∧ handed.payload = event.encode

namespace Conserved

variable {capacity : Nat} {sink : Sink σ} {exchange : Exchange σ} {seen : List Observation}

/-- Nothing is lost at the beginning. -/
theorem begin (capacity : Nat) (wait : Span) (state : σ) :
    Conserved capacity (.begin capacity wait state : Exchange σ) [] where
  kept _ := rfl
  ordered := List.nil_prefix
  places := rfl
  fits := Nat.zero_le _
  alive := by simp [Exchange.begin, Delivery.begin]
  idle stopped := absurd rfl stopped
  crashed := by simp [Exchange.begin]
  ended ended := by cases ended
  written := by simp

/-- What a caller sees without effect on the exchange is no part of what is conserved. -/
theorem refuse (conserved : Conserved capacity exchange seen) (event : StatusEvent)
    (failure : Failure) :
    Conserved capacity exchange (seen ++ [.reported event (.error failure)]) where
  kept alive := by simpa using conserved.kept alive
  ordered := by simpa using conserved.ordered
  places := conserved.places
  fits := conserved.fits
  alive := conserved.alive
  idle := conserved.idle
  crashed := by
    rw [← conserved.crashed]
    simp [Observation.crashed]
  ended ended := by simpa using conserved.ended ended
  written delivered := by simpa using conserved.written delivered

/-- An accepted report is the last of the queue and of the accepted events. -/
theorem accept (conserved : Conserved capacity exchange seen) (event : StatusEvent)
    (alive : exchange.delivery.alive = true)
    (room : exchange.delivery.queue.length < max exchange.delivery.capacity 1) :
    Conserved capacity
      { exchange with
        delivery := { exchange.delivery with queue := exchange.delivery.queue ++ [event] } }
      (seen ++ [.reported event (.ok ())]) where
  kept alive := by simp [conserved.kept alive]
  ordered := by
    rw [Observation.deliveredIn_append, Observation.acceptedIn_append,
      Observation.deliveredIn_reported, List.append_nil]
    exact conserved.ordered.trans (List.prefix_append _ _)
  places := conserved.places
  fits := by
    rw [conserved.places] at room
    rw [List.length_append]
    exact room
  alive := conserved.alive
  idle := conserved.idle
  crashed := by
    rw [← conserved.crashed]
    simp [Observation.crashed]
  ended ended := by
    rcases conserved.alive.mp alive with running | falling
    · cases running.symm.trans ended
    · cases falling.symm.trans ended
  written delivered := by simpa using conserved.written delivered

/-- A report that is accepted is kept, and one that is refused is not. -/
theorem report (conserved : Conserved capacity exchange seen) (event : StatusEvent) :
    Conserved capacity (exchange.report event).1 (seen ++ (exchange.report event).2) := by
  by_cases handle : exchange.handles = 0
  · rw [Exchange.report, if_pos handle]
    simpa using conserved
  cases alive : exchange.delivery.alive with
  | false =>
      rw [exchange.report_of_gone event handle alive]
      exact conserved.refuse event _
  | true =>
      rcases Nat.lt_or_ge exchange.delivery.queue.length (max exchange.delivery.capacity 1) with
        room | full
      · rw [exchange.report_of_room event handle alive room]
        exact conserved.accept event alive room
      · rw [exchange.report_of_full event handle alive full]
        exact conserved.refuse event _

/-- What is handed over is the first of what was accepted and not yet handed over. -/
theorem handOver (conserved : Conserved capacity exchange seen) (event : StatusEvent)
    (running : exchange.phase = .running) (held : exchange.delivery.held = some event) :
    Conserved capacity (exchange.afterHandOver sink event)
      (seen ++ [.delivered event (exchange.handed sink event)]) := by
  have alive := conserved.alive.mpr (.inl running)
  have kept := conserved.kept alive
  rw [held, Option.toList_some] at kept
  have clear : ¬ ∃ observation ∈ seen, observation.crashed = true := by
    rw [conserved.crashed, running]
    simp
  have phase : (exchange.afterHandOver sink event).phase =
      if (exchange.handed sink event).result = .crashed then .falling else .running := by
    rw [afterHandOver, running]
  have crash : (∃ observation ∈ seen ++ [.delivered event (exchange.handed sink event)],
      observation.crashed = true) ↔ (exchange.handed sink event).result = .crashed := by
    simp only [List.mem_append, List.mem_singleton, or_and_right, exists_or, clear, false_or,
      exists_eq_left, Observation.crashed_delivered, decide_eq_true_eq]
  constructor
  case kept =>
    intro _
    simp [kept, afterHandOver]
  case ordered =>
    rw [Observation.deliveredIn_append, Observation.acceptedIn_append,
      Observation.deliveredIn_delivered, Observation.acceptedIn_delivered, List.append_nil, kept]
    exact List.prefix_append _ _
  case places => exact conserved.places
  case fits => exact conserved.fits
  case alive =>
    rw [phase]
    refine iff_of_true alive ?_
    split
    · exact .inr rfl
    · exact .inl rfl
  case idle => exact fun _ => rfl
  case crashed =>
    rw [crash, phase]
    split <;> simp_all
  case ended =>
    rw [phase]
    intro ended
    split at ended <;> cases ended
  case written =>
    intro delivered message member
    rcases List.mem_append.mp member with earlier | last
    · exact conserved.written delivered message earlier
    · cases List.mem_singleton.mp last
      exact ⟨rfl, rfl⟩

/-- The writer holds what it takes from the queue. -/
theorem take (conserved : Conserved capacity exchange seen) {event : StatusEvent}
    {rest : List StatusEvent} (running : exchange.phase = .running)
    (held : exchange.delivery.held = none) (queue : exchange.delivery.queue = event :: rest) :
    Conserved capacity
      { exchange with
        delivery := { exchange.delivery with queue := rest, held := some event } } seen where
  kept alive := by simpa [held, queue] using conserved.kept alive
  ordered := conserved.ordered
  places := conserved.places
  fits := by
    have fits := conserved.fits
    rw [queue] at fits
    exact Nat.le_trans (Nat.le_succ _) fits
  alive := conserved.alive
  idle stopped := absurd running stopped
  crashed := conserved.crashed
  ended ended := by cases running.symm.trans ended
  written := conserved.written

/-- A writer that nobody can report to any more ends with nothing left to hand over. -/
theorem finish (conserved : Conserved capacity exchange seen) (running : exchange.phase = .running)
    (held : exchange.delivery.held = none) (queue : exchange.delivery.queue = [])
    (handles : exchange.handles = 0) : Conserved capacity (exchange.release .ended) seen where
  kept alive := by cases alive
  ordered := conserved.ordered
  places := conserved.places
  fits := Nat.zero_le _
  alive := by simp [release]
  idle _ := held
  crashed := by
    rw [conserved.crashed, running]
    simp [release]
  ended _ := by
    have kept := conserved.kept (conserved.alive.mpr (.inl running))
    rw [held, queue] at kept
    exact ⟨handles, by simpa using kept.symm⟩
  written := conserved.written

/-- A writer that the sink brought down loses the queue. -/
theorem die (conserved : Conserved capacity exchange seen) (falling : exchange.phase = .falling) :
    Conserved capacity (exchange.release .dead) seen where
  kept alive := by cases alive
  ordered := conserved.ordered
  places := conserved.places
  fits := Nat.zero_le _
  alive := by simp [release]
  idle _ := conserved.idle (by simp [falling])
  crashed := by
    rw [conserved.crashed, falling]
    simp [release]
  ended ended := by cases ended
  written := conserved.written

/-- A step of the writer loses nothing unless the sink crashes. -/
theorem write (conserved : Conserved capacity exchange seen) :
    Conserved capacity (exchange.write sink).1 (seen ++ (exchange.write sink).2) := by
  cases phase : exchange.phase with
  | running =>
      have alive := conserved.alive.mpr (.inl phase)
      cases held : exchange.delivery.held with
      | some event =>
          rw [exchange.write_of_held sink event phase alive held]
          exact conserved.handOver event phase held
      | none =>
          cases queue : exchange.delivery.queue with
          | nil =>
              by_cases handle : exchange.handles = 0
              · rw [exchange.write_of_over sink phase held queue handle, List.append_nil]
                exact conserved.finish phase held queue handle
              · rw [exchange.write_of_waiting sink phase held queue handle, List.append_nil]
                exact conserved
          | cons event rest =>
              rw [exchange.write_of_queued sink event phase alive held queue, List.append_nil]
              exact conserved.take phase held queue
  | falling =>
      rw [exchange.write_of_falling sink phase, List.append_nil]
      exact conserved.die phase
  | dead =>
      rw [exchange.write_of_gone sink (.inl phase), List.append_nil]
      exact conserved
  | ended =>
      rw [exchange.write_of_gone sink (.inr phase), List.append_nil]
      exact conserved

/-- The number of handles plays no part while the writer has not ended. -/
theorem withHandles (conserved : Conserved capacity exchange seen) (handles : Nat)
    (kept : exchange.handles = 0 → handles = 0) :
    Conserved capacity { exchange with handles } seen where
  kept := conserved.kept
  ordered := conserved.ordered
  places := conserved.places
  fits := conserved.fits
  alive := conserved.alive
  idle := conserved.idle
  crashed := conserved.crashed
  ended ended := ⟨kept (conserved.ended ended).1, (conserved.ended ended).2⟩
  written := conserved.written

/-- Whatever happens to the exchange, its events are accounted for. -/
theorem act (conserved : Conserved capacity exchange seen) (action : ExchangeAction) :
    Conserved capacity (exchange.act sink action).1 (seen ++ (exchange.act sink action).2) := by
  cases action with
  | report event => exact conserved.report event
  | copy =>
      rw [Exchange.act]
      split
      · simpa using conserved
      · rename_i handle
        rw [List.append_nil]
        exact conserved.withHandles _ fun none => absurd none handle
  | drop =>
      rw [Exchange.act, List.append_nil]
      exact conserved.withHandles _ fun none => by rw [none]
  | write => exact conserved.write

/-- Nothing is lost, doubled or put out of order by any actions. -/
theorem run (conserved : Conserved capacity exchange seen) (actions : List ExchangeAction) :
    Conserved capacity (exchange.run sink actions).1 (seen ++ (exchange.run sink actions).2) := by
  induction actions generalizing exchange seen with
  | nil =>
      rw [Exchange.run, List.append_nil]
      exact conserved
  | cons action rest ih =>
      rw [Exchange.run, ← List.append_assoc]
      exact ih (conserved.act action)

end Conserved

/-- What an exchange promises after everything that was seen of it. -/
structure Faithful (capacity : Nat) (sink : Sink σ) (exchange : Exchange σ)
    (seen : List Observation) : Prop where
  /-- While the writer lives, the accepted events are those handed over, the one that the
  writer holds, and the queue. -/
  conserved : exchange.delivery.alive = true →
    Observation.acceptedIn seen =
      Observation.deliveredIn seen ++ exchange.delivery.held.toList ++ exchange.delivery.queue
  /-- Only accepted events are handed over, in the order of their acceptance. -/
  ordered : Observation.deliveredIn seen <+: Observation.acceptedIn seen
  written : ∀ event handed, .delivered event handed ∈ seen →
    handed.type = Frame.statusType ∧ handed.payload = event.encode
  /-- An event of which every report was refused is never handed over. -/
  excluded : ∀ event, .reported event (.ok ()) ∉ seen →
    event ∉ Observation.deliveredIn seen
  bounded : exchange.delivery.alive = true →
    (Observation.acceptedIn seen).length ≤
      (Observation.deliveredIn seen).length + (max capacity 1 + 1)
  accepts : ∀ event, exchange.handles ≠ 0 → exchange.delivery.alive = true →
    exchange.delivery.queue.length < max capacity 1 →
    exchange.act sink (.report event) =
      ({ exchange with
          delivery := { exchange.delivery with queue := exchange.delivery.queue ++ [event] } },
        [.reported event (.ok ())])
  /-- A report that finds the queue full leaves everything as it was. -/
  refuses : ∀ event, exchange.handles ≠ 0 → exchange.delivery.alive = true →
    max capacity 1 ≤ exchange.delivery.queue.length →
    exchange.act sink (.report event) =
      (exchange, [.reported event (.error (.reportRefused exchange.delivery.wait))])
  /-- A sink that fails costs one event, and the writer takes the next. -/
  survives : ∀ event fault, exchange.phase = .running → exchange.delivery.held = some event →
    (exchange.handed sink event).result = .failed fault →
    exchange.act sink .write =
        (exchange.afterHandOver sink event, [.delivered event (exchange.handed sink event)]) ∧
      (exchange.afterHandOver sink event).phase = .running ∧
      (exchange.afterHandOver sink event).delivery.held = none ∧
      (exchange.afterHandOver sink event).delivery.queue = exchange.delivery.queue ∧
      ∀ next rest, exchange.delivery.queue = next :: rest →
        ((exchange.afterHandOver sink event).act sink .write).1.delivery.held = some next ∧
          ((exchange.afterHandOver sink event).act sink .write).1.delivery.queue = rest
  /-- Without handles the writer hands over the whole queue, unless the sink crashes. -/
  drains : exchange.handles = 0 → exchange.phase = .running →
    ∀ count, exchange.pending < count →
      (∀ observation ∈ (exchange.run sink (List.replicate count .write)).2,
        observation.crashed = false) →
      (exchange.run sink (List.replicate count .write)).1.phase = .ended ∧
        Observation.deliveredIn
            (seen ++ (exchange.run sink (List.replicate count .write)).2) =
          Observation.acceptedIn seen
  ended : exchange.phase = .ended →
    exchange.handles = 0 ∧ Observation.deliveredIn seen = Observation.acceptedIn seen
  /-- After the sink crashed nothing is handed over any more. -/
  silent : (∃ observation ∈ seen, observation.crashed = true) →
    ∀ actions, Observation.deliveredIn (exchange.run sink actions).2 = []
  /-- Once the writer is dead every report fails. -/
  closed : (∃ observation ∈ seen, observation.crashed = true) →
    exchange.delivery.alive = false →
    ∀ actions, ∀ observation ∈ (exchange.run sink actions).2,
      ∃ event, observation = .reported event (.error .channelClosed)

namespace Conserved

variable {capacity : Nat} {exchange : Exchange σ} {seen : List Observation}

/-- At most the whole queue and one event are not yet handed over. -/
theorem length_acceptedIn_le (conserved : Conserved capacity exchange seen)
    (alive : exchange.delivery.alive = true) :
    (Observation.acceptedIn seen).length ≤
      (Observation.deliveredIn seen).length + (max capacity 1 + 1) := by
  have held : exchange.delivery.held.toList.length ≤ 1 := by
    cases exchange.delivery.held <;> simp
  have fits := conserved.fits
  rw [conserved.kept alive, List.length_append, List.length_append]
  omega

/-- A queue without handles is handed over whole by the steps of the writer alone. -/
theorem drained (conserved : Conserved capacity exchange seen) (sink : Sink σ)
    (handles : exchange.handles = 0) (running : exchange.phase = .running) (count : Nat)
    (enough : exchange.pending < count)
    (sound : ∀ observation ∈ (exchange.run sink (List.replicate count .write)).2,
      observation.crashed = false) :
    (exchange.run sink (List.replicate count .write)).1.phase = .ended ∧
      Observation.deliveredIn (seen ++ (exchange.run sink (List.replicate count .write)).2) =
        Observation.acceptedIn seen := by
  have alive := conserved.alive.mpr (.inl running)
  rcases run_write_of_abandoned sink handles running alive count enough with
    ⟨observation, member, crashed⟩ | ended
  · rw [sound observation member] at crashed
    cases crashed
  · refine ⟨ended, ?_⟩
    rw [((conserved.run _).ended ended).2, Observation.acceptedIn_append, acceptedIn_run_write,
      List.append_nil]

/-- What is conserved amounts to all that an exchange promises. -/
theorem faithful (conserved : Conserved capacity exchange seen) (sink : Sink σ) :
    Faithful capacity sink exchange seen := by
  constructor
  case conserved => exact conserved.kept
  case ordered => exact conserved.ordered
  case written => exact conserved.written
  case excluded =>
    intro event refused delivered
    exact refused (Observation.mem_acceptedIn.mp (conserved.ordered.subset delivered))
  case bounded => exact conserved.length_acceptedIn_le
  case accepts =>
    intro event handle alive room
    exact exchange.report_of_room event handle alive (by rwa [conserved.places])
  case refuses =>
    intro event handle alive full
    exact exchange.report_of_full event handle alive (by rwa [conserved.places])
  case survives =>
    intro event fault running held failed
    have alive := conserved.alive.mpr (.inl running)
    have still : (exchange.afterHandOver sink event).phase = .running := by
      rw [afterHandOver, failed]
      exact running
    refine ⟨exchange.write_of_held sink event running alive held, still, rfl, rfl, ?_⟩
    intro next rest queue
    rw [Exchange.act,
      (exchange.afterHandOver sink event).write_of_queued sink next still alive rfl queue]
    exact ⟨rfl, rfl⟩
  case drains => exact conserved.drained sink
  case ended => exact conserved.ended
  case silent =>
    intro crashed actions
    refine run_of_stopped sink ?_ actions
    rcases conserved.crashed.mp crashed with falling | dead
    · simp [falling]
    · simp [dead]
  case closed =>
    intro crashed gone actions
    rcases conserved.crashed.mp crashed with falling | dead
    · rw [conserved.alive.mpr (.inr falling)] at gone
      cases gone
    · exact run_of_dead sink dead gone actions

end Conserved

/-- Whatever order the callers and the writer act in, and whatever the sink does, the exchange
keeps its promises. -/
theorem faithful_run (capacity : Nat) (wait : Span) (state : σ) (sink : Sink σ)
    (actions : List ExchangeAction) :
    Faithful capacity sink ((begin capacity wait state).run sink actions).1
      ((begin capacity wait state).run sink actions).2 :=
  ((Conserved.begin capacity wait state).run actions).faithful sink

-- A queue of one place refuses the second event, and a sink that crashes costs the queue.
example (first second third : StatusEvent) (wait : Span) :
    let seen := ((begin 0 wait ()).run Sink.crashing
      [.report first, .report second, .write, .report second, .write, .write, .report third]).2
    Observation.acceptedIn seen = [first, second] ∧ Observation.deliveredIn seen = [first] :=
  ⟨rfl, rfl⟩

end HealthWatch.Exchange
