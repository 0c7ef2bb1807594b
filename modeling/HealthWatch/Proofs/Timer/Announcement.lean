import HealthWatch.Proofs.Health.Convergence
import HealthWatch.Proofs.Timer.View

/-! # When a timer tells that it is starting

A loop notes that its start is announced as soon as it tells an event that says so, whether the
event is accepted or not (`Health.Announces`). From then on the ticks of the start period are silent
as long as the probe passes. So a start is not told again when the only event that told it was
refused (`Reporting.announces_run`).
-/

namespace HealthWatch

namespace Health

/-- The start counts as announced exactly when an event that says so was told. -/
def Announces (health : Health) (told : List StatusEvent) : Prop :=
  health.announced = true ↔ ∃ event ∈ told, event.status = Status.starting.word

namespace Announces

variable {health : Health} {told : List StatusEvent}

/-- At the beginning no start has been announced, and no event tells one. -/
theorem starting (startPeriod : UInt32) : Announces (.starting startPeriod) [] := by
  apply iff_of_false Bool.false_ne_true
  intro held
  obtain ⟨event, member, -⟩ := held
  cases member

/-- An event that tells a verdict does not announce a start. -/
theorem tellVerdict {after : Health} (announces : health.Announces told)
    (same : after.announced = health.announced) {event : StatusEvent} (verdict : Status)
    (word : event.status = verdict.word) (other : verdict.word ≠ Status.starting.word) :
    after.Announces (told ++ [event]) := by
  unfold Announces at announces ⊢
  rw [same, announces]
  constructor
  · intro held
    obtain ⟨announcing, member, starts⟩ := held
    exact ⟨announcing, List.mem_append_left _ member, starts⟩
  · intro held
    obtain ⟨announcing, member, starts⟩ := held
    cases List.mem_append.mp member with
    | inl earlier => exact ⟨announcing, earlier, starts⟩
    | inr last =>
        rw [List.mem_singleton.mp last, word] at starts
        exact absurd starts other

variable (container : String) (now : Int) (outcome : Outcome)

/-- A tick within the start period announces the start exactly when it tells it. -/
theorem graceStep (announces : health.Announces told) (interval : UInt32) :
    Announces (health.graceStep interval outcome).health
      (View.toldAfter container now outcome told (health.graceStep interval outcome)) := by
  unfold View.toldAfter
  cases report : (health.graceStep interval outcome).report with
  | true => exact iff_of_true rfl ⟨_, List.mem_append_right _ (List.mem_singleton_self _), rfl⟩
  | false =>
      have announced : health.announced = true := by
        rw [Health.graceStep, Bool.or_eq_false_iff, Bool.not_eq_false'] at report
        exact report.1
      exact iff_of_true rfl (announces.mp announced)

/-- A tick that counts leaves the announcement of the start as it was told. -/
theorem verdictStep (announces : health.Announces told) (retries : UInt32) :
    Announces (health.verdictStep retries outcome).health
      (View.toldAfter container now outcome told (health.verdictStep retries outcome)) := by
  cases passed : outcome.passed with
  | true =>
      rw [verdictStep_of_passed health retries passed]
      exact announces.tellVerdict rfl .healthy rfl (by decide)
  | false =>
      rw [verdictStep_of_failed health retries passed]
      split
      · exact announces.tellVerdict rfl .unhealthy rfl (by decide)
      · exact announces

/-- A tick announces the start exactly when it tells an event that says so. -/
theorem step (announces : health.Announces told) (interval retries : UInt32) :
    Announces (health.step interval retries outcome).health
      (View.toldAfter container now outcome told (health.step interval retries outcome)) := by
  unfold Health.step
  split
  · exact announces.graceStep container now outcome interval
  · exact announces.verdictStep container now outcome retries

end Announces

end Health

namespace Timer

/-- Inside the start period a tick is told unless the start is announced and the probe passed. -/
theorem tick_of_inside {timer : Timer} {health : Health} (probing : timer.loop = some ⟨health, true⟩)
    (inside : 0 < health.remaining) (now : Int) (outcome : Outcome) :
    (timer.tick now outcome).2 =
      if !health.announced || !outcome.passed then
        some (.of timer.container .starting outcome.exitCode now)
      else none := by
  unfold tick
  rw [probing]
  dsimp only
  rw [Health.step_of_inside _ _ inside]
  rfl

/-- The tick that a stop waits for is told like any other. -/
theorem tick_cancel_snd (timer : Timer) (now : Int) (outcome : Outcome) :
    (timer.cancel.tick now outcome).2 = (timer.tick now outcome).2 := by
  unfold cancel tick
  cases timer.loop with
  | none => rfl
  | some loop =>
      obtain ⟨health, probing⟩ := loop
      cases probing <;> rfl

end Timer

/-- Among the notes there is an event that tells a start, accepted or not. -/
def Note.StartTold (notes : List Note) : Prop :=
  ∃ event result, Note.told event result ∈ notes ∧ event.status = Status.starting.word

/-- A start was told exactly when some event says so. -/
theorem Note.startTold_iff {notes : List Note} :
    StartTold notes ↔ ∃ event ∈ toldIn notes, event.status = Status.starting.word := by
  unfold StartTold toldIn
  constructor
  · intro held
    obtain ⟨event, result, member, starts⟩ := held
    exact ⟨event, List.mem_filterMap.mpr ⟨_, member, rfl⟩, starts⟩
  · intro held
    obtain ⟨event, told, starts⟩ := held
    obtain ⟨note, member, same⟩ := List.mem_filterMap.mp told
    cases note with
    | told other result =>
        cases same
        exact ⟨event, result, member, starts⟩
    | operated => cases same
    | seen => cases same

namespace Reporting

variable {σ : Type}

/-- What holds of a timer after everything that is known of it, whatever was refused. -/
def Announced (container : String) (check : Healthcheck) (reporting : Reporting σ)
    (notes : List Note) : Prop :=
  ∃ session last, reporting.timer = Session.timer? container check last session ∧
    (session.isRunning = true →
      (session.health check).Announces (Note.toldIn (Note.sessionIn notes)))

namespace Announced

variable {container : String} {check : Healthcheck} {sink : Sink σ} {reporting : Reporting σ}
  {notes : List Note}

theorem begin (container : String) (check : Healthcheck) (capacity : Nat) (wait : Span)
    (state : σ) : Announced container check (.begin container check capacity wait state) [] :=
  ⟨.idle, none, rfl, fun running => by cases running⟩

/-- A completed tick tells the start exactly when its health notes it. -/
theorem completed (tick : CompletedTick) {told : List StatusEvent}
    (announces : (Health.after check.interval check.retries (.starting check.startPeriod)
      tick.earlier).Announces told) :
    (tick.transition check).health.Announces (told ++ (tick.event? container check).toList) := by
  have next := announces.step container tick.now tick.outcome check.interval check.retries
  rwa [Health.View.toldAfter_eq] at next

/-- An operation keeps what the timer noted in step with what it told. -/
theorem operate (announced : Announced container check reporting notes)
    (operation : TimerOperation) :
    Announced container check (reporting.act sink (.timer operation)).1
      (notes ++ (reporting.act sink (.timer operation)).2) := by
  obtain ⟨session, last, inSession, announces⟩ := announced
  have step := operate_inSession inSession operation
  have continued := continues_operate sink inSession operation notes
  refine ⟨_, _, (timer_act_timer sink reporting operation).trans (congrArg Prod.fst step), ?_⟩
  intro goesOn
  generalize Note.sessionIn (notes ++ (reporting.act sink (.timer operation)).2) = later
    at continued
  cases continued with
  | begins next =>
      rw [next]
      exact .starting check.startPeriod
  | rests kept told next =>
      obtain ⟨running, unchanged⟩ := next goesOn
      rw [told, unchanged]
      exact announces running
  | ticks tick kept told was next =>
      subst was
      rw [told, next goesOn]
      exact completed tick (announces rfl)

/-- Whatever happens, what the timer noted stays in step with what it told. -/
theorem act (announced : Announced container check reporting notes) (happening : Happening) :
    Announced container check (reporting.act sink happening).1
      (notes ++ (reporting.act sink happening).2) := by
  cases happening with
  | timer operation => exact announced.operate operation
  | elsewhere action =>
      obtain ⟨session, last, inSession, announces⟩ := announced
      refine ⟨session, last, inSession, ?_⟩
      rw [Reporting.act, Note.sessionIn_append (by simp [Note.begins]), Note.toldIn_append,
        Note.toldIn_map_seen, List.append_nil]
      exact announces

/-- After any happenings, what the timer noted is in step with what it told. -/
theorem run (announced : Announced container check reporting notes)
    (happenings : List Happening) :
    Announced container check (reporting.run sink happenings).1
      (notes ++ (reporting.run sink happenings).2) :=
  run_induction sink (Announced container check)
    (fun _ _ happening announced => announced.act happening) announced happenings

/-- What a loop has noted of its start is what its session told of it. -/
theorem announced_iff (announced : Announced container check reporting notes) {timer : Timer}
    {loop : TickLoop} (present : reporting.timer = some timer) (looping : timer.loop = some loop) :
    loop.health.announced = true ↔ Note.StartTold (Note.sessionIn notes) := by
  obtain ⟨session, last, inSession, announces⟩ := announced
  rw [inSession] at present
  cases Session.eq_timer_of_timer? present
  rw [Note.startTold_iff]
  cases session with
  | idle => cases looping
  | dropped => cases looping
  | running outcomes phase =>
      cases phase with
      | waiting =>
          cases looping
          exact announces rfl
      | probing =>
          cases looping
          exact announces rfl
      | crashed => cases looping

end Announced

/-- What a timer notes of its start, and what its ticks tell of it. -/
structure Announces (reporting : Reporting σ) (notes : List Note) : Prop where
  /-- The loop takes its start for announced as soon as its session told it, even if no such event
  was accepted. -/
  noted : ∀ timer loop, reporting.timer = some timer → timer.loop = some loop →
    (loop.health.announced = true ↔ Note.StartTold (Note.sessionIn notes))
  /-- Inside the start period, the tick of the probe in flight tells the start when the probe fails
  and when the session has not told it yet. -/
  tells : ∀ timer health, reporting.timer = some timer → timer.loop = some ⟨health, true⟩ →
    0 < health.remaining → ∀ now outcome,
      outcome.passed = false ∨ ¬Note.StartTold (Note.sessionIn notes) →
        (timer.tick now outcome).2 = some (.of timer.container .starting outcome.exitCode now)
  /-- Otherwise it tells nothing, whatever became of the events that told the start. -/
  silent : ∀ timer health, reporting.timer = some timer → timer.loop = some ⟨health, true⟩ →
    0 < health.remaining → ∀ now outcome,
      outcome.passed = true → Note.StartTold (Note.sessionIn notes) →
        (timer.tick now outcome).2 = none
  /-- So it is with the tick that a stop waits for. -/
  stopping : ∀ timer, reporting.timer = some timer → ∀ now outcome,
    (timer.cancel.tick now outcome).2 = (timer.tick now outcome).2

/-- **When a start is told.** Whatever happens to a timer that was never started, to its exchange
and to its sink, its start is told once in a session and with every probe that fails inside the
start period. -/
theorem announces_run (container : String) (check : Healthcheck) (capacity : Nat) (wait : Span)
    (state : σ) (sink : Sink σ) (happenings : List Happening) :
    Announces ((begin container check capacity wait state).run sink happenings).1
      ((begin container check capacity wait state).run sink happenings).2 := by
  have announced : Announced container check
      ((begin container check capacity wait state).run sink happenings).1
      ([] ++ ((begin container check capacity wait state).run sink happenings).2) :=
    (Announced.begin container check capacity wait state).run happenings
  rw [List.nil_append] at announced
  constructor
  case noted =>
    intro timer loop present looping
    exact announced.announced_iff present looping
  case tells =>
    intro timer health present probing inside now outcome due
    have noted := announced.announced_iff present probing
    rw [Timer.tick_of_inside probing inside, if_pos]
    rw [Bool.or_eq_true, Bool.not_eq_true', Bool.not_eq_true']
    cases due with
    | inl failed => exact .inr failed
    | inr untold => exact .inl (Bool.eq_false_of_not_eq_true fun told => untold (noted.mp told))
  case silent =>
    intro timer health present probing inside now outcome passed told
    have noted := (announced.announced_iff present probing).mpr told
    rw [Timer.tick_of_inside probing inside, noted, passed]
    rfl
  case stopping => exact fun timer _ => timer.tick_cancel_snd

/-- The queue is still full when a second session begins, and refuses the one event that tells its
start. The next probe passes inside the start period, and nothing is told. -/
theorem silent_after_refused_start :
    let check : Healthcheck := ⟨["true"], 1, 5, 100, 3, true⟩
    let happenings : List Happening :=
      [.timer (.start 0), .timer .due, .timer (.finish 1 (.outcome (.completed 0))),
        .elsewhere .write, .timer .due, .timer (.finish 2 (.outcome (.completed 1))),
        .timer (.stop 3 (.outcome (.completed 0))), .timer (.start 4), .timer .due,
        .timer (.finish 5 (.outcome (.completed 0))), .timer .due]
    let ran := (begin "c1" check 1 ⟨1000⟩ (some 0)).run Sink.gated happenings
    Note.StartTold (Note.sessionIn ran.2) ∧
      Observation.acceptedIn (Note.observedIn (Note.sessionIn ran.2)) = [] ∧
      ∃ timer health, ran.1.timer = some timer ∧ timer.loop = some ⟨health, true⟩ ∧
        health.remaining = 99 ∧ health.announced = true ∧
        (timer.tick 6 (.completed 0)).2 = none := by
  intro check happenings ran
  have told : Note.toldIn (Note.sessionIn ran.2) = [.of "c1" .starting 0 5] := by decide
  refine ⟨?_, by decide, _, ⟨.starting, 0, 99, true⟩, rfl, by decide, rfl, rfl, by decide⟩
  rw [Note.startTold_iff, told]
  exact ⟨_, List.mem_singleton_self _, rfl⟩

end Reporting

end HealthWatch
