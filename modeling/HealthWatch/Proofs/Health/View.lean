import HealthWatch.Proofs.Health.History
import HealthWatch.Report.Event

/-! # What the events of a session say of its health

Many ticks are not told, yet the last event that was told always has the status of the health:
a tick changes the status only when it is told. `Health.View` says so together with the order in
which statuses can follow each other and the exit codes that can come with them, and a tick keeps
it (`Health.View.step`).
-/

namespace HealthWatch

/-- The exit code that is reported is zero exactly for a passing probe. -/
theorem Outcome.exitCode_eq_zero_iff {outcome : Outcome} :
    outcome.exitCode = 0 ↔ outcome.passed = true := by
  cases outcome <;> simp [exitCode, passed]

/-- The status that events tell in the end; without any event, a timer is starting. -/
def StatusEvent.lastStatus (events : List StatusEvent) : String :=
  (events.getLast?.map status).getD Status.starting.word

theorem StatusEvent.lastStatus_concat (events : List StatusEvent) (event : StatusEvent) :
    lastStatus (events ++ [event]) = event.status := by
  rw [lastStatus, List.getLast?_concat]
  rfl

namespace Health

/-- What the events of a session say, and how that agrees with the health of its loop. -/
structure View (health : Health) (told : List StatusEvent) : Prop where
  /-- No change of the status is silent. -/
  current : StatusEvent.lastStatus told = health.status.word
  /-- Once a verdict was told, the timer is never said to be starting again. -/
  ordered : ∃ count verdicts,
    told.map StatusEvent.status = List.replicate count Status.starting.word ++ verdicts ∧
      ∀ verdict ∈ verdicts, verdict = Status.healthy.word ∨ verdict = Status.unhealthy.word
  healthy : ∀ event ∈ told, event.status = Status.healthy.word → event.exitCode = 0
  unhealthy : ∀ event ∈ told, event.status = Status.unhealthy.word → event.exitCode ≠ 0
  /-- Only the first event can say that the timer is starting and that its probe passed. -/
  first : ∀ event ∈ told.tail, event.status = Status.starting.word → event.exitCode ≠ 0
  /-- No verdict is told inside the start period. -/
  grace : 0 < health.remaining →
    health.status = .starting ∧ ∀ event ∈ told, event.status = Status.starting.word
  unannounced : health.announced = false → 0 < health.remaining → told = []

namespace View

/-- Before any event the status is the first one. -/
theorem starting (startPeriod : UInt32) : View (.starting startPeriod) [] where
  current := rfl
  ordered := ⟨0, [], rfl, by simp⟩
  healthy := by simp
  unhealthy := by simp
  first := by simp
  grace _ := ⟨rfl, by simp⟩
  unannounced _ _ := rfl

variable {health after : Health} {told : List StatusEvent}

/-- A tick that is not told keeps the status. -/
theorem silent (view : View health told) (same : after.status = health.status)
    (grace : 0 < after.remaining → 0 < health.remaining)
    (announced : 0 < after.remaining → after.announced = true) : View after told where
  current := by rw [view.current, same]
  ordered := view.ordered
  healthy := view.healthy
  unhealthy := view.unhealthy
  first := view.first
  grace inside := by
    rw [same]
    exact view.grace (grace inside)
  unannounced never inside := by
    rw [announced inside] at never
    cases never

/-- An event behind the first is an old one, or the new one if there was one before it. -/
theorem mem_tail_concat {event other : StatusEvent} (member : other ∈ (told ++ [event]).tail) :
    other ∈ told.tail ∨ other = event ∧ told ≠ [] := by
  cases told with
  | nil => cases member
  | cons head rest =>
      rw [List.cons_append, List.tail_cons, List.mem_append, List.mem_singleton] at member
      exact member.imp_right fun same => ⟨same, List.cons_ne_nil _ _⟩

/-- A tick inside the start period that is told says that the timer is starting. -/
theorem tellStarting (view : View health told) {event : StatusEvent}
    (inside : 0 < health.remaining) (starts : event.status = Status.starting.word)
    (status : after.status = .starting) (announced : after.announced = true)
    (late : told ≠ [] → event.exitCode ≠ 0) : View after (told ++ [event]) := by
  have all : ∀ other ∈ told ++ [event], other.status = Status.starting.word := by
    intro other member
    rcases List.mem_append.mp member with earlier | last
    · exact (view.grace inside).2 other earlier
    · rw [List.mem_singleton.mp last]
      exact starts
  constructor
  case current => rw [StatusEvent.lastStatus_concat, starts, status]
  case ordered =>
    refine ⟨(told ++ [event]).length, [], ?_, by simp⟩
    rw [List.append_nil]
    refine List.eq_replicate_iff.mpr ⟨List.length_map _, ?_⟩
    intro word member
    obtain ⟨other, present, rfl⟩ := List.mem_map.mp member
    exact all other present
  case healthy =>
    intro other member is
    exact absurd ((all other member).symm.trans is) (by decide)
  case unhealthy =>
    intro other member is
    exact absurd ((all other member).symm.trans is) (by decide)
  case first =>
    intro other member is
    rcases mem_tail_concat member with earlier | ⟨rfl, later⟩
    · exact view.first other earlier is
    · exact late later
  case grace => exact fun _ => ⟨status, all⟩
  case unannounced =>
    intro never
    rw [announced] at never
    cases never

/-- A tick after the start period that is told says what the verdict is. -/
theorem tellVerdict (view : View health told) {event : StatusEvent}
    (past : ¬ 0 < after.remaining) (same : event.status = after.status.word)
    (verdict : after.status = .healthy ∧ event.exitCode = 0 ∨
      after.status = .unhealthy ∧ event.exitCode ≠ 0) : View after (told ++ [event]) := by
  have word : event.status = Status.healthy.word ∧ event.exitCode = 0 ∨
      event.status = Status.unhealthy.word ∧ event.exitCode ≠ 0 := by
    rw [same]
    exact verdict.imp (fun healthy => ⟨by rw [healthy.1], healthy.2⟩)
      fun unhealthy => ⟨by rw [unhealthy.1], unhealthy.2⟩
  constructor
  case current => rw [StatusEvent.lastStatus_concat, same]
  case ordered =>
    obtain ⟨count, verdicts, ordered, known⟩ := view.ordered
    refine ⟨count, verdicts ++ [event.status], ?_, ?_⟩
    · rw [List.map_append, ordered, List.append_assoc]
      rfl
    · intro one member
      rcases List.mem_append.mp member with earlier | last
      · exact known one earlier
      · rw [List.mem_singleton.mp last]
        exact word.imp And.left And.left
  case healthy =>
    intro other member is
    rcases List.mem_append.mp member with earlier | last
    · exact view.healthy other earlier is
    · cases List.mem_singleton.mp last
      rcases word with ⟨-, passed⟩ | ⟨unhealthy, -⟩
      · exact passed
      · exact absurd (unhealthy.symm.trans is) (by decide)
  case unhealthy =>
    intro other member is
    rcases List.mem_append.mp member with earlier | last
    · exact view.unhealthy other earlier is
    · cases List.mem_singleton.mp last
      rcases word with ⟨healthy, -⟩ | ⟨-, failed⟩
      · exact absurd (healthy.symm.trans is) (by decide)
      · exact failed
  case first =>
    intro other member is
    rcases mem_tail_concat member with earlier | ⟨rfl, -⟩
    · exact view.first other earlier is
    · rcases word with ⟨healthy, -⟩ | ⟨unhealthy, -⟩
      · exact absurd (healthy.symm.trans is) (by decide)
      · exact absurd (unhealthy.symm.trans is) (by decide)
  case grace => exact fun inside => absurd inside past
  case unannounced => exact fun _ inside => absurd inside past

/-- The events after a tick. -/
def toldAfter (container : String) (now : Int) (outcome : Outcome) (told : List StatusEvent)
    (transition : Transition) : List StatusEvent :=
  if transition.report then
    told ++ [.of container transition.health.status outcome.exitCode now]
  else told

variable (container : String) (now : Int) (outcome : Outcome)

/-- What has been told grows by the report of a transition, if it has one. -/
theorem toldAfter_eq (transition : Transition) :
    toldAfter container now outcome told transition =
      told ++ (if transition.report then
        some (StatusEvent.of container transition.health.status outcome.exitCode now)
      else none).toList := by
  unfold toldAfter
  split <;> simp

/-- A step inside the start period keeps what is told in agreement with what is shown. -/
theorem graceStep (view : View health told) (inside : 0 < health.remaining) (interval : UInt32) :
    View (health.graceStep interval outcome).health
      (toldAfter container now outcome told (health.graceStep interval outcome)) := by
  unfold toldAfter
  cases report : (health.graceStep interval outcome).report with
  | true =>
      refine view.tellStarting inside rfl rfl rfl ?_
      intro later passed
      have announced : health.announced = true := by
        by_contra never
        exact later (view.unannounced (Bool.eq_false_of_not_eq_true never) inside)
      rw [Health.graceStep, announced, Outcome.exitCode_eq_zero_iff.mp passed] at report
      cases report
  | false => exact view.silent (view.grace inside).1.symm (fun _ => inside) fun _ => rfl

/-- A step past the start period keeps what is told in agreement with what is shown. -/
theorem verdictStep (view : View health told) (past : ¬ 0 < health.remaining) (retries : UInt32) :
    View (health.verdictStep retries outcome).health
      (toldAfter container now outcome told (health.verdictStep retries outcome)) := by
  cases passed : outcome.passed with
  | true =>
      rw [verdictStep_of_passed health retries passed]
      exact view.tellVerdict past rfl (.inl ⟨rfl, Outcome.exitCode_eq_zero_iff.mpr passed⟩)
  | false =>
      have failed : outcome.exitCode ≠ 0 := by
        rw [Ne, Outcome.exitCode_eq_zero_iff, passed]
        exact Bool.false_ne_true
      rw [verdictStep_of_failed health retries passed]
      split
      · exact view.tellVerdict past rfl (.inr ⟨rfl, failed⟩)
      · exact view.silent rfl id fun inside => absurd inside past

/-- A tick keeps the view in step with the health, whether it is told or not. -/
theorem step (view : View health told) (interval retries : UInt32) :
    View (health.step interval retries outcome).health
      (toldAfter container now outcome told (health.step interval retries outcome)) := by
  unfold Health.step
  split
  · rename_i inside
    exact view.graceStep container now outcome inside interval
  · rename_i past
    exact view.verdictStep container now outcome past retries

end View

end Health

end HealthWatch
