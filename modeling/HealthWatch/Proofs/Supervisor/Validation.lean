import HealthWatch.Proofs.Healthcheck.Validation
import HealthWatch.Proofs.Supervisor.Agreement

/-! # Healthchecks that are used

However a healthcheck is come by, its values have been judged: its numbers are inside their bounds,
and it has a command if it is enabled (`Healthcheck.validated`).
-/

namespace HealthWatch

namespace Healthcheck

/-- Everything that a healthcheck is taken from. -/
inductive Obtained : Healthcheck → Prop
  | values {test : List String} {interval timeout startPeriod retries : Int} {check : Healthcheck}
      (made : ofValues test interval timeout startPeriod retries = .ok check) : Obtained check
  | annotation {payload : String} {check : Healthcheck}
      (parsed : Annotations.parse payload = .ok check) : Obtained check
  | bundle {read : FileReader} {bundle : Bytes} {key : String} {check : Healthcheck}
      (found : Bundle.discover read bundle key = .ok (some check)) : Obtained check
  /-- A bundle or an annotation that is validated. -/
  | inspection {surroundings : Surroundings} {settings : Settings} {bundle : Option Bytes}
      {payload : Option String} {check : Healthcheck}
      (inspected : Supervisor.inspect surroundings settings bundle payload =
        .ok (.healthcheck check)) : Obtained check
  | disabled : Obtained disabled

end Healthcheck

namespace Supervisor

variable {surroundings : Surroundings} {settings : Settings} {container : String}
  {exec : ExecChoice}

/-- A healthcheck that the check finds was made of values that passed. -/
theorem made_of_inspect {bundle : Option Bytes} {payload : Option String} {check : Healthcheck}
    (inspected : inspect surroundings settings bundle payload = .ok (.healthcheck check)) :
    check.Made := by
  unfold inspect at inspected
  cases bundle with
  | some bundle =>
      dsimp only at inspected
      split at inspected
      · cases inspected
      · rename_i found
        cases inspected
        exact Bundle.made_of_discover found
      · cases inspected
  | none =>
      cases payload with
      | none => cases inspected
      | some payload =>
          cases parsed : Annotations.parse payload with
          | error failure =>
              dsimp only at inspected
              rw [parsed] at inspected
              cases inspected
          | ok other =>
              dsimp only at inspected
              rw [parsed] at inspected
              cases inspected
              exact Annotations.made_of_parse parsed

/-- A healthcheck that is probed once was made of values that passed. -/
theorem made_of_probeOnce {timeout : Int} {test : List String} {outcome : Outcome}
    (probed : probeOnce surroundings settings container exec timeout test = .ok outcome) :
    ∃ check : Healthcheck, check.Made ∧ check.test = test ∧
      outcome = Probe.execute surroundings.programs (exec.executor settings) check container := by
  rw [probeOnce] at probed
  cases made : Healthcheck.ofValues test 1 timeout 0 0 with
  | error fault =>
      rw [made] at probed
      cases probed
  | ok check =>
      rw [made] at probed
      cases probed
      exact ⟨check, ⟨_, _, _, _, _, made⟩, ((Healthcheck.judged _ _ _ _ _).kept _ made).test, rfl⟩

/-- Every healthcheck that the monitor watches was made of values that passed. -/
theorem made_of_watch {now : Int} {bundle : Bytes} {descriptor : Option Int}
    {channel : Option Channel} {executor : Executor} {registry : Registry}
    (prepared : prepare surroundings settings now container bundle exec descriptor =
      .ok (.watch channel executor registry)) :
    ∀ entry ∈ registry.timers, entry.2.check.Made := by
  let request : Request := ⟨[], false, bundle, none, container, exec, descriptor⟩
  have planned : (request.undertaking surroundings settings now).result =
      .ok (.watch channel executor registry) := prepared
  have unmanaged : Request.managed surroundings settings = false := by
    rw [Bool.eq_false_iff]
    intro managed
    obtain ⟨preferred, runs⟩ := Bool.and_eq_true_iff.mp managed
    rw [undertaking_of_managed preferred runs] at planned
    cases planned
  have fares := course now request unmanaged
  generalize request.undertaking surroundings settings now = undertaking at fares planned
  cases discovered : request.discovery surroundings settings with
  | error failure =>
      rw [discovered] at fares
      cases fares
      cases planned
  | ok found =>
      rw [discovered] at fares
      cases fares with
      | nothing => cases planned
      | unopened => cases planned
      | @watching check timer opened started =>
          have made : check.Made := Bundle.made_of_discover discovered
          rw [Session.start_create, if_pos made.runnable] at started
          cases started
          cases planned
          rintro _ (_ | ⟨_, ⟨⟩⟩)
          exact made

end Supervisor

namespace Healthcheck

/-- Wherever it was taken from, a healthcheck keeps all bounds. -/
theorem Obtained.sound {check : Healthcheck} (obtained : Obtained check) : check.Sound := by
  cases obtained with
  | values made => exact Made.sound ⟨_, _, _, _, _, made⟩
  | annotation parsed => exact (Annotations.made_of_parse parsed).sound
  | bundle found => exact (Bundle.made_of_discover found).sound
  | inspection inspected => exact (Supervisor.made_of_inspect inspected).sound
  | disabled => exact ⟨by decide, by decide, by decide, by decide, nofun⟩

/-- Every check of values tells what is wrong, and no healthcheck that is used gets around it. -/
structure Validated : Prop where
  values : ∀ test interval timeout startPeriod retries,
    Judged test interval timeout startPeriod retries
  ranges : ∀ field value bounds, Ranged field value bounds
  messages : ∀ fault : HealthcheckFault, ∀ part ∈ fault.subjects,
    Mentions (Failure.healthcheckInvalid fault).message part
  obtained : ∀ check, Obtained check → check.Sound
  /-- A probe that is run once runs a healthcheck that was made for it. -/
  probes : ∀ surroundings settings container exec timeout test outcome,
    Supervisor.probeOnce surroundings settings container exec timeout test = .ok outcome →
      ∃ check : Healthcheck, check.Sound ∧ check.test = test ∧
        outcome = Probe.execute surroundings.programs (exec.executor settings) check container
  /-- A monitor watches with timers of such healthchecks only. -/
  watches : ∀ surroundings settings now container bundle exec descriptor channel executor registry,
    Supervisor.prepare surroundings settings now container bundle exec descriptor =
        .ok (.watch channel executor registry) →
      ∀ entry ∈ registry.timers, entry.2.check.Sound

/-- **What values a healthcheck can have.** They are checked one after the other, the first that is
wrong is told with the bounds that it has to keep, and all others are kept as they are. No source of
healthchecks gets around it. -/
theorem validated : Validated where
  values := judged
  ranges := ranged
  messages fault part member := (fault.mentions_message part member).front "Invalid healthcheck: "
  obtained _ := Obtained.sound
  probes surroundings settings container exec timeout test outcome probed := by
    obtain ⟨check, made, same, executed⟩ := Supervisor.made_of_probeOnce probed
    exact ⟨check, made.sound, same, executed⟩
  watches surroundings settings now container bundle exec descriptor channel executor registry
      prepared entry member :=
    (Supervisor.made_of_watch prepared entry member).sound

end Healthcheck

end HealthWatch
