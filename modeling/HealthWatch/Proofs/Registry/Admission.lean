import HealthWatch.Proofs.Registry.Share
import HealthWatch.Proofs.Registry.Shutdown
import HealthWatch.Proofs.Requirements
import HealthWatch.Proofs.Timer.Refinement

/-! # Admission to the registry

A container is registered when the registry is open, does not know it, is not still stopping its
last timer, and the healthcheck can be run. Otherwise the first of these that does not hold is told
and everything stays as it was. A container that is registered comes with one new loop, beside all
that was there before (`Custody.admits_run`).
-/

namespace HealthWatch

open Requirement

/-! ## What is told -/

/-- Faults of timers are told apart by their texts. -/
theorem TimerFault.message_injective : Function.Injective TimerFault.message := by
  intro one other same
  cases one <;> cases other <;> first | rfl | exact absurd same (by decide)

/-- For one container, the texts of two timers that are not started differ as their faults do. -/
theorem Failure.message_timerNotStarted_inj {container : String} {one other : TimerFault} :
    (timerNotStarted container one).message = (timerNotStarted container other).message ↔
      one = other := by
  refine ⟨fun same => TimerFault.message_injective ?_, congrArg fun fault =>
    (timerNotStarted container fault).message⟩
  unfold message at same
  exact (String.append_right_inj _).mp same

/-- The text for a second registration is never that for a timer that is not started. -/
theorem Failure.message_alreadyRegistered_ne (container : String) (fault : TimerFault) :
    (alreadyRegistered container).message ≠ (timerNotStarted container fault).message := by
  intro same
  unfold message at same
  -- The two texts begin with different letters.
  have first := congrArg (fun text : String => text.toList.head?) same
  simp at first

/-! ## One registration -/

namespace Registry

/-- What is required for a registration, in the order in which it is looked at. -/
def requirements (registry : Registry) (container : String) (check : Healthcheck) :
    List (Requirement Failure) :=
  [⟨registry.closed = false, .timerNotStarted container .registryClosed⟩,
    ⟨container ∉ registry.containers, .alreadyRegistered container⟩,
    ⟨container ∉ registry.stopping, .timerNotStarted container .stillStopping⟩,
    ⟨check.enabled = true, .timerNotStarted container .disabled⟩]

/-- A registration is decided by its requirements, and refused by the first that is not met. -/
theorem decides_register (registry : Registry) (now : Int) (container : String)
    {check : Healthcheck} (built : check.Built) :
    Decides (registry.register now container check)
      (registry.requirements container check) := by
  rw [register, Session.start_create, built.runnable_eq]
  refine .cons ?_ (fun opened => if_neg (Bool.eq_false_iff.mp opened))
    (fun closed => if_pos (eq_true_of_ne_false closed))
  refine .cons ?_ (fun absent => if_neg (mt (registry.contains_eq_true_iff container).mp absent))
    (fun known => if_pos ((registry.contains_eq_true_iff container).mpr (not_not.mp known)))
  refine .cons ?_ (fun free => if_neg (by simpa using free))
    (fun reserved => if_pos (by simpa using reserved))
  refine decides_singleton (fun enabled => ?_) (fun disabled => ?_)
  · rw [if_pos enabled]
    exact ⟨_, rfl⟩
  · rw [if_neg disabled]

/-- Each reason for which a registration is refused is told in other words. -/
theorem nodup_messages (registry : Registry) (container : String) (check : Healthcheck) :
    ((registry.requirements container check).map fun requirement =>
      requirement.failure.message).Nodup := by
  have ne := Failure.message_alreadyRegistered_ne container
  simp [requirements, Failure.message_timerNotStarted_inj, ne, (ne _).symm]

/-- No timer is found exactly for the containers that are not registered. -/
theorem find?_eq_none_iff {registry : Registry} {container : String} :
    registry.find? container = none ↔ container ∉ registry.containers := by
  rw [← Option.not_isSome_iff_eq_none]
  exact not_congr (registry.contains_eq_true_iff container)

/-- A container that is added has the snapshot of its timer, and no other snapshot changes. -/
theorem snapshot?_concat (registry : Registry) {container : String} (timer : Timer)
    (absent : container ∉ registry.containers) (other : String) :
    snapshot? { registry with timers := registry.timers ++ [(container, timer)] } other =
      if other = container then some timer.snapshot else registry.snapshot? other := by
  rw [snapshot?, find?_concat]
  by_cases own : other = container
  · rw [if_pos own, own, find?_eq_none_iff.mpr absent, if_pos rfl]
    rfl
  · rw [if_neg own, if_neg (Ne.symm own), Option.or_none]
    rfl

end Registry

namespace Custody

/-- What a registration adds. -/
structure Adds (custody later : Custody) (registration : Registration) (check : Healthcheck)
    (snapshot : Snapshot) : Prop where
  timer : ∃ timer, timer.check = check ∧ timer.snapshot = snapshot ∧
    later.registry.timers = custody.registry.timers ++ [(registration.container, timer)]
  snapshots : ∀ container, later.registry.snapshot? container =
    if container = registration.container then some snapshot
    else custody.registry.snapshot? container
  stopping : later.registry.stopping = custody.registry.stopping
  closed : later.registry.closed = custody.registry.closed
  calls : later.removals = custody.removals
  loops : later.loops = registration :: custody.loops
  /-- The loop is the only one of its container. -/
  alone : ∀ loop ∈ custody.loops, loop.container ≠ registration.container
  begins : snapshot.active = true ∧ snapshot.status = .starting ∧ snapshot.failures = 0 ∧
    snapshot.remaining = check.startPeriod

/-- What registering a container comes to. -/
structure Admits (custody : Custody) (now : Int) (container : String) (check : Healthcheck) :
    Prop where
  decides : Decides (custody.registry.register now container check)
    (custody.registry.requirements container check)
  messages : ((custody.registry.requirements container check).map fun requirement =>
    requirement.failure.message).Nodup
  /-- A registration that is refused leaves everything as it was. -/
  refuses : ∀ caller, custody.busy caller = false → ∀ failure,
    custody.act (.register caller now container check) = (custody, [.refused caller failure]) ↔
      FirstUnmet (custody.registry.requirements container check) failure
  /-- The timer that was made for it is dropped, which does nothing. -/
  drops : ∀ moment result, Timer.operate (some (.create container check)) (.drop moment result) =
    (none, .done, none)
  adds : ∀ caller, custody.busy caller = false →
    AllMet (custody.registry.requirements container check) →
      ∃ registration later snapshot, registration.container = container ∧
        custody.registry.register now container check = .ok (later.registry, snapshot) ∧
        custody.act (.register caller now container check) =
          (later, [.registered caller registration]) ∧
        custody.Adds later registration check snapshot

/-- What is done once more changes nothing. -/
structure Repeats (custody : Custody) : Prop where
  absent : ∀ caller container, custody.busy caller = false →
    container ∉ custody.registry.containers →
      custody.act (.unregister caller container) = (custody, [.absent caller container])
  unregistered : ∀ caller container, custody.busy caller = false →
    container ∉ (custody.act (.unregister caller container)).1.registry.containers
  /-- A registry that was shut down is closed and empty from then on. -/
  shut : ∀ caller order, custody.busy caller = false → order.Perm custody.entries → ∀ actions,
    (custody.run (.shutdown caller order :: actions)).1.registry.closed = true ∧
      (custody.run (.shutdown caller order :: actions)).1.registry.timers = []
  /-- To shut it down again is a call that finds nothing and returns. -/
  again : custody.registry.closed = true → ∀ caller order, custody.busy caller = false →
    order.Perm custody.entries →
      custody.act (.shutdown caller order) =
        ({ custody with removals := custody.removals ++ [⟨caller, [], none, []⟩] }, []) ∧
      custody.run [.shutdown caller order, .finish caller] =
        (custody, [.returned caller none []])

variable {custody : Custody} {seen : List CustodyEvent}

section Idle

variable {caller : Nat} (idle : custody.busy caller = false)

include idle

theorem act_register_of_idle (now : Int) (container : String) (check : Healthcheck) :
    custody.act (.register caller now container check) =
      custody.register caller now container check := by
  rw [act, if_neg (Bool.eq_false_iff.mp idle)]

theorem act_unregister_of_idle (container : String) :
    custody.act (.unregister caller container) = custody.unregister caller container := by
  rw [act, if_neg (Bool.eq_false_iff.mp idle)]

theorem act_shutdown_of_idle {order : List Charge} (all : order.Perm custody.entries) :
    custody.act (.shutdown caller order) = (custody.shutdown caller order, []) := by
  rw [act, if_pos ⟨by rw [idle]; rfl, all⟩]

/-- A call that found no timers to stop returns, and leaves no trace. -/
theorem act_finish_of_idle :
    act { custody with removals := custody.removals ++ [⟨caller, [], none, []⟩] }
      (.finish caller) = (custody, [.returned caller none []]) := by
  have others : ∀ removal ∈ custody.removals, removal.caller ≠ caller := by
    rw [busy, List.any_eq_false] at idle
    exact fun removal member => by simpa using idle removal member
  have earlier : (custody.removals.find? fun removal =>
      removal.caller = caller && removal.charges.isEmpty) = none :=
    List.find?_eq_none.mpr fun removal member => by simp [others removal member]
  have found : finished? { custody with removals := custody.removals ++ [⟨caller, [], none, []⟩] }
      caller = some ⟨caller, [], none, []⟩ := by
    rw [finished?, List.find?_append, earlier]
    simp
  have kept : (custody.removals.filter fun removal => removal.caller ≠ caller) =
      custody.removals :=
    List.filter_eq_self.mpr fun removal member => by simpa using others removal member
  rw [act, found]
  dsimp only [finish, Option.elim_none]
  rw [List.filter_append, kept, List.filter_cons_of_neg (by simp), List.filter_nil, List.append_nil]

end Idle

/-! ## Registering -/

/-- A timer that has just been started is added, with a loop of its own. -/
theorem adds_enter (balanced : Balanced custody seen) {now : Int} {container : String}
    {check : Healthcheck} {registry : Registry} {snapshot : Snapshot}
    (registered : custody.registry.register now container check = .ok (registry, snapshot)) :
    custody.Adds (custody.enter registry container) ⟨custody.issued, container⟩ check snapshot := by
  obtain ⟨opened, absent, free, timer, start, same, shown⟩ := Registry.register_eq_ok registered
  rw [Session.start_create] at start
  split at start
  · cases start
    subst same
    constructor
    case timer => exact ⟨_, rfl, shown.symm, rfl⟩
    case snapshots =>
      intro other
      rw [shown]
      exact custody.registry.snapshot?_concat _ absent other
    case stopping => rfl
    case closed => rfl
    case calls => rfl
    case loops => rfl
    case alone =>
      exact fun loop runs =>
        balanced.container_ne_of_held opened absent free (balanced.running runs)
    case begins =>
      rw [shown]
      exact ⟨rfl, rfl, rfl, rfl⟩
  · cases start

/-- **What registering a container comes to.** It is refused for the first of the reasons in their
order, and then nothing has changed; otherwise one timer has been added. -/
theorem admits (balanced : Balanced custody seen) (now : Int) (container : String)
    {check : Healthcheck} (built : check.Built) : custody.Admits now container check := by
  have decides := custody.registry.decides_register now container built
  constructor
  case decides => exact decides
  case messages => exact custody.registry.nodup_messages container check
  case refuses =>
    intro caller idle failure
    rw [act_register_of_idle idle, register, ← decides.refused]
    cases custody.registry.register now container check with
    | error other => simp
    | ok added => simp
  case drops => exact fun moment result => rfl
  case adds =>
    intro caller idle met
    obtain ⟨⟨registry, snapshot⟩, registered⟩ := decides.accepted.mpr met
    refine ⟨⟨custody.issued, container⟩, custody.enter registry container, snapshot, rfl,
      registered, ?_, adds_enter balanced registered⟩
    rw [act_register_of_idle idle, register, registered]

/-! ## Doing things again -/

/-- A registry that is closed is not changed by closing it. -/
theorem shutdown_of_closed (balanced : Balanced custody seen)
    (closed : custody.registry.closed = true) (caller : Nat) {order : List Charge}
    (all : order.Perm custody.entries) :
    custody.shutdown caller order =
      { custody with removals := custody.removals ++ [⟨caller, [], none, []⟩] } := by
  have empty := balanced.closed closed
  have same : custody.registry.close.1 = custody.registry := by
    rw [Registry.close, ← empty, ← closed]
  rw [entries, empty] at all
  rw [shutdown, same, all.eq_nil]
  rfl

/-- Unregistering what is not registered and shutting down what is closed change nothing. -/
theorem repeats (balanced : Balanced custody seen) : custody.Repeats where
  absent caller container idle absent := by
    have unknown : custody.registry.takeOut container = none := by
      rw [Registry.takeOut, Registry.find?_eq_none_iff.mpr absent]
      rfl
    rw [act_unregister_of_idle idle, unregister, unknown]
  unregistered caller container idle := by
    rw [act_unregister_of_idle idle, unregister]
    cases taken : custody.registry.takeOut container with
    | none => exact Registry.find?_eq_none_iff.mp (Option.map_eq_none_iff.mp taken)
    | some taken =>
        obtain ⟨-, same⟩ := Registry.takeOut_eq_some taken
        simp [leave, same, Registry.containers, Registry.erase]
  shut caller order idle all actions := by
    rw [run, act_shutdown_of_idle idle all]
    have winds : (custody.shutdown caller order).Winds _ _ := winds_run rfl rfl actions
    exact ⟨winds.closed, winds.empty⟩
  again closed caller order idle all := by
    have begins : custody.act (.shutdown caller order) =
        ({ custody with removals := custody.removals ++ [⟨caller, [], none, []⟩] }, []) := by
      rw [act_shutdown_of_idle idle all, shutdown_of_closed balanced closed caller all]
    refine ⟨begins, ?_⟩
    rw [run, begins]
    dsimp only
    rw [run, act_finish_of_idle idle]
    rfl

/-- Whatever has happened to a registry, it admits containers, and what is done again changes
nothing. -/
theorem admits_run (actions : List CustodyAction) (now : Int) (container : String)
    {check : Healthcheck} (built : check.Built) :
    (empty.run actions).1.Admits now container check ∧ (empty.run actions).1.Repeats :=
  have balanced := Balanced.empty.run actions
  ⟨admits balanced now container built, repeats balanced⟩

/-- A container that is still stopping while another one runs. -/
theorem admits_run_of_stopping :
    let check : Healthcheck := ⟨["true"], 30, 5, 10, 3, true⟩
    let actions : List CustodyAction :=
      [.register 1 0 "c1" check, .register 1 0 "c2" check, .unregister 2 "c1"]
    check.Built ∧
      (empty.run actions).1.Admits 7 "c1" check ∧ (empty.run actions).1.Repeats := by
  have built : Healthcheck.Built ⟨["true"], 30, 5, 10, 3, true⟩ :=
    .inl ⟨["true"], 30, 5, 10, 3, rfl⟩
  exact ⟨built, admits_run [.register 1 0 "c1" ⟨["true"], 30, 5, 10, 3, true⟩,
    .register 1 0 "c2" ⟨["true"], 30, 5, 10, 3, true⟩, .unregister 2 "c1"] 7 "c1" built⟩

/-- Of three reasons to refuse a container, the first is told. -/
example :
    let check : Healthcheck := ⟨["true"], 30, 5, 10, 3, true⟩
    (empty.run [.register 1 0 "c1" check, .unregister 2 "c1", .shutdown 3 [],
      .register 1 7 "c1" .disabled]).2 =
        [.registered 1 ⟨0, "c1"⟩, .refused 1 (.timerNotStarted "c1" .registryClosed)] := by
  decide

end Custody

end HealthWatch
