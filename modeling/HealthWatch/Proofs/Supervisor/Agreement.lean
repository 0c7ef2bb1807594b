import HealthWatch.Proofs.Healthcheck.Bundle
import HealthWatch.Proofs.Timer.Session
import HealthWatch.Supervisor

/-! # Checking a bundle and watching it agree

`validate` and `monitor` look at the settings and at the bundle in the same way. A monitor that is
not left to systemd fails before it opens its sink exactly when the check fails, has nothing to do
exactly when the check finds nothing, and registers exactly the healthcheck that the check finds
(`Supervisor.agrees`).
-/

namespace HealthWatch

/-! ## What is discovered can be registered -/

/-- A new registry takes any healthcheck that can be run, and then holds its timer alone. -/
theorem Registry.register_empty (now : Int) (container : String) {check : Healthcheck}
    (runnable : check.runnable = true) :
    ∃ timer, (Timer.create container check).start now = .ok timer ∧
      empty.register now container check =
        .ok (⟨[(container, timer)], [], false⟩, timer.snapshot) := by
  have start := Session.start_create container check now
  rw [if_pos runnable] at start
  refine ⟨_, start, ?_⟩
  rw [register, start]
  rfl

/-! ## What the monitor does on the way -/

namespace Supervisor

/-- What both commands are given. -/
structure Request where
  settings : Bytes
  verbose : Bool
  bundle : Bytes
  /-- An annotation beside the bundle, which the check leaves alone. -/
  annotation : Option String
  container : String
  exec : ExecChoice
  descriptor : Option Int

namespace Request

variable (request : Request)

def validating : Invocation :=
  ⟨request.settings, request.verbose, .validate (some request.bundle) request.annotation⟩

def monitoring : Invocation :=
  ⟨request.settings, request.verbose,
    .monitor request.container request.bundle request.exec request.descriptor⟩

variable (surroundings : Surroundings) (settings : Settings) (now : Int)

/-- What the check finds, once the settings are there. -/
def inspection : Except Failure Inspection :=
  inspect surroundings settings (some request.bundle) request.annotation

def discovery : Except Failure (Option Healthcheck) :=
  Bundle.discover surroundings.read request.bundle settings.annotationKey

/-- Whether the monitor leaves the container to systemd. -/
def managed : Bool := settings.preferSystemd && systemdRuns surroundings

/-- What the monitor does until it watches, once the settings are there. -/
def undertaking : Undertaking Plan :=
  undertake surroundings settings now request.container request.bundle request.exec
    request.descriptor

/-- What the monitor is going to do. -/
def plan : Except Failure Plan := (request.undertaking surroundings settings now).result

/-- What the monitor has done until then, in its order. -/
def deeds : List Deed := (request.undertaking surroundings settings now).deeds

end Request

open Request (managed)

/-- How a monitor fares that is not left to systemd: what it discovers, and what it undertakes. -/
inductive Course (surroundings : Surroundings) (settings : Settings) (now : Int)
    (request : Request) : Except Failure (Option Healthcheck) → Undertaking Plan → Prop
  | undiscovered (failure : Failure) :
      Course surroundings settings now request (.error failure)
        ⟨[.readsBundle request.bundle], .error failure⟩
  | nothing :
      Course surroundings settings now request (.ok none)
        ⟨[.readsBundle request.bundle], .ok .nothingToWatch⟩
  /-- The descriptor of the sink cannot be used, so nothing is registered. -/
  | unopened (check : Healthcheck) {number : Int} {fault : IoFault}
      (given : request.descriptor = some number)
      (faulty : surroundings.descriptorFault number = some fault) :
      Course surroundings settings now request (.ok (some check))
        ⟨[.readsBundle request.bundle, .opensSink request.descriptor],
          .error (.settingsInvalid (.descriptorNotOpen number fault))⟩
  /-- The sink is open. The registration succeeds, and is the only one. -/
  | watching {check : Healthcheck} {timer : Timer}
      (opened : request.descriptor.bind surroundings.descriptorFault = none)
      (started : (Timer.create request.container check).start now = .ok timer) :
      Course surroundings settings now request (.ok (some check))
        ⟨[.readsBundle request.bundle, .opensSink request.descriptor,
            .registers request.container check],
          .ok (.watch (request.descriptor.map fun _ => ⟨false⟩) (request.exec.executor settings)
            ⟨[(request.container, timer)], [], false⟩)⟩

/-! ## Undertakings -/

namespace Undertaking

variable {α β : Type} {first : Undertaking α}

/-- What follows a success is done behind it. -/
theorem bind_of_ok {value : α} (next : α → Undertaking β) (done : first.result = .ok value) :
    first >>= next = ⟨first.deeds ++ (next value).deeds, (next value).result⟩ := by
  simp only [bind, done]

/-- Nothing is done behind a failure. -/
theorem bind_of_error {failure : Failure} (next : α → Undertaking β)
    (failed : first.result = .error failure) : first >>= next = ⟨first.deeds, .error failure⟩ := by
  simp only [bind, failed]

end Undertaking

section Courses

variable {surroundings : Surroundings} {settings : Settings} {now : Int} {request : Request}

/-- A sink is open unless its descriptor has a fault. -/
theorem openSink_of_open {descriptor : Option Int}
    (opened : descriptor.bind surroundings.descriptorFault = none) :
    (openSink surroundings descriptor).result = .ok (descriptor.map fun _ => ⟨false⟩) := by
  cases descriptor with
  | none => rfl
  | some number =>
      have sound : surroundings.descriptorFault number = none := opened
      simp only [openSink, sound]
      rfl

/-- A descriptor that is not open is no sink. -/
theorem openSink_of_fault {number : Int} {fault : IoFault}
    (faulty : surroundings.descriptorFault number = some fault) :
    (openSink surroundings (some number)).result =
      .error (.settingsInvalid (.descriptorNotOpen number fault)) := by
  simp only [openSink, faulty]
  rfl

/-- A healthcheck that can be run is registered in its own registry, with a timer that has been
started. -/
theorem register_of_runnable (now : Int) (container : String) {check : Healthcheck}
    (runnable : check.runnable = true) :
    ∃ timer, (Timer.create container check).start now = .ok timer ∧
      (register now container check).result = .ok ⟨[(container, timer)], [], false⟩ := by
  obtain ⟨timer, started, registered⟩ := Registry.register_empty now container runnable
  refine ⟨timer, started, ?_⟩
  rw [register]
  dsimp only
  rw [registered]
  rfl

/-- A monitor that is not left to systemd does one thing after the other, and stops where one of
them fails. -/
theorem course (now : Int) (request : Request)
    (unmanaged : managed surroundings settings = false) :
    Course surroundings settings now request (request.discovery surroundings settings)
      (request.undertaking surroundings settings now) := by
  have notLeft : ¬(settings.preferSystemd && systemdRuns surroundings) = true :=
    Bool.eq_false_iff.mp unmanaged
  have discovers : (readBundle surroundings settings request.bundle).result =
      request.discovery surroundings settings := rfl
  rw [Request.undertaking, undertake, if_neg notLeft]
  cases discovered : request.discovery surroundings settings with
  | error failure =>
      rw [Undertaking.bind_of_error _ (discovers.trans discovered)]
      exact .undiscovered failure
  | ok found =>
      rw [Undertaking.bind_of_ok _ (discovers.trans discovered)]
      cases found with
      | none => exact .nothing
      | some check =>
          dsimp only
          cases fault : request.descriptor.bind surroundings.descriptorFault with
          | some fault =>
              obtain ⟨number, given, faulty⟩ := Option.bind_eq_some_iff.mp fault
              have unopened := openSink_of_fault faulty
              rw [← given] at unopened
              rw [Undertaking.bind_of_error _ unopened]
              exact .unopened check given faulty
          | none =>
              obtain ⟨timer, started, registered⟩ := register_of_runnable now request.container
                (Bundle.made_of_discover discovered).runnable
              rw [Undertaking.bind_of_ok _ (openSink_of_open fault)]
              dsimp only
              rw [Undertaking.bind_of_ok _ registered]
              exact .watching fault started

section Deeds

variable {found : Except Failure (Option Healthcheck)} {undertaking : Undertaking Plan}

/-- A monitor that is not left to systemd reads the bundle first. -/
theorem Course.reads (fares : Course surroundings settings now request found undertaking) :
    .readsBundle request.bundle ∈ undertaking.deeds := by
  cases fares <;> exact List.mem_cons_self

/-- The course is decided by what is discovered and, if a sink is opened, by its descriptor. -/
theorem Course.unique {other : Surroundings} {others : Undertaking Plan}
    (here : Course surroundings settings now request found undertaking)
    (there : Course other settings now request found others)
    (faults : .opensSink request.descriptor ∈ undertaking.deeds →
      request.descriptor.bind other.descriptorFault =
        request.descriptor.bind surroundings.descriptorFault) :
    others = undertaking := by
  cases here with
  | undiscovered failure =>
      cases there
      rfl
  | nothing =>
      cases there
      rfl
  | unopened check given faulty =>
      have fault := faults (List.mem_cons_of_mem _ List.mem_cons_self)
      rw [given, Option.bind_some, Option.bind_some, faulty] at fault
      cases there with
      | unopened _ named other =>
          cases named.symm.trans given
          cases other.symm.trans fault
          rfl
      | watching opened started =>
          rw [given, Option.bind_some, fault] at opened
          cases opened
  | watching opened started =>
      have fault := faults (List.mem_cons_of_mem _ List.mem_cons_self)
      rw [opened] at fault
      cases there with
      | unopened _ named other =>
          rw [named, Option.bind_some, other] at fault
          cases fault
      | watching opened again =>
          cases again.symm.trans started
          rfl

end Deeds

/-- What the monitor does depends on nothing but what it looks at on the way. -/
theorem undertaking_congr {other : Surroundings}
    (environment : other.environment = surroundings.environment)
    (firstCommand : other.firstCommand = surroundings.firstCommand)
    (content : .readsBundle request.bundle ∈ request.deeds surroundings settings now →
      other.read (Bundle.configPath request.bundle) =
        surroundings.read (Bundle.configPath request.bundle))
    (faults : .opensSink request.descriptor ∈ request.deeds surroundings settings now →
      request.descriptor.bind other.descriptorFault =
        request.descriptor.bind surroundings.descriptorFault) :
    request.undertaking other settings now = request.undertaking surroundings settings now := by
  have systemd : systemdRuns other = systemdRuns surroundings := by
    rw [systemdRuns, systemdRuns, environment, firstCommand]
  have manages : managed other settings = managed surroundings settings := by
    rw [managed, managed, systemd]
  cases unmanaged : managed surroundings settings with
  | true =>
      rw [managed] at unmanaged
      rw [Request.undertaking, Request.undertaking, undertake, undertake, systemd,
        if_pos unmanaged, if_pos unmanaged]
  | false =>
      have here := course now request unmanaged
      have there := course now request (manages.trans unmanaged)
      have same : request.discovery other settings = request.discovery surroundings settings := by
        rw [Request.discovery, Request.discovery, Bundle.discover, Bundle.discover,
          FileReader.text, FileReader.text, content here.reads]
      rw [same] at there
      exact here.unique there faults

/-- A monitor that is left to systemd does nothing, not even read the bundle. -/
theorem undertaking_of_managed (preferred : settings.preferSystemd = true)
    (runs : systemdRuns surroundings = true) :
    request.undertaking surroundings settings now = ⟨[], .ok .leftToSystemd⟩ := by
  rw [Request.undertaking, undertake, preferred, runs]
  rfl

/-- What the check finds is what is discovered in the bundle. -/
theorem inspection_eq : request.inspection surroundings settings =
    match request.discovery surroundings settings with
    | .error failure => .error failure
    | .ok (some check) => .ok (.healthcheck check)
    | .ok none => .ok (.nothingIn request.bundle) := by
  unfold Request.inspection inspect Request.discovery
  rfl

end Courses

/-! ## Replies -/

/-- What is printed on success is never what is printed for a failure. -/
theorem printed_ne_failed (code : Nat) (output : String) (failure : Failure) :
    printed code output ≠ failed failure := by
  intro same
  cases congrArg Reply.failure same

/-- A healthcheck is not shown as the lack of one. -/
theorem listing_ne (check : Healthcheck) (bundle : Bytes) :
    check.listing ≠ (Inspection.nothingIn bundle).text := by
  intro same
  have first := congrArg (fun text : String => text.toList.head?) same
  have shown : check.listing.toList.head? = some 't' := by
    rw [Healthcheck.listing, String.toList_ofList]
    rfl
  have none : (Inspection.nothingIn bundle).text.toList.head? = some 'N' := by
    have start : "No healthcheck configured in ".toList.head? = some 'N' := by decide
    have text : (Inspection.nothingIn bundle).text =
        "No healthcheck configured in " ++ bundle.display ++ "\n" := rfl
    rw [text, String.toList_append, String.toList_append, List.append_assoc, List.head?_append,
      start]
    rfl
  rw [shown, none] at first
  cases first

section Replies

variable {surroundings : Surroundings} {settings : Settings} {now : Int} {request : Request}

/-- Both commands tell the same of settings that cannot be loaded. -/
theorem reply_of_bad {failure : Failure}
    (bad : Settings.loadOrDefault surroundings.read request.settings = .error failure) :
    reply surroundings now request.validating = failed failure ∧
      reply surroundings now request.monitoring = failed failure := by
  constructor
  · rw [reply, Request.validating]
    dsimp only
    rw [withSettings, bad]
  · rw [reply, Request.monitoring]
    dsimp only
    rw [withSettings, bad]

variable (loaded : Settings.loadOrDefault surroundings.read request.settings = .ok settings)

include loaded

/-- The check prints its inspection, or why there is none. -/
theorem reply_validating : reply surroundings now request.validating =
    match request.inspection surroundings settings with
    | .error failure => failed failure
    | .ok inspection => printed 0 inspection.text := by
  rw [reply, Request.validating]
  dsimp only
  rw [withSettings, loaded, Request.inspection]
  dsimp only
  cases inspect surroundings settings (some request.bundle) request.annotation <;> rfl

/-- The monitor prints nothing until it ends, or why it cannot watch. -/
theorem reply_monitoring : reply surroundings now request.monitoring =
    match request.plan surroundings settings now with
    | .error failure => failed failure
    | .ok _ => printed 0 "" := by
  have planned : prepare surroundings settings now request.container request.bundle request.exec
      request.descriptor = request.plan surroundings settings now := rfl
  rw [reply, Request.monitoring]
  dsimp only
  rw [withSettings, loaded]
  dsimp only
  rw [planned]
  cases request.plan surroundings settings now <;> rfl

section Unmanaged

variable (unmanaged : managed surroundings settings = false)

include unmanaged

/-- The check fails exactly when the monitor fails before it opens its sink. -/
theorem failed_iff (failure : Failure) :
    reply surroundings now request.validating = failed failure ↔
      reply surroundings now request.monitoring = failed failure ∧
        request.deeds surroundings settings now = [.readsBundle request.bundle] := by
  have course := course now request unmanaged
  rw [reply_validating loaded, reply_monitoring loaded, inspection_eq]
  rw [Request.plan, Request.deeds]
  generalize request.discovery surroundings settings = discovered at course ⊢
  generalize request.undertaking surroundings settings now = undertaking at course ⊢
  cases course with
  | undiscovered other => exact ⟨fun same => ⟨same, rfl⟩, And.left⟩
  | nothing =>
      constructor
      · exact fun same => absurd same (printed_ne_failed _ _ _)
      · exact fun both => absurd both.1 (printed_ne_failed _ _ _)
  | unopened check given faulty =>
      constructor
      · exact fun same => absurd same (printed_ne_failed _ _ _)
      · intro both
        cases both.2
  | watching opened started =>
      constructor
      · exact fun same => absurd same (printed_ne_failed _ _ _)
      · intro both
        cases both.2

/-- The check finds nothing exactly when the monitor ends without opening its sink. -/
theorem nothing_iff :
    reply surroundings now request.validating =
        printed 0 (Inspection.nothingIn request.bundle).text ↔
      reply surroundings now request.monitoring = printed 0 "" ∧
        request.deeds surroundings settings now = [.readsBundle request.bundle] := by
  have course := course now request unmanaged
  rw [reply_validating loaded, reply_monitoring loaded, inspection_eq]
  rw [Request.plan, Request.deeds]
  generalize request.discovery surroundings settings = discovered at course ⊢
  generalize request.undertaking surroundings settings now = undertaking at course ⊢
  have notShown (check : Healthcheck) : printed 0 (Inspection.healthcheck check).text ≠
      printed 0 (Inspection.nothingIn request.bundle).text :=
    fun same => listing_ne check request.bundle (congrArg Reply.output same)
  cases course with
  | undiscovered other =>
      constructor
      · exact fun same => absurd same.symm (printed_ne_failed _ _ _)
      · exact fun both => absurd both.1.symm (printed_ne_failed _ _ _)
  | nothing => exact ⟨fun _ => ⟨rfl, rfl⟩, fun _ => rfl⟩
  | unopened check given faulty =>
      constructor
      · exact fun same => absurd same (notShown check)
      · intro both
        cases both.2
  | watching opened started =>
      constructor
      · exact fun same => absurd same (notShown _)
      · intro both
        cases both.2

end Unmanaged

end Replies

/-! ## Watching what was found -/

/-- A monitor that goes on to open its sink and, when this succeeds, registers a healthcheck and
watches with its timer alone. -/
structure Watches (surroundings : Surroundings) (settings : Settings) (now : Int)
    (request : Request) (check : Healthcheck) : Prop where
  /-- A descriptor that cannot be used is the end of it. -/
  unopened : ∀ number fault, request.descriptor = some number →
    surroundings.descriptorFault number = some fault →
      request.undertaking surroundings settings now =
        ⟨[.readsBundle request.bundle, .opensSink request.descriptor],
          .error (.settingsInvalid (.descriptorNotOpen number fault))⟩
  opened : request.descriptor.bind surroundings.descriptorFault = none →
    ∃ timer, (Timer.create request.container check).start now = .ok timer ∧
      request.undertaking surroundings settings now =
        ⟨[.readsBundle request.bundle, .opensSink request.descriptor,
            .registers request.container check],
          .ok (.watch (request.descriptor.map fun _ => ⟨false⟩) (request.exec.executor settings)
            ⟨[(request.container, timer)], [], false⟩)⟩

section Watching

variable {surroundings : Surroundings} {settings : Settings} {now : Int} {request : Request}
  (unmanaged : managed surroundings settings = false)

include unmanaged

/-- A monitor that discovers a healthcheck goes on to open its sink and to watch. -/
theorem watches_of_discovery {check : Healthcheck}
    (discovered : request.discovery surroundings settings = .ok (some check)) :
    Watches surroundings settings now request check := by
  have fares := course now request unmanaged
  rw [discovered] at fares
  constructor
  case unopened =>
    intro number fault given faulty
    exact (Course.unopened check given faulty).unique fares fun _ => rfl
  case opened =>
    intro opened
    generalize request.undertaking surroundings settings now = undertaking at fares ⊢
    cases fares with
    | unopened _ given faulty =>
        rw [given, Option.bind_some, faulty] at opened
        cases opened
    | watching opened started => exact ⟨_, started, rfl⟩

/-- The check finds a healthcheck exactly when the monitor, whatever its sink is, goes on to open
it and, when it is open, registers this healthcheck. -/
theorem found_iff (check : Healthcheck) :
    request.inspection surroundings settings = .ok (.healthcheck check) ↔
      ∀ descriptor descriptorFault,
        Watches { surroundings with descriptorFault } settings now { request with descriptor }
          check := by
  rw [inspection_eq]
  constructor
  · intro found descriptor descriptorFault
    have there : managed { surroundings with descriptorFault } settings = false := unmanaged
    refine watches_of_discovery there ?_
    have same : Request.discovery { request with descriptor }
        { surroundings with descriptorFault } settings =
          request.discovery surroundings settings := rfl
    rw [same]
    generalize request.discovery surroundings settings = discovered at found ⊢
    rcases discovered with failure | _ | other <;> cases found
    rfl
  · intro watches
    -- The standard output is always open, so the monitor registers what it found.
    obtain ⟨timer, started, undertaken⟩ := (watches none surroundings.descriptorFault).opened rfl
    have fares : Course surroundings settings now { request with descriptor := none }
        (request.discovery surroundings settings) _ := course now _ unmanaged
    rw [undertaken] at fares
    generalize request.discovery surroundings settings = discovered at fares ⊢
    cases fares
    rfl

end Watching

/-- Both commands about one bundle, with settings that were loaded. -/
structure Agreement (surroundings : Surroundings) (settings : Settings) (now : Int)
    (request : Request) : Prop where
  /-- A monitor that is left to systemd ends without looking at the bundle or at its sink. -/
  left : settings.preferSystemd = true → systemdRuns surroundings = true →
    reply surroundings now request.monitoring = printed 0 "" ∧
      ∀ read descriptorFault,
        request.undertaking { surroundings with read, descriptorFault } settings now =
          ⟨[], .ok .leftToSystemd⟩
  /-- Any other monitor discovers, opens and registers in this order, up to the first failure. -/
  course : managed surroundings settings = false →
    Course surroundings settings now request (request.discovery surroundings settings)
      (request.undertaking surroundings settings now)
  /-- The monitor depends on nothing but what it looks at on the way. -/
  alone : ∀ other : Surroundings, other.environment = surroundings.environment →
    other.firstCommand = surroundings.firstCommand →
    (.readsBundle request.bundle ∈ request.deeds surroundings settings now →
      other.read (Bundle.configPath request.bundle) =
        surroundings.read (Bundle.configPath request.bundle)) →
    (.opensSink request.descriptor ∈ request.deeds surroundings settings now →
      request.descriptor.bind other.descriptorFault =
        request.descriptor.bind surroundings.descriptorFault) →
    request.undertaking other settings now = request.undertaking surroundings settings now
  /-- The monitor fails with what keeps it from a plan, and with nothing else. -/
  tells : reply surroundings now request.monitoring =
    match request.plan surroundings settings now with
    | .error failure => failed failure
    | .ok _ => printed 0 ""
  /-- The check fails exactly when the monitor fails before it opens its sink. -/
  fails : managed surroundings settings = false → ∀ failure,
    reply surroundings now request.validating = failed failure ↔
      reply surroundings now request.monitoring = failed failure ∧
        request.deeds surroundings settings now = [.readsBundle request.bundle]
  /-- The check says that there is nothing exactly when the monitor ends and opens no sink. -/
  nothing : managed surroundings settings = false →
    (reply surroundings now request.validating =
        printed 0 (Inspection.nothingIn request.bundle).text ↔
      reply surroundings now request.monitoring = printed 0 "" ∧
        request.deeds surroundings settings now = [.readsBundle request.bundle])
  /-- The check finds a healthcheck exactly when the monitor, whatever its sink is, goes on to open
  it and, when it is open, registers this healthcheck. -/
  finds : managed surroundings settings = false → ∀ check,
    request.inspection surroundings settings = .ok (.healthcheck check) ↔
      ∀ descriptor descriptorFault,
        Watches { surroundings with descriptorFault } settings now { request with descriptor }
          check
  prints : ∀ check, request.inspection surroundings settings = .ok (.healthcheck check) →
    reply surroundings now request.validating = printed 0 check.listing

/-- Both commands about one bundle, whatever the settings file holds. -/
structure Agrees (surroundings : Surroundings) (now : Int) (request : Request) : Prop where
  badSettings : ∀ failure,
    Settings.loadOrDefault surroundings.read request.settings = .error failure →
      reply surroundings now request.validating = failed failure ∧
        reply surroundings now request.monitoring = failed failure
  goodSettings : ∀ settings,
    Settings.loadOrDefault surroundings.read request.settings = .ok settings →
      Agreement surroundings settings now request

/-- With settings that were loaded, both commands find the same in a bundle. -/
theorem agreement {surroundings : Surroundings} {settings : Settings} {now : Int}
    {request : Request}
    (loaded : Settings.loadOrDefault surroundings.read request.settings = .ok settings) :
    Agreement surroundings settings now request where
  left preferred runs := by
    have left : request.undertaking surroundings settings now = ⟨[], .ok .leftToSystemd⟩ :=
      undertaking_of_managed preferred runs
    refine ⟨?_, fun read descriptorFault => undertaking_of_managed preferred runs⟩
    rw [reply_monitoring loaded, Request.plan, left]
  course := course now request
  alone other := undertaking_congr
  tells := reply_monitoring loaded
  fails := failed_iff loaded
  nothing := nothing_iff loaded
  finds := found_iff
  prints check found := by
    rw [reply_validating loaded, found]
    rfl

/-- Checking a bundle tells what watching it comes to, whatever the files hold. -/
theorem agrees (surroundings : Surroundings) (now : Int) (request : Request) :
    Agrees surroundings now request :=
  ⟨fun _ => reply_of_bad, fun _ => agreement⟩

end Supervisor

end HealthWatch
