import HealthWatch.CommandLine.Completion
import HealthWatch.Healthcheck.Bundle
import HealthWatch.Host
import HealthWatch.Probe.Execute
import HealthWatch.Registry
import HealthWatch.Report.Channel

/-! # The supervisor

One invocation of the program, as a function of everything that it can see: files, environment
variables, open descriptors, the first process of the host, and what programs do when they are
run. `Supervisor.inspect` and `Supervisor.prepare` are the decisions behind `validate` and
`monitor`; both read settings and bundle in the same way.
-/

namespace HealthWatch

/-- What the program can see. -/
structure Surroundings where
  read : FileReader
  environment : String → Option Bytes
  /-- The command line of the first process of the host, if it can be read. -/
  firstCommand : Option Bytes
  programs : Programs
  /-- The fault of a descriptor that is not open. -/
  descriptorFault : Int → Option IoFault

/-- What somebody who called the program gets to see. -/
structure Reply where
  code : Nat
  output : String
  /-- The failure that is named on the standard error. -/
  failure : Option Failure
  deriving DecidableEq, Repr

/-- What runs the probes that are wanted, given the settings. -/
def ExecChoice.executor (choice : ExecChoice) (settings : Settings) : Executor where
  mode :=
    if choice.inside then .runtime (choice.runtime.getD settings.runtime) else .direct
  stderrLimit := settings.stderrLimit

namespace Supervisor

/-- The environment variable with the notification socket of a service manager. -/
def notifyVariable : String := "NOTIFY_SOCKET"

/-- Whether systemd manages the host. -/
def systemdRuns (surroundings : Surroundings) : Bool :=
  Host.hasSystemd ((surroundings.environment notifyVariable).bind Bytes.text?)
    surroundings.firstCommand

/-- What `validate` finds. -/
inductive Inspection
  | healthcheck (check : Healthcheck)
  | nothingIn (bundle : Bytes)
  deriving DecidableEq, Repr

/-- Finds the healthcheck of a bundle or of an annotation. -/
def inspect (surroundings : Surroundings) (settings : Settings) (bundle : Option Bytes)
    (payload : Option String) : Except Failure Inspection :=
  match bundle, payload with
  | some bundle, _ =>
      match Bundle.discover surroundings.read bundle settings.annotationKey with
      | .error failure => .error failure
      | .ok (some check) => .ok (.healthcheck check)
      | .ok none => .ok (.nothingIn bundle)
  | none, some payload => (Annotations.parse payload).map .healthcheck
  | none, none => .error (.healthcheckInvalid .noSource)

/-- What `validate` prints. -/
def Inspection.text : Inspection → String
  | .healthcheck check => check.listing
  | .nothingIn bundle => "No healthcheck configured in " ++ bundle.display ++ "\n"

/-- What `monitor` is going to do. -/
inductive Plan
  /-- The service manager of the host runs healthchecks. -/
  | leftToSystemd
  | nothingToWatch
  /-- Run the probes of a registry that holds one started timer, and report to a channel, or
  to the standard output when there is none. -/
  | watch (channel : Option Channel) (executor : Executor) (registry : Registry)
  deriving DecidableEq, Repr

/-- Something that `monitor` does to find out what it has to do. -/
inductive Deed
  | readsBundle (bundle : Bytes)
  | opensSink (descriptor : Option Int)
  | registers (container : String) (check : Healthcheck)
  deriving DecidableEq, Repr

/-- Deeds in their order, and what they have come to. The last of them may have failed. -/
structure Undertaking (α : Type) where
  deeds : List Deed
  result : Except Failure α

instance : Monad Undertaking where
  pure value := ⟨[], .ok value⟩
  bind first next :=
    match first.result with
    | .ok value => ⟨first.deeds ++ (next value).deeds, (next value).result⟩
    | .error failure => ⟨first.deeds, .error failure⟩

/-- Looks for the healthcheck of a bundle. -/
def readBundle (surroundings : Surroundings) (settings : Settings) (bundle : Bytes) :
    Undertaking (Option Healthcheck) :=
  ⟨[.readsBundle bundle], Bundle.discover surroundings.read bundle settings.annotationKey⟩

/-- Opens the channel on a descriptor, if one is given. -/
def openSink (surroundings : Surroundings) (descriptor : Option Int) :
    Undertaking (Option Channel) where
  deeds := [.opensSink descriptor]
  result :=
    match descriptor with
    | none => .ok none
    | some number => (Channel.open? number (surroundings.descriptorFault number)).map some

/-- Registers a healthcheck in a registry of its own, which starts its timer. -/
def register (now : Int) (container : String) (check : Healthcheck) : Undertaking Registry :=
  ⟨[.registers container check], (Registry.empty.register now container check).map Prod.fst⟩

/-- What `monitor` does until it watches. The timer is started at the moment `now`. -/
def undertake (surroundings : Surroundings) (settings : Settings) (now : Int)
    (container : String) (bundle : Bytes) (exec : ExecChoice) (descriptor : Option Int) :
    Undertaking Plan :=
  if settings.preferSystemd && systemdRuns surroundings then pure .leftToSystemd
  else do
    match ← readBundle surroundings settings bundle with
    | none => pure .nothingToWatch
    | some check =>
        let channel ← openSink surroundings descriptor
        let registry ← register now container check
        pure (.watch channel (exec.executor settings) registry)

/-- Decides what `monitor` does, and starts the timer at the moment `now`. -/
def prepare (surroundings : Surroundings) (settings : Settings) (now : Int)
    (container : String) (bundle : Bytes) (exec : ExecChoice) (descriptor : Option Int) :
    Except Failure Plan :=
  (undertake surroundings settings now container bundle exec descriptor).result

/-- The outcome of a probe that is run once. Only its timeout matters. -/
def probeOnce (surroundings : Surroundings) (settings : Settings) (container : String)
    (exec : ExecChoice) (timeout : Int) (test : List String) : Except Failure Outcome :=
  match Healthcheck.ofValues test 1 timeout 0 0 with
  | .error fault => .error (.healthcheckInvalid fault)
  | .ok check =>
      .ok (Probe.execute surroundings.programs (exec.executor settings) check container)

/-- What `probe` prints. -/
def outcomeText (outcome : Outcome) : String :=
  (match outcome with
    | .completed code => "exit code: " ++ toString code
    | .infrastructure reason => "probe failed to run: " ++ reason) ++
    "\nresult: " ++ (if outcome.passed then "passed" else "failed") ++ "\n"

/-- The reply to an invocation that failed. -/
def failed (failure : Failure) : Reply := ⟨1, "", some failure⟩

/-- The reply to an invocation that printed something. -/
def printed (code : Nat) (output : String) : Reply := ⟨code, output, none⟩

/-- The reply of an action that needs the settings, or the failure to load them. -/
def withSettings (surroundings : Surroundings) (path : Bytes)
    (action : Settings → Except Failure Reply) : Reply :=
  match Settings.loadOrDefault surroundings.read path with
  | .error failure => failed failure
  | .ok settings =>
      match action settings with
      | .error failure => failed failure
      | .ok reply => reply

/-- The reply to an invocation. `monitor` is told to stop before its first interval is over. -/
def reply (surroundings : Surroundings) (now : Int) (invocation : Invocation) : Reply :=
  match invocation.command with
  | .completion shell => printed 0 (CommandLine.completions shell)
  | .validate bundle payload =>
      withSettings surroundings invocation.settings fun settings =>
        (inspect surroundings settings bundle payload).map fun inspection =>
          printed 0 inspection.text
  | .probe container exec timeout test =>
      withSettings surroundings invocation.settings fun settings =>
        (probeOnce surroundings settings container exec timeout test).map fun outcome =>
          printed (outcome.exitCode % 256).toNat (outcomeText outcome)
  | .monitor container bundle exec descriptor =>
      withSettings surroundings invocation.settings fun settings =>
        (prepare surroundings settings now container bundle exec descriptor).map fun _ =>
          printed 0 ""

/-- The files that an invocation may read. -/
def filesOf (invocation : Invocation) : List Bytes :=
  match invocation.command with
  | .completion _ => []
  | .validate bundle _ => invocation.settings :: (bundle.map Bundle.configPath).toList
  | .probe _ _ _ _ => [invocation.settings]
  | .monitor _ bundle _ _ => [invocation.settings, Bundle.configPath bundle]

/-- The reply to a command line that is no invocation: what was asked for, or a refusal. -/
def usageReply : CommandLine.UsageFault → Reply
  | .helpRequested program => printed 0 (CommandLine.grammarOf program).help
  | .versionRequested program => printed 0 (program ++ " " ++ CommandLine.version ++ "\n")
  | _ => printed 2 ""

/-- The reply to the words after the name of the program. -/
def run (surroundings : Surroundings) (now : Int) (words : List Bytes) : Reply :=
  match Invocation.parse surroundings.environment words with
  | .error fault => usageReply fault
  | .ok invocation => reply surroundings now invocation

end Supervisor

end HealthWatch
