import HealthWatch.Posix.Shell
import HealthWatch.Registry.Ward
import HealthWatch.Supervisor

/-! # The command line

Gathers what an invocation can see, hands it to the supervisor and prints the reply. A
container that is to be watched is probed, one interval after the other, until the process is
ended from outside.
-/

namespace HealthWatch.Main

/-- The fault of the operating system with a number. -/
def faultOfNumber (number : Nat) (text : String) : IoFault :=
  match [IoFault.notFound, .permissionDenied, .badDescriptor, .notADirectory, .isADirectory,
      .nameTooLong].find? fun fault => fault.message.endsWith ("error " ++ toString number ++ ")") with
  | some fault => fault
  | none => .other text

/-- The fault behind a failed operation on a file. -/
def faultOf (error : IO.Error) : IoFault :=
  match error with
  | .noFileOrDirectory _ code details => faultOfNumber code.toNat details
  | .permissionDenied _ code details => faultOfNumber code.toNat details
  | .inappropriateType _ code details => faultOfNumber code.toNat details
  | .invalidArgument _ code details => faultOfNumber code.toNat details
  | other => .other (toString other)

/-- Reads a file. -/
def readFile (path : Bytes) : IO (Except IoFault Bytes) := do
  match path.text? with
  | none => pure (.error .notFound)
  | some name =>
      try
        pure (.ok (← IO.FS.readBinFile name).toList)
      catch error => pure (.error (faultOf error))

/-- The path under which a process finds one of its descriptors. -/
def descriptorPath (descriptor : Int) : String := "/dev/fd/" ++ toString descriptor

/-- The fault of a descriptor that cannot be used. -/
def descriptorFault (descriptor : Int) : IO (Option IoFault) := do
  try
    let _ ← IO.FS.Handle.mk (descriptorPath descriptor) .append
    pure none
  catch _ => pure (some .badDescriptor)

/-- The environment variables that mean something to the program. -/
def readVariables : IO (List (String × Bytes)) := do
  let names := Supervisor.notifyVariable :: CommandLine.descriptorOption.fallback.toList
  let values ← names.mapM fun name => do
    pure ((← IO.getEnv name).map fun value => (name, Bytes.ofText value))
  pure (values.filterMap id)

/-- Seconds since 1970. -/
def clock : IO Int := do
  let read (path : String) : IO String := try IO.FS.readFile path catch _ => pure ""
  pure ((Host.clock? (← read "/proc/stat") (← read "/proc/uptime")).getD 0)

/-- What an invocation can see. -/
def surroundings (environment : List (String × Bytes)) (invocation : Invocation) :
    IO Surroundings := do
  let files ← (Supervisor.filesOf invocation).mapM fun path => do
    pure (path, ← readFile path)
  let firstCommand ← readFile (Bytes.ofText "/proc/1/cmdline")
  let fault ← match invocation.command with
    | .monitor _ _ _ (some descriptor) => descriptorFault descriptor
    | _ => pure none
  pure
    { read := fun path => (files.lookup path).getD (.error .notFound)
      environment := fun name => environment.lookup name
      firstCommand := firstCommand.toOption
      programs := Posix.programs
      descriptorFault := fun _ => fault }

/-- Prints a reply and gives its exit code. -/
def answer (reply : Reply) : IO UInt32 := do
  IO.print reply.output
  match reply.failure with
  | some failure => IO.eprintln ("Error: " ++ failure.message)
  | none => pure ()
  pure (UInt32.ofNat reply.code)

/-- Probes a container after each of its intervals and writes its reports. -/
partial def watch (output : IO.FS.Handle) (executor : Executor) (container : String)
    (check : Healthcheck) (ward : Ward Unit) : IO Unit := do
  IO.sleep (UInt32.ofNat check.intervalSpan.milliseconds)
  let outcome := Probe.execute Posix.programs executor check container
  let (ward, _, handed) :=
    ward.act Sink.accepting (.tick (← clock) container (.outcome outcome))
  for message in handed do
    output.putStr (Frame.encode message.type message.payload)
  output.flush
  watch output executor container check ward

/-- Runs an invocation. -/
def run (environment : List (String × Bytes)) (invocation : Invocation) : IO UInt32 := do
  let surroundings ← surroundings environment invocation
  match invocation.command, Settings.loadOrDefault surroundings.read invocation.settings with
  | .monitor container bundle exec descriptor, .ok settings =>
      match Supervisor.prepare surroundings settings (← clock) container bundle exec
          descriptor with
      | .ok (.watch _ executor registry) =>
          let output ← IO.FS.Handle.mk (descriptorPath (descriptor.getD 1)) .append
          let delivery := Delivery.begin settings.reportQueue settings.reportTimeout ()
          let ward : Ward Unit := ⟨⟨registry, []⟩, delivery, []⟩
          match registry.find? container with
          | some timer =>
              watch output executor container timer.check (ward.callProbe container)
              pure 0
          | none => pure 0
      | .ok _ => pure 0
      | .error failure => answer (Supervisor.failed failure)
  | _, _ => answer (Supervisor.reply surroundings (← clock) invocation)

end HealthWatch.Main

open HealthWatch in
/-- Runs the program with the words after its name. -/
def main (arguments : List String) : IO UInt32 := do
  let environment ← Main.readVariables
  match Invocation.parse (fun name => environment.lookup name) (arguments.map Bytes.ofText) with
  | .error fault => Main.answer (Supervisor.usageReply fault)
  | .ok invocation => Main.run environment invocation
