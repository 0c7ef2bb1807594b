import HealthWatch.Healthcheck

/-! # Probe commands

A probe runs either as its own command or, through an OCI runtime, inside the container. The
arguments are checked before any process exists.
-/

namespace HealthWatch

/-- Where a probe runs. -/
inductive ExecMode
  /-- The command of the healthcheck runs as it is. -/
  | direct
  /-- The command runs inside the container, through a runtime. -/
  | runtime (program : Bytes)
  deriving DecidableEq, Repr

/-- What runs probes. -/
structure Executor where
  mode : ExecMode
  /-- Bytes of standard error that are kept. -/
  stderrLimit : Nat
  deriving DecidableEq, Repr

namespace Executor

/-- The bytes of standard error that are kept unless something else is asked for. -/
def defaultStderrLimit : Nat := 4096

/-- The arguments of the process that a probe of a container starts, program first. -/
def arguments (executor : Executor) (check : Healthcheck) (container : String) : List Bytes :=
  let test := check.test.map Bytes.ofText
  match executor.mode with
  | .direct => test
  | .runtime program => program :: Bytes.ofText "exec" :: Bytes.ofText container :: test

end Executor

namespace Probe

/-- The place of the first NUL byte of an argument that holds one. -/
def nulPlace? (argument : Bytes) : Option Nat := argument.findIdx? (· = 0)

/-- Why no process can be started with the arguments, if none can. -/
def argumentFault? : List Bytes → Option ProbeFault
  | [] => some .emptyCommand
  | arguments => (arguments.findSome? nulPlace?).map .nulInArgument

end Probe

end HealthWatch
