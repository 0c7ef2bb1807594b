import HealthWatch.CommandLine.Scan
import HealthWatch.Settings

/-! # Commands

A command line names the settings file and one of four commands with its own options.
`Invocation.parse` reads it. Everything about a command line that can be refused is refused
here, before any file is read.
-/

namespace HealthWatch

/-- How the container of a probe is reached. -/
structure ExecChoice where
  /-- Whether probes run inside the container. -/
  inside : Bool
  /-- The runtime to use in place of the one in the settings. -/
  runtime : Option Bytes
  deriving DecidableEq, Repr

/-- The shells for which completions can be printed. -/
inductive Shell
  | bash
  | elvish
  | fish
  | powershell
  | zsh
  deriving DecidableEq, Repr

namespace Shell

/-- All shells, in the order in which they are listed. -/
def all : List Shell := [bash, elvish, fish, powershell, zsh]

/-- The word for a shell. -/
def word : Shell → String
  | bash => "bash"
  | elvish => "elvish"
  | fish => "fish"
  | powershell => "powershell"
  | zsh => "zsh"

/-- The shell that a word names. -/
def ofWord? (name : String) : Option Shell := all.find? (·.word = name)

end Shell

/-- What the program is asked to do. -/
inductive Command
  /-- Watch a container until told to stop. -/
  | monitor (container : String) (bundle : Bytes) (exec : ExecChoice) (descriptor : Option Int)
  /-- Run a probe once. -/
  | probe (container : String) (exec : ExecChoice) (timeout : Int) (test : List String)
  /-- Show the healthcheck of a bundle or of an annotation. -/
  | validate (bundle : Option Bytes) (payload : Option String)
  /-- Print the completions for a shell. -/
  | completion (shell : Shell)
  deriving DecidableEq, Repr

/-- One invocation of the program. -/
structure Invocation where
  settings : Bytes
  verbose : Bool
  command : Command
  deriving DecidableEq, Repr

namespace CommandLine

/-- The name of the program. -/
def program : String := "lookout"

/-- The version of the program. -/
def version : String := "0.1.0"

/-- The name under which a subcommand shows its version. -/
def programOf (subcommand : String) : String := program ++ "-" ++ subcommand

/-- The option for help. -/
def helpOption : OptionSpec := { name := "help", short := some 'h', role := .help }

/-- The option for the version. -/
def versionOption : OptionSpec := { name := "version", short := some 'V', role := .version }

/-- The option for the settings file. -/
def configOption : OptionSpec := { name := "config", short := some 'c', role := .value .path }

/-- The option for more log lines. -/
def verboseOption : OptionSpec := { name := "verbose", short := some 'v', role := .flag }

/-- The option for the identifier of a container. -/
def containerOption : OptionSpec := { name := "cid", role := .value .text }

/-- The option for the directory of a bundle. -/
def bundleOption : OptionSpec := { name := "bundle", short := some 'b', role := .value .path }

/-- The option for the text of an annotation. -/
def annotationOption : OptionSpec :=
  { name := "annotation", short := some 'a', role := .value .text }

/-- The option to probe inside the container. -/
def execOption : OptionSpec := { name := "exec", role := .flag }

/-- The option for the runtime. -/
def runtimeOption : OptionSpec := { name := "runtime", role := .value .path }

/-- The option for the descriptor of the channel to the parent; the parent can also pass it
in the environment. -/
def descriptorOption : OptionSpec where
  name := "sync-pipe-fd"
  role := .value (.number (-0x80000000) 0x7FFFFFFF)
  fallback := some "_OCI_SYNCPIPE"

/-- The option for the seconds that a probe may run. -/
def timeoutOption : OptionSpec :=
  { name := "timeout", role := .value (.number (-0x8000000000000000) 0x7FFFFFFFFFFFFFFF) }

/-- The command of a probe: all words after the end of the options. -/
def testArgument : PositionalSpec where
  name := "COMMAND"
  kind := .text
  many := true
  escaped := true

/-- The shell to print completions for. -/
def shellArgument : PositionalSpec where
  name := "SHELL"
  kind := .choice (Shell.all.map Shell.word)
  many := false
  escaped := false

/-- The grammar of the whole command line. -/
def root : Grammar where
  program := program
  options := [configOption, verboseOption, helpOption, versionOption]
  subcommands := ["monitor", "probe", "validate", "completion"]

/-- The grammar of `monitor`. -/
def monitor : Grammar where
  program := programOf "monitor"
  options :=
    [containerOption, bundleOption, execOption, runtimeOption, descriptorOption, helpOption,
      versionOption]
  required := [containerOption.name, bundleOption.name]

/-- The grammar of `probe`. -/
def probe : Grammar where
  program := programOf "probe"
  options :=
    [containerOption, execOption, runtimeOption, timeoutOption, helpOption, versionOption]
  positional := some testArgument
  required := [testArgument.name]

/-- The grammar of `validate`. -/
def validate : Grammar where
  program := programOf "validate"
  options := [bundleOption, annotationOption, helpOption, versionOption]
  exclusive := [(bundleOption.name, annotationOption.name)]
  alternatives := [(bundleOption.name, annotationOption.name)]

/-- The grammar of `completion`. -/
def completion : Grammar where
  program := programOf "completion"
  options := [helpOption, versionOption]
  positional := some shellArgument
  required := [shellArgument.name]

/-- The seconds that a probe may run unless something else is asked for. -/
def defaultTimeout : Int := 30

/-- How the arguments of a command reach the container. -/
def execChoice (given : Given) : ExecChoice where
  inside := given.has execOption.name
  runtime := given.path? runtimeOption.name

/-- The grammar of a subcommand, and the command that its arguments stand for. -/
def subcommand? (name : String) : Option (Grammar × (Given → Command)) :=
  if name = "monitor" then
    some (monitor, fun given =>
      .monitor ((given.text? containerOption.name).getD "")
        ((given.path? bundleOption.name).getD []) (execChoice given)
        (given.number? descriptorOption.name))
  else if name = "probe" then
    some (probe, fun given =>
      .probe ((given.text? containerOption.name).getD "") (execChoice given)
        ((given.number? timeoutOption.name).getD defaultTimeout)
        (given.texts testArgument.name))
  else if name = "validate" then
    some (validate, fun given =>
      .validate (given.path? bundleOption.name) (given.text? annotationOption.name))
  else if name = "completion" then
    some (completion, fun given =>
      .completion (((given.text? shellArgument.name).bind Shell.ofWord?).getD .bash))
  else none

/-- The grammar of a program whose help is shown. -/
def grammarOf (name : String) : Grammar :=
  ([monitor, probe, validate, completion].find? (·.program = name)).getD root

/-- The words after the one that asks for help: at most the name of one subcommand. -/
def helpFault : List Bytes → UsageFault
  | [] => .helpRequested root.program
  | [word] =>
      match root.subcommand? word with
      | none => .unknownSubcommand
      | some name =>
          .helpRequested (if name = Grammar.helpWord then root.program else programOf name)
  | _ => .unknownSubcommand

/-- The command that the words after the name of a subcommand stand for. -/
def readCommand (lookup : String → Option Bytes) (name : String) (words : List Bytes) :
    Except UsageFault Command :=
  match subcommand? name with
  | none => .error .unknownSubcommand
  | some (grammar, command) =>
      match Scan.words grammar {} words with
      | .error fault => .error fault
      | .ok (scan, _) => (scan.finish grammar lookup).map command

end CommandLine

open CommandLine in
/-- The invocation that the words after the name of the program stand for, with a way to look
up environment variables. -/
def Invocation.parse (lookup : String → Option Bytes) (words : List Bytes) :
    Except UsageFault Invocation := do
  let (scan, found) ← Scan.words root {} words
  match found with
  | none =>
      let scan ← scan.settle
      if scan.given.isEmpty then .error .nothingGiven else .error .missingSubcommand
  | some (name, rest) =>
      if name = Grammar.helpWord then .error (helpFault rest)
      else
        let command ← readCommand lookup name rest
        let given ← scan.finish root lookup
        .ok
          { settings := (given.path? configOption.name).getD Settings.defaultPath
            verbose := given.has verboseOption.name
            command }

end HealthWatch
