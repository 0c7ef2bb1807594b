import HealthWatch.Posix.Formula
import HealthWatch.Posix.Process
import HealthWatch.Probe.Execute

/-! # The shell and the programs of a system

`Process.run` runs a script, `programs` any command line: a utility, the shell with a script,
or a program that does not exist. Every function that runs something takes a bound on the
number of steps; a script that uses them up counts as one that never ends.
-/

namespace HealthWatch.Posix

/-- What a command name leads to. -/
inductive Program
  | utility (utility : Utility)
  | scheduler (scheduler : Scheduler)
  | shell
  | directory
  | missing

namespace Program

/-- The program with a name, in one of the directories for programs. -/
def named (name : String) : Program :=
  if Utility.shellNames.contains name then .shell
  else
    match Utility.named? name, Scheduler.table.lookup name with
    | some found, _ => .utility found
    | none, some found => .scheduler found
    | none, none => .missing

/-- What a command leads to: a path if there is a slash in it, else a name. -/
def find (command : List Char) : Program :=
  if command.contains '/' then
    match Utility.afterDirectory? command with
    | some name => if name.contains '/' then .missing else named (String.ofList name)
    | none =>
        if Utility.directories.contains (String.ofList command) then .directory else .missing
  else named (String.ofList command)

end Program

namespace Process

/-- The commands that only arrange something inside the shell. -/
def arrangements : List String := [":", "ulimit", "umask"]

/-- The status that a text asks for, in the range that a process can end with. -/
def statusOf? (text : List Char) : Option Nat := (Signal.number? text).map (· % 256)

/-- A command that the shell carries out itself. -/
def builtin? (process : Process) (name : String) (arguments : List (List Char)) :
    Option Process :=
  if arrangements.contains name then some { process with status := 0 }
  else if name = "exit" then
    match arguments with
    | [] => some (process.exit process.status)
    | argument :: _ =>
        match statusOf? argument with
        | some status => some (process.exit status)
        | none =>
            some ((process.complain ("exit: Illegal number: ".toList ++ argument) 2).exit 2)
  else if name = "kill" then some (process.kill arguments)
  else if name = "trap" then some (process.trap arguments)
  else if name = "wait" then some (process.wait arguments)
  else if name = "set" then some (process.setOptions arguments)
  else if name = "export" then some (process.exportAll arguments)
  else if name = "unset" then some (process.unset arguments)
  else if name = "break" then some (process.leave .stop arguments)
  else if name = "continue" then some (process.leave .next arguments)
  else if name = "return" then some (process.leave .back arguments)
  else if name = "cd" then some (process.enter arguments)
  else if name = "read" then some (process.readLine arguments)
  else if name = "test" then
    some (process.judge name.toList (Utility.testOf Utility.names arguments))
  else if name = "[" then
    some (process.judge name.toList (Utility.bracketOf Utility.names arguments))
  else if name = "echo" then some (process.runUtility (Utility.echo true) arguments)
  else if name = "shift" then some (process.shift arguments)
  else none

/-- Whether a list of writes comes first in time; the order of others is kept. -/
def inTime (writes : List Write) : List Write :=
  writes.mergeSort fun write other => write.time ≤ other.time

/-- The flow through a pipe that a process writes to. -/
def piped (process : Process) : Flow where
  writes :=
    ((inTime process.allWrites).filter fun write => write.target = .pipe).map fun write =>
      (write.time, write.bytes)
  pattern := process.pattern
  closed := process.jobs.foldl (fun last job => max last (job.ends.getD 0)) process.now

/-- A process with only those of its writes that went past the pipe. -/
def unpiped (process : Process) : Process :=
  { process with
    writes := process.allWrites.filter fun write => write.target ≠ .pipe
    jobs := []
    pattern := none }

/-- Joins both ends of a pipe that have been run. A writer without end stops when nobody reads
any more. -/
def joinPipe (process first second : Process) : Process :=
  let stopped :=
    if first.ended = some .never ∧ first.pattern.isSome ∧ second.ended ≠ some .never then
      { first with ended := none, now := second.now }
    else first
  let process := process.await stopped.unpiped
  let joined := process.await second
  { joined with
    pattern := second.pattern
    ended := if process.ended.isSome then process.ended else joined.ended }

/-- What a process has written to its pipe so far, without the newlines at its end. -/
def outputOf (process : Process) : List Char :=
  let text := charsOf (process.piped.writes.flatMap Prod.snd)
  (text.reverse.dropWhile (· = '\n')).reverse

/-- The value that a formula gives to a name. -/
def numberOf (process : Process) (name : List Char) : Int :=
  (Utility.integer? (process.parameter (String.ofList name))).getD 0

/-- A piece of a word that stands for text that has been put in its place. -/
def pieceOf (chars : List Char) (quoted : Bool) : Piece :=
  if quoted then .text chars true else .substituted chars

/-- Whether a word holds the output of a script. -/
def holdsOutput (word : ShellWord) : Bool :=
  word.any fun piece =>
    match piece with
    | .output _ _ => true
    | _ => false

/-- A shell that knows only what programs get to see. -/
def onlyExported (process : Process) : Process :=
  { process with
    values := process.values.filter fun entry => process.exported.contains entry.1
    functions := [] }

/-- The signal that a process died by. -/
def killedBy? (process : Process) : Option Nat :=
  match process.ended with
  | some (.killed signal) => some signal
  | _ => none

/-- Ends a strict shell whose command has failed, unless the failure is only looked at. -/
def heed (process : Process) : Process :=
  if process.strict ∧ ¬process.excused ∧ process.status ≠ 0 ∧ process.ended.isNone then
    process.exit process.status
  else process

/-- A shell whose failures are only looked at. -/
def excuse (process : Process) : Process := { process with excused := true }

/-- A shell whose failures count as they did at another moment. -/
def unexcuse (process before : Process) : Process := { process with excused := before.excused }

mutual

/-- Takes note of the signals that have come so far. -/
def deliver : Nat → Process → Process
  | 0, process => { process with ended := some .never }
  | fuel + 1, process =>
      match process.earliest? with
      | none => process
      | some sent =>
          let idle := process.ended = some .never
          if (process.now < sent.time ∧ ¬idle) ∨ (process.ended.isSome ∧ ¬idle) then process
          else
            let rest := { process with arrivals := process.arrivals.erase sent }
            let trapped := if sent.signal = Signal.kill then none
              else process.traps.lookup sent.signal
            match trapped, Signal.dispositionOf sent.signal with
            | some action, _ =>
                if action = [] ∨ idle then deliver fuel rest
                else
                  let after := runText fuel action rest
                  deliver fuel
                    (if after.ended.isSome then after else { after with status := process.status })
            | none, .ignore => deliver fuel rest
            | none, .stop => { rest with ended := some .never }
            | none, .terminate =>
                { rest with now := sent.time, ended := some (.killed sent.signal) }

/-- Runs a script that is given as text. -/
def runText : Nat → List Char → Process → Process
  | 0, _, process => { process with ended := some .never }
  | fuel + 1, text, process =>
      match Script.parse text with
      | some script => run fuel script process
      | none => (process.complain "Syntax error".toList 2).exit 2

/-- Runs a shell of its own. -/
def runShell : Nat → List Char → List (List Char) → Process → Process
  | 0, _, _, process => { process with ended := some .never }
  | fuel + 1, name, arguments, process =>
      match arguments with
      | ['-', 'c'] :: text :: parameters =>
          let arguments := if parameters = [] then [name] else parameters
          let after := runText fuel text { process with arguments }
          match after.ended, after.traps.lookup 0 with
          | some (.killed _), _ => after
          | some .never, _ => after
          | _, none => after.exit after.exitStatus
          | _, some action =>
              let status := after.exitStatus
              let last := runText fuel action { after with ended := none }
              if last.ended.isSome then last else last.exit status
      | [] => process.exit 0
      | file :: _ =>
          let complaint := name ++ ": 0: cannot open ".toList ++ file ++ ": No such file\n".toList
          (process.say complaint).exit 2

/-- Runs a program that is no part of the shell, as a child or in place of the shell itself;
`front` begins what is said about a program that cannot be run. -/
def runProgram : Nat → Bool → List Char → List Char → List (List Char) → Process → Process
  | 0, _, _, _, _, process => { process with ended := some .never }
  | fuel + 1, inPlace, front, name, arguments, process =>
      if name = [] then process.complain (front ++ ": Permission denied".toList) 127
      else
        match Program.find name with
        | .utility utility => process.runUtility utility arguments
        | .scheduler scheduler => process.reschedule scheduler arguments
        | .directory => process.complain (front ++ name ++ ": Permission denied".toList) 126
        | .missing => process.complain (front ++ name ++ ": not found".toList) 127
        | .shell =>
            if inPlace then
              let ignored := process.traps.filter fun trap => trap.2.isEmpty
              runShell fuel name arguments
                { process.onlyExported with traps := ignored, strict := false }
            else
              let child := runShell fuel name arguments
                { process.fork.onlyExported with
                  number := process.fresh
                  parent := process.number
                  fresh := process.fresh + 1
                  subshell := false
                  strict := false
                  excused := false }
              let after := process.await child
              match child.killedBy? with
              | some signal => after.mourn signal
              | none => after

/-- Runs a simple command whose descriptors are in place. -/
def runCommand : Nat → List (List Char) → Process → Process
  | 0, _, process => { process with ended := some .never }
  | _, [], process => { process with status := 0 }
  | fuel + 1, name :: arguments, process =>
      if name = "eval".toList then runText fuel (Utility.joined arguments) process
      else if name = "command".toList then runCommand fuel arguments process
      else
        match process.functions.lookup (String.ofList name) with
        | some body =>
            let after := run fuel body
              { process with arguments := process.arguments.take 1 ++ arguments }
            { after with arguments := process.arguments, leaving := none }
        | none =>
            match process.builtin? (String.ofList name) arguments with
            | some after => after
            | none => runProgram fuel false [] name arguments process

/-- Runs the scripts and calculates the formulas in a word, and puts text in their place. -/
def resolve : Nat → ShellWord → Process → Process × ShellWord
  | 0, word, process => ({ process with ended := some .never }, word)
  | _, [], process => (process, [])
  | fuel + 1, piece :: rest, process =>
      let (process, piece) : Process × Piece := match piece with
        | .output script quoted =>
            let child := runText fuel script { process.fork with output := .pipe }
            (deliver fuel (process.await child.unpiped), pieceOf child.outputOf quoted)
        | .calculation formula quoted =>
            match Formula.value process.numberOf formula with
            | .ok value => (process, pieceOf (toString value).toList quoted)
            | .error fault =>
                let complaint := "arithmetic expression: ".toList ++ fault.message.toList ++
                  ": \"".toList ++ formula ++ ['"']
                ((process.complain complaint 2).exit 2, piece)
        | piece => (process, piece)
      let (process, others) := resolve fuel rest process
      (process, piece :: others)

/-- Runs the scripts and calculates the formulas in several words. -/
def resolveAll : Nat → List ShellWord → Process → Process × List ShellWord
  | 0, words, process => ({ process with ended := some .never }, words)
  | _, [], process => (process, [])
  | fuel + 1, word :: rest, process =>
      let (process, word) := resolve fuel word process
      let (process, others) := resolveAll fuel rest process
      (process, word :: others)

/-- Runs the scripts and calculates the formulas in redirections. -/
def resolveRedirections : Nat → List Redirection → Process → Process × List Redirection
  | 0, redirections, process => ({ process with ended := some .never }, redirections)
  | _, [], process => (process, [])
  | fuel + 1, redirection :: rest, process =>
      let (process, target) : Process × RedirectionTarget := match redirection.target with
        | .file word =>
            let (process, word) := resolve fuel word process
            (process, .file word)
        | .descriptor word =>
            let (process, word) := resolve fuel word process
            (process, .descriptor word)
      let (process, others) := resolveRedirections fuel rest process
      (process, { redirection with target } :: others)

/-- Runs a body once for each of some items. -/
def runEach : Nat → String → List (List Char) → Script → Process → Process
  | 0, _, _, _, process => { process with ended := some .never }
  | _, _, [], _, process => process
  | fuel + 1, name, item :: items, body, process =>
      let after := run fuel body (process.assign (name, item))
      match after.leaving with
      | some .stop => { after with leaving := none }
      | some .back => after
      | _ =>
          if after.ended.isSome then after
          else runEach fuel name items body { after with leaving := none }

/-- Runs a script. -/
def run : Nat → Script → Process → Process
  | 0, _, process => { process with ended := some .never }
  | fuel + 1, script, process =>
      if process.ended.isSome ∨ process.leaving.isSome then process
      else
        match script with
        | .nothing => process
        | .sequence first second => run fuel second (run fuel first process)
        | .both first second =>
            let after := (run fuel first process.excuse).unexcuse process
            if after.status = 0 then run fuel second after else after
        | .either first second =>
            let after := (run fuel first process.excuse).unexcuse process
            if after.status = 0 then after else run fuel second after
        | .negation script =>
            let after := (run fuel script process.excuse).unexcuse process
            { after with status := if after.status = 0 then 1 else 0 }
        | .background script =>
            let number := process.fresh
            let child := run fuel script
              { process.fork with fresh := number + 1, input := .nothing }
            let job :=
              ⟨number, child.endTime?, child.exitStatus, child.killedBy?, child.allWrites⟩
            let after := ({ process with
              fresh := child.fresh
              jobs := process.jobs ++ [job]
              lastJob := some number
              status := 0 }.receive child.sent)
            deliver fuel after
        | .subshell script redirections =>
            let (process, redirections) := resolveRedirections fuel redirections process
            match process.fork.redirectAll redirections with
            | .error complaint => (process.complain complaint 2).heed
            | .ok child => (deliver fuel (process.await (run fuel script child))).heed
        | .group script redirections =>
            let (process, redirections) := resolveRedirections fuel redirections process
            match process.redirectAll redirections with
            | .error complaint => (process.complain complaint 2).heed
            | .ok inside => (run fuel script inside).restore process redirections
        | .branch condition success failure =>
            let after := (run fuel condition process.excuse).unexcuse process
            if after.status = 0 then run fuel success after
            else run fuel failure { after with status := 0 }
        | .loop expected condition body =>
            let after := (run fuel condition process.excuse).unexcuse process
            if after.ended.isSome ∨ after.leaving.isSome then after
            else if (after.status == 0) = expected then
              let round := run fuel body after
              match round.leaving with
              | some .stop => { round with leaving := none }
              | some .back => round
              | _ => run fuel (.loop expected condition body) { round with leaving := none }
            else { after with status := 0 }
        | .function name body =>
            { process with functions := (name, body) :: process.functions, status := 0 }
        | .choice word patterns body otherwise =>
            let (process, resolved) := resolve fuel word process
            let (process, patterns) := resolveAll fuel patterns process
            let text := process.expandWhole resolved
            if patterns.any fun pattern => Pattern.fits (process.patternOf pattern) text then
              run fuel body process
            else run fuel otherwise { process with status := 0 }
        | .each name words body =>
            match words with
            | none => runEach fuel name (process.arguments.drop 1) body process
            | some words =>
                let (process, words) := resolveAll fuel words process
                runEach fuel name (words.flatMap process.expand) body { process with status := 0 }
        | .pipe first second =>
            let writer := run fuel first { process.fork with output := .pipe }
            let reader := run fuel second
              { process.fork with input := writer.piped, fresh := writer.fresh }
            (deliver fuel (process.joinPipe writer reader)).heed
        | .command words redirections =>
            let (process, resolved) := resolveAll fuel words process
            let (process, redirections) := resolveRedirections fuel redirections process
            if process.ended.isSome then process
            else
              let assigned := resolved.takeWhile fun word => (process.assignment? word).isSome
              let fields := (resolved.drop assigned.length).flatMap process.expand
              let entries := assigned.filterMap process.assignment?
              match process.redirectAll redirections with
              | .error complaint => (process.complain complaint 2).heed
              | .ok inside =>
                  match fields with
                  | [] =>
                      let status := if words.any holdsOutput then process.status else 0
                      ((entries.foldl assign { inside with status }).restore process
                        redirections).heed
                  | name :: arguments =>
                      if name = "exec".toList then
                        match arguments with
                        | [] => { inside with status := 0 }
                        | program :: arguments =>
                            let after := deliver fuel
                              (runProgram fuel true "exec: ".toList program arguments inside)
                            if after.ended.isSome then after else after.exit after.status
                      else
                        let after := runCommand fuel (name :: arguments) (inside.lend entries)
                        let after := (after.takeBack process entries).restore process redirections
                        (deliver fuel after).heed

end

/-- The number of steps that any script may take. -/
def steps : Nat := 4000

/-- The number of the first process. -/
def firstNumber : Nat := 2

end Process

/-- The longest argument that a program can be given, in bytes. -/
def longestArgument : Nat := 131071

/-- The run of a process that has ended before anything happened. -/
def atOnce (status : Nat) : ProcessRun := ⟨some (0, .exited status), []⟩

/-- The run of a process, as others see it. -/
def runOf (process : Process) : ProcessRun where
  ending :=
    match process.ended with
    | some .never => none
    | some (.killed signal) => some (process.now, .killed signal)
    | _ => some (process.now, .exited process.exitStatus)
  stderr :=
    ((Process.inTime process.allWrites).filter fun write => write.target = .error).map fun write =>
      ⟨write.time, write.bytes, write.caughtUp⟩

/-- What every command does on a system that has the utilities and the shell, and nothing to
read on its standard input. A command that cannot be started ends with 127. -/
def programs : Programs := fun arguments =>
  match arguments.map charsOf with
  | [] => atOnce 127
  | name :: rest =>
      if arguments.any fun argument => longestArgument < argument.length then atOnce 127
      else
        let process : Process :=
          { arguments := [name]
            number := Process.firstNumber
            parent := Process.supervisorNumber
            fresh := Process.firstNumber + 1 }
        match Program.find name with
        | .utility utility => runOf (process.runUtility utility rest)
        | .scheduler scheduler => runOf (process.reschedule scheduler rest)
        | .shell => runOf (Process.runShell Process.steps name rest process)
        | .directory => atOnce 127
        | .missing => atOnce 127

end HealthWatch.Posix
