import HealthWatch.Posix.Pattern
import HealthWatch.Posix.Schedule
import HealthWatch.Posix.Script

/-! # Processes of a shell

A `Process` is a shell that runs a script in virtual time. Whatever it starts is run to its
end before the script goes on: a command in the background keeps its own end, its writes and
the signals that it sends, each with its moment, and the shell takes note of them when its own
time has come that far.
-/

namespace HealthWatch.Posix

/-- Where the bytes go that a process writes. -/
inductive Target
  | nowhere
  | error
  | pipe
  deriving DecidableEq, Repr

/-- How a process came to its end. -/
inductive End
  | exited (status : Nat)
  | killed (signal : Nat)
  /-- It goes on forever. -/
  | never
  deriving DecidableEq, Repr

/-- Bytes that were written, with their moment. -/
structure Write where
  time : Nat
  target : Target
  bytes : Bytes
  /-- When somebody who reads without a pause has caught up with the writer, unless the writer
  outruns the reader as long as it lives. -/
  caughtUp : Option Nat
  deriving DecidableEq, Repr

/-- The write of a writer that has come to its end, if it has. -/
def Write.upTo (write : Write) (ends : Option Nat) : Write :=
  { write with caughtUp := write.caughtUp <|> ends }

/-- A signal on its way to a process. -/
structure Sent where
  time : Nat
  process : Nat
  signal : Nat
  deriving DecidableEq, Repr

/-- A command in the background. -/
structure Job where
  number : Nat
  ends : Option Nat
  status : Nat
  /-- The signal that it died by. -/
  signal : Option Nat
  writes : List Write
  deriving DecidableEq, Repr

/-- Where a script goes on that leaves what it is doing. -/
inductive Jump
  /-- After the loop. -/
  | stop
  /-- With the next round of the loop. -/
  | next
  /-- After the call of the function. -/
  | back
  deriving DecidableEq, Repr

/-- A shell at work. -/
structure Process where
  /-- Milliseconds since the start of everything. -/
  now : Nat := 0
  status : Nat := 0
  ended : Option End := none
  /-- The name of the shell and the positional parameters. -/
  arguments : List (List Char)
  values : List (String × List Char) := []
  /-- The variables that programs get to see. -/
  exported : List String := []
  functions : List (String × Script) := []
  /-- What is done about signals; nothing at all for those that are ignored. -/
  traps : List (Nat × List Char) := []
  input : Flow := .nothing
  output : Target := .nowhere
  error : Target := .error
  number : Nat
  /-- The number of the process that has started the shell. -/
  parent : Nat
  standing : Standing := {}
  /-- How the supervisor stands that reads the standard error. -/
  supervisor : Standing := {}
  /-- Whether this is a copy of the shell with its number. -/
  subshell : Bool := false
  /-- The number of the next process. -/
  fresh : Nat
  jobs : List Job := []
  lastJob : Option Nat := none
  /-- Signals for this process that it has not taken note of. -/
  arrivals : List Sent := []
  /-- Signals for other processes. -/
  sent : List Sent := []
  writes : List Write := []
  /-- What is written to the pipe without end. -/
  pattern : Option Bytes := none
  /-- Where the script goes on, if it is leaving a loop or a function. -/
  leaving : Option Jump := none
  /-- Whether the first command that fails ends the shell. -/
  strict : Bool := false
  /-- Whether a failure is only looked at, by a condition. -/
  excused : Bool := false

namespace Process

/-- The status that others see. -/
def exitStatus (process : Process) : Nat :=
  match process.ended with
  | none => process.status
  | some (.exited status) => status
  | some (.killed signal) => 128 + signal
  | some .never => process.status

/-- When the process ended, if it has not gone on forever. -/
def endTime? (process : Process) : Option Nat :=
  if process.ended = some .never then none else some process.now

/-- Everything that was written by the process and by its jobs. -/
def allWrites (process : Process) : List Write :=
  process.writes.map (·.upTo process.endTime?) ++
    process.jobs.flatMap fun job => job.writes.map (·.upTo job.ends)

/-- Writes bytes. -/
def emit (process : Process) (target : Target) (time : Nat) (bytes : Bytes) : Process :=
  if bytes = [] ∨ target = .nowhere then process
  else { process with writes := process.writes ++ [⟨time, target, bytes, some time⟩] }

/-- Writes a text to the standard error. -/
def say (process : Process) (text : List Char) : Process :=
  process.emit process.error process.now (bytesOf text)

/-- The bytes of an endless flow that are looked at: as many as any reader keeps. -/
def flood : Nat := 131072

/-- Writes a pattern to the standard error without end. -/
def emitEndless (process : Process) (pattern : Bytes) : Process :=
  let caughtUp := if process.standing.outruns process.supervisor then none else some process.now
  { process with
    writes := process.writes ++ [⟨process.now, .error, Flow.repeated pattern flood, caughtUp⟩] }

/-- Writes a flow to the standard output. -/
def emitFlow (process : Process) (flow : Flow) : Process :=
  let written := flow.writes.foldl
    (fun current write => current.emit process.output write.1 write.2) process
  match flow.pattern, process.output with
  | some pattern, .pipe => { written with pattern := some pattern }
  | some pattern, .error => written.emitEndless pattern
  | _, _ => written

/-- Takes note of signals that others sent. -/
def receive (process : Process) (signals : List Sent) : Process :=
  let (own, others) := signals.partition fun sent => sent.process = process.number
  if process.subshell then { process with sent := process.sent ++ signals }
  else
    { process with arrivals := process.arrivals ++ own, sent := process.sent ++ others }

/-- A copy of the shell, which has no children yet. -/
def fork (process : Process) : Process :=
  { process with
    writes := []
    sent := []
    jobs := []
    arrivals := []
    pattern := none
    subshell := true
    traps := process.traps.filter fun trap => trap.2.isEmpty }

/-- Takes over what a child has done. -/
def absorb (process child : Process) : Process :=
  { process with
    writes := process.writes ++ child.allWrites
    supervisor := child.supervisor
    fresh := child.fresh }.receive child.sent

/-- Waits for a child. -/
def await (process child : Process) : Process :=
  let process := { process.absorb child with status := child.exitStatus }
  match child.endTime? with
  | some time => { process with now := max process.now time }
  | none => { process with ended := some .never }

/-- Runs a utility in place of a child. -/
def runUtility (process : Process) (utility : Utility) (arguments : List (List Char)) :
    Process :=
  let effect := utility arguments process.now process.input
  let process := (process.say effect.complaint).emitFlow effect.output
  match effect.ends with
  | some time =>
      { process with now := time, status := effect.status, input := effect.left }
  | none => { process with ended := some .never }

/-- The number of the supervisor of everything. -/
def supervisorNumber : Nat := 1

/-- Runs a program that changes how a process stands. -/
def reschedule (process : Process) (scheduler : Scheduler) (arguments : List (List Char)) :
    Process :=
  match scheduler.request? arguments with
  | none =>
      { process.say (scheduler.name ++ ": bad usage\n" ++ Utility.advice scheduler.name).toList with
        status := 1 }
  | some (number, change) =>
      if number = process.number then
        { process with standing := change process.standing, status := 0 }
      else if number = supervisorNumber then
        { process with supervisor := change process.supervisor, status := 0 }
      else
        { process.say (scheduler.complaint number).toList with status := 1 }

/-- The name by which the shell speaks of itself. -/
def name (process : Process) : List Char := process.arguments.head?.getD []

/-- Complains about something in the first line of the script. -/
def complain (process : Process) (complaint : List Char) (status : Nat) : Process :=
  { process.say (process.name ++ ": 1: ".toList ++ complaint ++ ['\n']) with status }

/-- The value of a parameter. -/
def parameter (process : Process) (name : String) : List Char :=
  match name.toList with
  | ['?'] => (toString process.status).toList
  | ['#'] => (toString (process.arguments.length - 1)).toList
  | ['$'] => (toString process.number).toList
  | ['!'] => (process.lastJob.map fun job => (toString job).toList).getD []
  | ['@'] | ['*'] => Utility.joined (process.arguments.drop 1)
  | ['P', 'P', 'I', 'D'] => (toString process.parent).toList
  | chars =>
      match Signal.number? chars with
      | some place => process.arguments.getD place []
      | none => (process.values.lookup name).getD []

/-- The blanks between which an unquoted value falls into fields. -/
def isSeparator (char : Char) : Bool := char = ' ' || char = '\t' || char = '\n'

/-- The fields of a list of characters, of which some are separators: the finished ones, and
the one that is going on. -/
def fieldsOf : List (List Char) → Option (List Char) → List Char →
    List (List Char) × Option (List Char)
  | done, current, [] => (done, current)
  | done, current, char :: rest =>
      if isSeparator char then fieldsOf (done ++ current.toList) none rest
      else fieldsOf done (some (current.getD [] ++ [char])) rest

/-- The fields that a word expands to, once the output of its scripts and the values of its
formulas are in it. -/
def expand (process : Process) (word : ShellWord) : List (List Char) :=
  let (done, current) := word.foldl
    (fun (state : List (List Char) × Option (List Char)) piece =>
      match piece with
      | .text chars _ => (state.1, some (state.2.getD [] ++ chars))
      | .parameter name true => (state.1, some (state.2.getD [] ++ process.parameter name))
      | .parameter name false => fieldsOf state.1 state.2 (process.parameter name)
      | .substituted chars => fieldsOf state.1 state.2 chars
      | .output _ _ | .calculation _ _ => state)
    ([], none)
  done ++ current.toList

/-- A word that is not split into fields. -/
def expandWhole (process : Process) (word : ShellWord) : List Char :=
  word.flatMap fun piece =>
    match piece with
    | .text chars _ | .substituted chars => chars
    | .parameter name _ => process.parameter name
    | .output _ _ | .calculation _ _ => []

/-- The name and the value of a word that assigns. -/
def assignment? (process : Process) (word : ShellWord) : Option (String × List Char) :=
  match word with
  | .text chars false :: rest =>
      match chars.span Token.isName with
      | (name, '=' :: value) =>
          if name = [] ∨ name.head?.any Char.isDigit then none
          else some (String.ofList name, value ++ process.expandWhole rest)
      | _ => none
  | _ => none

/-- Gives a variable a value. -/
def assign (process : Process) (entry : String × List Char) : Process :=
  { process with
    values := entry :: process.values.filter fun other => other.1 ≠ entry.1 }

/-- The directory that a path leads into. -/
def directoryOf (path : List Char) : String :=
  match (path.reverse.dropWhile (· ≠ '/')).reverse with
  | [] => "."
  | ['/'] => "/"
  | directory => String.ofList directory.dropLast

/-- Where it leads to write to a path, or a complaint. -/
def targetOf (process : Process) (path : List Char) : Except (List Char) Target :=
  match Utility.plainPath path with
  | "/dev/stderr" => .ok process.error
  | "/dev/stdout" => .ok process.output
  | name =>
      if Utility.directories.contains name then
        .error ("cannot create ".toList ++ path ++ ": Is a directory".toList)
      else if Utility.directories.contains (directoryOf path) then .ok .nowhere
      else .error ("cannot create ".toList ++ path ++ ": Directory nonexistent".toList)

/-- What a descriptor of a process leads to, or a complaint. -/
def descriptorTarget (process : Process) (number : List Char) : Except (List Char) Target :=
  match number with
  | ['0'] | ['-'] => .ok .nowhere
  | ['1'] => .ok process.output
  | ['2'] => .ok process.error
  | _ => .error (number ++ ": Bad file descriptor".toList)

/-- Redirects one descriptor, or complains. -/
def redirect (process : Process) (redirection : Redirection) : Except (List Char) Process :=
  match redirection.descriptor, redirection.target with
  | 0, .file path =>
      let path := process.expandWhole path
      match Utility.device? path process.input with
      | some input => .ok { process with input }
      | none => .error ("cannot open ".toList ++ path ++ ": No such file".toList)
  | 0, .descriptor _ => .ok process
  | descriptor, target => do
      let target ← match target with
        | .file path => process.targetOf (process.expandWhole path)
        | .descriptor number => process.descriptorTarget (process.expandWhole number)
      if descriptor = 1 then .ok { process with output := target }
      else if descriptor = 2 then .ok { process with error := target }
      else .ok process

/-- Redirects descriptors in turn. -/
def redirectAll (process : Process) (redirections : List Redirection) :
    Except (List Char) Process :=
  redirections.foldlM redirect process

/-- The descriptors of another moment. -/
def restore (process before : Process) (redirections : List Redirection) : Process :=
  let reads := redirections.any fun redirection => redirection.descriptor = 0
  { process with
    output := before.output
    error := before.error
    input := if reads then before.input else process.input }

/-- Ends the shell. -/
def exit (process : Process) (status : Nat) : Process :=
  { process with status, ended := some (.exited status) }

/-- A job that a signal reaches. -/
def signalJob (now signal : Nat) (job : Job) : Job :=
  let ended := job.ends.any (· ≤ now)
  if ended || Signal.dispositionOf signal ≠ .terminate then job
  else
    { job with
      ends := some now
      status := 128 + signal
      signal := some signal
      writes := job.writes.filter fun write => write.time ≤ now }

/-- Sends a signal to one process; numbers of zero and below mean the whole group. -/
def send (process : Process) (signal : Nat) (target : Int) : Process :=
  let process := { process with status := 0 }
  if signal = 0 then process
  else
    match target with
    | .ofNat (number + 1) =>
        if number + 1 = process.number ∨ number + 1 < process.number then
          process.receive [⟨process.now, number + 1, signal⟩]
        else if process.jobs.any fun job => job.number = number + 1 then
          { process with
            jobs := process.jobs.map fun job =>
              if job.number = number + 1 then signalJob process.now signal job else job }
        else process.complain "kill: No such process\n".toList 1
    | _ => process.receive [⟨process.now, process.number, signal⟩]

/-- How to send a signal. -/
def killUsage : List Char :=
  "kill: Usage: kill [-s sigspec | -signum | -sigspec] [pid | job]... or\nkill -l [exitstatus]".toList

/-- Sends a signal to processes. -/
def sendAll (process : Process) (signal : Nat) (targets : List (List Char)) : Process :=
  match targets.find? fun target => (Utility.integer? target).isNone with
  | some wrong => process.complain ("kill: Illegal number: ".toList ++ wrong) 2
  | none =>
      if targets = [] then process.complain killUsage 2
      else
        (targets.filterMap Utility.integer?).foldl
          (fun current number => current.send signal number) process

/-- The command that sends signals. -/
def kill (process : Process) (arguments : List (List Char)) : Process :=
  match arguments with
  | ['-', 's'] :: name :: targets =>
      match Signal.ofText? name with
      | some signal => process.sendAll signal targets
      | none => process.complain ("kill: invalid signal number or name: ".toList ++ name) 2
  | ['-', 'l'] :: _ => { process with status := 0 }
  | ['-', '-'] :: targets => process.sendAll Signal.terminate targets
  | ('-' :: letter :: name) :: targets =>
      match Signal.ofText? (letter :: name) with
      | some signal => process.sendAll signal targets
      | none => process.complain ("kill: Illegal option -".toList ++ [letter]) 2
  | targets => process.sendAll Signal.terminate targets

/-- The number under which the end of the shell is trapped. -/
def exitTrap? (name : List Char) : Option Nat :=
  if name = "EXIT".toList then some 0 else Signal.ofText? name

/-- The command that arranges for signals. -/
def trap (process : Process) (arguments : List (List Char)) : Process :=
  let process := { process with status := 0 }
  match arguments with
  | [] => process
  | action :: names =>
      match names.find? fun name => (exitTrap? name).isNone with
      | some wrong =>
          { process.say ("trap: ".toList ++ wrong ++ ": bad trap\n".toList) with status := 1 }
      | none =>
          let signals := names.filterMap exitTrap?
          let others := process.traps.filter fun trap => !signals.contains trap.1
          if action = ['-'] then { process with traps := others }
          else { process with traps := signals.map (·, action) ++ others }

/-- The signal that comes first. -/
def earliest? (process : Process) : Option Sent :=
  process.arrivals.foldl
    (fun best sent =>
      match best with
      | none => some sent
      | some other => if sent.time < other.time then some sent else some other)
    none

/-- Whether a signal makes the shell stop waiting. -/
def wakes (process : Process) (sent : Sent) : Bool :=
  match process.traps.lookup sent.signal with
  | some action => !action.isEmpty
  | none => Signal.dispositionOf sent.signal == .terminate

/-- Waits until a moment, or forever, or until a signal comes that matters. -/
def waitUntil (process : Process) (moment : Option Nat) (status : Nat) : Process :=
  let signals := process.arrivals.filter fun sent =>
    process.wakes sent && moment.all (sent.time ≤ ·)
  match { process with arrivals := signals }.earliest?, moment with
  | some sent, _ => { process with now := max process.now sent.time, status := 128 + sent.signal }
  | none, some time => { process with now := max process.now time, status }
  | none, none => { process with ended := some .never }

/-- Says what a child died by. -/
def mourn (process : Process) (signal : Nat) : Process :=
  let obituary := Signal.obituaryOf signal
  if obituary.isEmpty then process else process.say (obituary ++ "\n").toList

/-- Waits for a job, and says what it died by if it has not been dead before. -/
def waitFor (process : Process) (job : Job) : Process :=
  let after := process.waitUntil job.ends job.status
  match job.signal with
  | some signal =>
      if job.ends.any (process.now ≤ ·) ∧ after.status = job.status then after.mourn signal
      else after
  | none => after

/-- The command that waits for jobs. -/
def wait (process : Process) (arguments : List (List Char)) : Process :=
  match arguments with
  | [] =>
      let moments := process.jobs.map Job.ends
      if moments.any Option.isNone then process.waitUntil none 0
      else
        let last := moments.foldl (fun last moment => max last (moment.getD 0)) process.now
        process.waitUntil (some last) 0
  | target :: _ =>
      match Signal.number? target with
      | none => process.complain ("wait: Illegal number: ".toList ++ target) 2
      | some number =>
          match process.jobs.find? fun job => job.number = number with
          | some job => process.waitFor job
          | none => { process with status := 127 }

/-- Drops the first positional parameters. -/
def shift (process : Process) (arguments : List (List Char)) : Process :=
  let count := (arguments.head?.bind Signal.number?).getD 1
  if process.arguments.length ≤ count then
    (process.complain "shift: can't shift that many".toList 2).exit 2
  else
    { process with
      arguments := process.arguments.take 1 ++ process.arguments.drop (count + 1)
      status := 0 }

/-- Gives names the fields of a line; the last name gets all that is left. -/
def assignFields (process : Process) : List (List Char) → List Char → Process
  | [], _ => process
  | [name], line =>
      let trimmed := (line.reverse.dropWhile isSeparator).reverse
      process.assign (String.ofList name, trimmed)
  | name :: names, line =>
      let (field, rest) := line.span fun char => !isSeparator char
      (process.assign (String.ofList name, field)).assignFields names (rest.dropWhile isSeparator)

/-- Reads a line of the standard input into variables. -/
def readLine (process : Process) (arguments : List (List Char)) : Process :=
  let names := arguments.filter fun argument => argument.head? ≠ some '-'
  let seen := charsOf ((process.input.take Utility.window process.now).1.flatMap Prod.snd)
  let size := Utility.lengthOfLines 1 seen
  let line := seen.take size
  let complete := line.getLast? = some '\n'
  let text := (if complete then line.dropLast else line).dropWhile isSeparator
  let moment := (process.input.take size process.now).2
  let moment := if complete then moment else max moment process.input.closed
  { process with
    now := max process.now moment
    input := process.input.drop size
    status := if complete then 0 else 1 }.assignFields names text

/-- Enters a directory. -/
def enter (process : Process) (arguments : List (List Char)) : Process :=
  match arguments with
  | [] => { process with status := 0 }
  | path :: _ =>
      if Utility.kindOf? [] path = some .directory then { process with status := 0 }
      else process.complain ("cd: can't cd to ".toList ++ path) 2

/-- Sets options of the shell, or its positional parameters. -/
def setOptions (process : Process) (arguments : List (List Char)) : Process :=
  let process := { process with status := 0 }
  match arguments with
  | ['-', '-'] :: parameters =>
      { process with arguments := process.arguments.take 1 ++ parameters }
  | ('-' :: letters) :: _ => { process with strict := process.strict || letters.contains 'e' }
  | ('+' :: letters) :: _ => { process with strict := process.strict && !letters.contains 'e' }
  | parameters => { process with arguments := process.arguments.take 1 ++ parameters }

/-- Lets programs see variables, some of which get a value as well. -/
def exportAll (process : Process) (arguments : List (List Char)) : Process :=
  arguments.foldl
    (fun current argument =>
      let (name, value) := argument.span (· ≠ '=')
      let name := String.ofList name
      let current := { current with exported := name :: current.exported }
      match value with
      | _ :: value => current.assign (name, value)
      | [] => current)
    { process with status := 0 }

/-- Forgets variables. -/
def unset (process : Process) (arguments : List (List Char)) : Process :=
  let names := arguments.map String.ofList
  { process with
    status := 0
    values := process.values.filter fun entry => !names.contains entry.1 }

/-- A shell in which a command finds variables of its own. -/
def lend (process : Process) (entries : List (String × List Char)) : Process :=
  { entries.foldl assign process with exported := entries.map Prod.fst ++ process.exported }

/-- The variables that a command found have the values of another moment again. -/
def takeBack (process before : Process) (entries : List (String × List Char)) : Process :=
  let lent (entry : String × List Char) : Bool := (entries.map Prod.fst).contains entry.1
  { process with
    values := before.values.filter lent ++ process.values.filter fun entry => !lent entry }

/-- Leaves a loop or a function. -/
def leave (process : Process) (jump : Jump) (arguments : List (List Char)) : Process :=
  let status := match jump with
    | .back => (arguments.head?.bind Signal.number?).getD process.status
    | _ => 0
  { process with status, leaving := some jump }

/-- The pattern that a word stands for. -/
def patternOf (process : Process) (word : ShellWord) : List Pattern.Part :=
  word.flatMap fun piece =>
    match piece with
    | .text chars false | .substituted chars => Pattern.partsOf chars.length chars
    | .parameter name false =>
        let chars := process.parameter name
        Pattern.partsOf chars.length chars
    | piece => (process.expandWhole [piece]).map .char

/-- Takes note of the result of a test that the shell carries out itself. -/
def judge (process : Process) (name : List Char) (verdict : Except String Bool) : Process :=
  match verdict with
  | .ok truth => { process with status := if truth then 0 else 1 }
  | .error complaint => process.complain (name ++ ": ".toList ++ complaint.toList) 2

end Process

end HealthWatch.Posix
