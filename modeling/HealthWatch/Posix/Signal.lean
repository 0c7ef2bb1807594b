/-! # Signals -/

namespace HealthWatch.Posix

/-- What a signal does to a process that has made no arrangements for it. -/
inductive Disposition
  | terminate
  | ignore
  | stop
  deriving DecidableEq, Repr

/-- A signal; one without a name of its own goes by its number. -/
structure Signal where
  name : String
  number : Nat
  disposition : Disposition
  /-- What a shell prints about a command that died by it. -/
  obituary : String

namespace Signal

/-- The signals of which something is known. -/
def named : List Signal :=
  [ ⟨"HUP", 1, .terminate, "Hangup"⟩, ⟨"INT", 2, .terminate, ""⟩, ⟨"QUIT", 3, .terminate, "Quit"⟩,
    ⟨"ILL", 4, .terminate, "Illegal instruction"⟩,
    ⟨"TRAP", 5, .terminate, "Trace/breakpoint trap"⟩, ⟨"ABRT", 6, .terminate, "Aborted"⟩,
    ⟨"BUS", 7, .terminate, "Bus error"⟩, ⟨"FPE", 8, .terminate, "Floating point exception"⟩,
    ⟨"KILL", 9, .terminate, "Killed"⟩, ⟨"USR1", 10, .terminate, "User defined signal 1"⟩,
    ⟨"SEGV", 11, .terminate, "Segmentation fault"⟩,
    ⟨"USR2", 12, .terminate, "User defined signal 2"⟩, ⟨"PIPE", 13, .terminate, ""⟩,
    ⟨"ALRM", 14, .terminate, "Alarm clock"⟩, ⟨"TERM", 15, .terminate, "Terminated"⟩,
    ⟨"16", 16, .terminate, "Stack fault"⟩, ⟨"CHLD", 17, .ignore, "Child exited"⟩,
    ⟨"CONT", 18, .ignore, "Continued"⟩, ⟨"STOP", 19, .stop, "Stopped (signal)"⟩,
    ⟨"TSTP", 20, .stop, "Stopped"⟩, ⟨"TTIN", 21, .stop, "Stopped (tty input)"⟩,
    ⟨"TTOU", 22, .stop, "Stopped (tty output)"⟩,
    ⟨"URG", 23, .ignore, "Urgent I/O condition"⟩,
    ⟨"XCPU", 24, .terminate, "CPU time limit exceeded"⟩,
    ⟨"XFSZ", 25, .terminate, "File size limit exceeded"⟩,
    ⟨"VTALRM", 26, .terminate, "Virtual timer expired"⟩,
    ⟨"PROF", 27, .terminate, "Profiling timer expired"⟩,
    ⟨"WINCH", 28, .ignore, "Window changed"⟩, ⟨"IO", 29, .terminate, "I/O possible"⟩,
    ⟨"PWR", 30, .terminate, "Power failure"⟩, ⟨"SYS", 31, .terminate, "Bad system call"⟩,
    ⟨"RTMIN", 34, .terminate, "Real-time signal 0"⟩,
    ⟨"RTMAX", 64, .terminate, "Real-time signal 30"⟩ ]

/-- The greatest number of a signal. -/
def last : Nat := 64

/-- The signal that no arrangement can hold off. -/
def kill : Nat := 9

/-- The signal that a kill without any other sends. -/
def terminate : Nat := 15

/-- The number that a text of decimal digits stands for. -/
def number? (text : List Char) : Option Nat :=
  if text ≠ [] ∧ text.all Char.isDigit then
    some (text.foldl (fun number digit => number * 10 + (digit.toNat - '0'.toNat)) 0)
  else none

/-- The real-time signal that a distance from the first or the last one names. -/
def realTime? (text : List Char) : Option Nat :=
  if "RTMIN+".toList.isPrefixOf text then (number? (text.drop 6)).map (34 + ·)
  else if "RTMAX-".toList.isPrefixOf text then (number? (text.drop 6)).map (64 - ·)
  else none

/-- The number of the signal that a text names, by name or by number. -/
def ofText? (text : List Char) : Option Nat :=
  match number? text with
  | some number => if number ≤ last then some number else none
  | none =>
      let name := text.map Char.toUpper
      match named.find? fun signal => signal.name.toList = name with
      | some signal => some signal.number
      | none => realTime? name

/-- What a signal does by itself. -/
def dispositionOf (number : Nat) : Disposition :=
  match named.find? fun signal => signal.number = number with
  | some signal => signal.disposition
  | none => .terminate

/-- What a shell prints about a command that died by a signal. -/
def obituaryOf (number : Nat) : String :=
  match named.find? fun signal => signal.number = number with
  | some signal => signal.obituary
  | none => "Real-time signal " ++ toString (number - 34)

end Signal

end HealthWatch.Posix
