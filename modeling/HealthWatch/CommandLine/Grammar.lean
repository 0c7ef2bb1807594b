import HealthWatch.Bytes

/-! # Grammars of command lines

A grammar names the options, the positional argument and the subcommands that a command
takes, says what their values have to be, and which of them need or exclude each other.
-/

namespace HealthWatch.CommandLine

/-- Why a command line is no invocation, or asks for something else than one. -/
inductive UsageFault
  /-- The help of the named program is asked for. -/
  | helpRequested (program : String)
  /-- The version of the named program is asked for. -/
  | versionRequested (program : String)
  /-- Nothing is given where at least a subcommand is needed. -/
  | nothingGiven
  | unknownSubcommand
  | unknownArgument
  /-- An option without its value, an empty path, or a word that is none of the choices. -/
  | invalidValue
  /-- A text that is no number of the expected range. -/
  | invalidNumber
  /-- A value for an option that takes none. -/
  | tooManyValues
  /-- An option given twice, or two options that exclude each other. -/
  | conflict
  | missingArgument
  | missingSubcommand
  /-- Bytes that are not text where text is needed. -/
  | notText
  deriving DecidableEq, Repr

/-- A value given on the command line. -/
inductive Value
  | text (value : String)
  | path (value : Bytes)
  | number (value : Int)
  deriving DecidableEq, Repr

/-- What a value has to be. -/
inductive ValueKind
  | text
  /-- Any bytes, but at least one. -/
  | path
  | number (low high : Int)
  | choice (words : List String)
  deriving DecidableEq, Repr

/-- The number that a text stands for: decimal digits after at most one sign. -/
def readNumber (text : String) : Option Int :=
  let digits (signs : List Char) : Option Nat :=
    if signs ≠ [] ∧ signs.all Char.isDigit then
      some (signs.foldl (fun number digit => number * 10 + (digit.toNat - '0'.toNat)) 0)
    else none
  match text.toList with
  | '-' :: rest => (digits rest).map fun number => -(number : Int)
  | '+' :: rest => (digits rest).map Int.ofNat
  | rest => (digits rest).map Int.ofNat

/-- Reads the bytes of a value. -/
def ValueKind.read (kind : ValueKind) (bytes : Bytes) : Except UsageFault Value :=
  match kind with
  | .text =>
      match bytes.text? with
      | some content => .ok (.text content)
      | none => .error .notText
  | .path => if bytes = [] then .error .invalidValue else .ok (.path bytes)
  | .number low high =>
      match bytes.text? with
      | none => .error .notText
      | some content =>
          match readNumber content with
          | some amount =>
              if low ≤ amount ∧ amount ≤ high then .ok (.number amount)
              else .error .invalidNumber
          | none => .error .invalidNumber
  | .choice words =>
      match bytes.text? with
      | some content =>
          if words.contains content then .ok (.text content) else .error .invalidValue
      | none => .error .invalidValue

/-- What an option does. -/
inductive OptionRole
  | flag
  | value (kind : ValueKind)
  | help
  | version
  deriving DecidableEq, Repr

/-- An option, known by its long name. -/
structure OptionSpec where
  name : String
  short : Option Char := none
  role : OptionRole
  /-- The environment variable that stands in for an option which is not given. -/
  fallback : Option String := none
  deriving DecidableEq, Repr

/-- An argument without a name in front of it. -/
structure PositionalSpec where
  name : String
  kind : ValueKind
  /-- Whether it takes every further word. -/
  many : Bool
  /-- Whether it can only stand after the word that ends all options. -/
  escaped : Bool
  deriving DecidableEq, Repr

/-- The grammar of a command. -/
structure Grammar where
  /-- The name of the program, as its version shows it. -/
  program : String
  options : List OptionSpec
  positional : Option PositionalSpec := none
  subcommands : List String := []
  required : List String := []
  /-- Pairs of arguments of which at most one may be given. -/
  exclusive : List (String × String) := []
  /-- Pairs of arguments of which at least one must be given. -/
  alternatives : List (String × String) := []
  deriving DecidableEq, Repr

/-- The arguments that were given, with their values. -/
abbrev Given := List (String × List Value)

namespace Given

/-- The values of an argument. -/
def values? (given : Given) (name : String) : Option (List Value) := given.lookup name

/-- Whether an argument was given. -/
def has (given : Given) (name : String) : Bool := (given.values? name).isSome

/-- Adds an argument that was not given before. -/
def add (given : Given) (name : String) (values : List Value) : Given := given ++ [(name, values)]

/-- The text given for an argument. -/
def text? (given : Given) (name : String) : Option String :=
  match given.values? name with
  | some [.text value] => some value
  | _ => none

/-- The path given for an argument. -/
def path? (given : Given) (name : String) : Option Bytes :=
  match given.values? name with
  | some [.path value] => some value
  | _ => none

/-- The number given for an argument. -/
def number? (given : Given) (name : String) : Option Int :=
  match given.values? name with
  | some [.number value] => some value
  | _ => none

/-- All texts given for an argument. -/
def texts (given : Given) (name : String) : List String :=
  ((given.values? name).getD []).filterMap fun value =>
    match value with
    | .text text => some text
    | _ => none

end Given

namespace Grammar

/-- The option with a long name. -/
def long? (grammar : Grammar) (name : String) : Option OptionSpec :=
  grammar.options.find? (·.name = name)

/-- The option with a short name. -/
def short? (grammar : Grammar) (name : Char) : Option OptionSpec :=
  grammar.options.find? (·.short = some name)

/-- The subcommand that prints help. -/
def helpWord : String := "help"

/-- The subcommand that a word names; every command with subcommands also has the one that
prints help. -/
def subcommand? (grammar : Grammar) (word : Bytes) : Option String :=
  match word.text? with
  | none => none
  | some name =>
      if grammar.subcommands.isEmpty then none
      else if grammar.subcommands.contains name ∨ name = helpWord then some name
      else none

/-- The rules between the arguments: what excludes each other counts before what is missing. -/
def relationFault? (grammar : Grammar) (given : Given) : Option UsageFault :=
  if grammar.exclusive.any fun (one, other) => given.has one && given.has other then
    some .conflict
  else if grammar.required.any fun name => !given.has name then some .missingArgument
  else if grammar.alternatives.any fun (one, other) => !given.has one && !given.has other then
    some .missingArgument
  else none

/-- How an option is written in the help. -/
def optionUsage (option : OptionSpec) : String :=
  let short := match option.short with
    | some name => "-" ++ name.toString ++ ", "
    | none => "    "
  let value := match option.role with
    | .value _ => " <" ++ option.name ++ ">"
    | _ => ""
  "  " ++ short ++ "--" ++ option.name ++ value

/-- How the positional argument is written in the help. -/
def positionalUsage (positional : PositionalSpec) : String :=
  (if positional.escaped then " -- " else " ") ++ "<" ++ positional.name ++ ">" ++
    (if positional.many then "..." else "")

/-- The help of a command. -/
def help (grammar : Grammar) : String :=
  let usage :=
    "Usage: " ++ grammar.program ++ " [OPTIONS]" ++
      (grammar.positional.map positionalUsage).getD "" ++
      (if grammar.subcommands.isEmpty then "" else " <COMMAND>")
  let commands :=
    if grammar.subcommands.isEmpty then []
    else ["", "Commands:"] ++ (grammar.subcommands ++ [helpWord]).map ("  " ++ ·)
  let lines := [usage] ++ commands ++ ["", "Options:"] ++ grammar.options.map optionUsage
  String.join (lines.map (· ++ "\n"))

end Grammar

end HealthWatch.CommandLine
