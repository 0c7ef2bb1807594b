import HealthWatch.CommandLine.Grammar

/-! # Scanning command lines

The words of a command line are read one after the other. A value is only checked when the
next argument begins or when the words are over, so a word that makes no sense is refused
before a wrong value in front of it, unless that word begins another argument.
-/

namespace HealthWatch.CommandLine

/-- An argument whose values are being collected. -/
structure Pending where
  name : String
  kind : ValueKind
  /-- Whether it takes any number of values. -/
  many : Bool
  values : List Bytes
  deriving DecidableEq, Repr

/-- How far the words have been read. -/
structure Scan where
  given : Given := []
  pending : Option Pending := none
  /-- Whether the pending option still needs its value. -/
  awaiting : Bool := false
  /-- Whether the word that ends all options has been read. -/
  escaped : Bool := false
  /-- Whether the place of the positional argument has been passed. -/
  filled : Bool := false
  deriving DecidableEq, Repr

namespace Scan

/-- Takes note of an argument with its values. -/
def record (scan : Scan) (pending : Pending) : Except UsageFault Scan :=
  if pending.values = [] then .error .invalidValue
  else if scan.given.has pending.name then .error .conflict
  else
    match pending.values.mapM pending.kind.read with
    | .error fault => .error fault
    | .ok values => .ok { scan with given := scan.given.add pending.name values }

/-- Checks the pending values. -/
def settle (scan : Scan) : Except UsageFault Scan :=
  match scan.pending with
  | none => .ok { scan with awaiting := false }
  | some pending => { scan with pending := none, awaiting := false }.record pending

/-- An argument that begins here is given, with these values if it takes any. -/
def take (program : String) (scan : Scan) (option : OptionSpec) (value : Option Bytes) :
    Except UsageFault Scan := do
  let scan ← scan.settle
  match option.role with
  | .help => .error (.helpRequested program)
  | .version => .error (.versionRequested program)
  | .flag =>
      if scan.given.has option.name then .error .conflict
      else .ok { scan with given := scan.given.add option.name [] }
  | .value kind =>
      match value with
      | some value => scan.record ⟨option.name, kind, false, [value]⟩
      | none =>
          .ok { scan with pending := some ⟨option.name, kind, false, []⟩, awaiting := true }

/-- The two dashes in front of a long name, or alone the end of all options. -/
def dashes : Bytes := Bytes.ofText "--"

/-- Whether a word begins with a long name. -/
def isLong (word : Bytes) : Bool := dashes.isPrefixOf word && word != dashes

/-- Whether a word begins with short names. -/
def isShort (word : Bytes) : Bool :=
  match word with
  | first :: second :: _ => first = 0x2D && second != 0x2D
  | _ => false

/-- The byte between a long name and its value. -/
def equalsSign : UInt8 := 0x3D

/-- A word with a long name, and perhaps a value after an equals sign. -/
def readLong (grammar : Grammar) (scan : Scan) (word : Bytes) : Except UsageFault Scan :=
  let (name, after) := (word.drop dashes.length).span (· ≠ equalsSign)
  let value : Option Bytes := match after with
    | [] => none
    | _ :: value => some value
  match (Bytes.text? name).bind grammar.long? with
  | none => .error .unknownArgument
  | some option =>
      match option.role, value with
      | .value _, value => scan.take grammar.program option value
      | _, some _ => .error .tooManyValues
      | _, none => scan.take grammar.program option none

/-- A word with short names: flags, and at the end perhaps an option whose value is the rest
of the word, with or without an equals sign. -/
def readShort (grammar : Grammar) (scan : Scan) : Bytes → Except UsageFault Scan
  | [] => .ok scan
  | byte :: rest =>
      match grammar.short? (Char.ofNat byte.toNat) with
      | none => .error .unknownArgument
      | some option =>
          match option.role with
          | .value _ =>
              match rest with
              | [] => scan.take grammar.program option none
              | first :: value =>
                  scan.take grammar.program option
                    (some (if first = equalsSign then value else first :: value))
          | _ => do readShort grammar (← scan.take grammar.program option none) rest

/-- A word where only the positional argument can stand. -/
def readPositional (grammar : Grammar) (scan : Scan) (word : Bytes) : Except UsageFault Scan :=
  match if scan.filled then none else grammar.positional with
  | none =>
      if grammar.subcommands.isEmpty then .error .unknownArgument
      else if scan.escaped && (grammar.subcommand? word).isSome then .error .unknownArgument
      else .error .unknownSubcommand
  | some positional =>
      if positional.escaped && !scan.escaped then .error .unknownArgument
      else
        match scan.pending with
        | some pending =>
            if positional.many && pending.name = positional.name then
              .ok { scan with
                pending := some { pending with values := pending.values ++ [word] } }
            else do
              let scan ← scan.settle
              .ok { scan with
                pending := some ⟨positional.name, positional.kind, positional.many, [word]⟩
                filled := !positional.many }
        | none =>
            .ok { scan with
              pending := some ⟨positional.name, positional.kind, positional.many, [word]⟩
              filled := !positional.many }

/-- Reads one word that is not the name of a subcommand. -/
def step (grammar : Grammar) (scan : Scan) (word : Bytes) : Except UsageFault Scan :=
  if scan.escaped then scan.readPositional grammar word
  else if word = dashes then .ok { scan with escaped := true }
  else if isLong word then readLong grammar scan word
  else if isShort word then readShort grammar scan (word.drop 1)
  else if scan.awaiting then
    .ok { scan with
      pending := scan.pending.map fun pending =>
        { pending with values := pending.values ++ [word] }
      awaiting := false }
  else scan.readPositional grammar word

/-- The subcommand that a word begins, at this place. -/
def subcommandHere? (grammar : Grammar) (scan : Scan) (word : Bytes) : Option String :=
  if scan.escaped || scan.awaiting then none else grammar.subcommand? word

/-- Reads words up to the end or up to the name of a subcommand, which is given with the
words after it. -/
def words (grammar : Grammar) (scan : Scan) :
    List Bytes → Except UsageFault (Scan × Option (String × List Bytes))
  | [] => .ok (scan, none)
  | word :: rest =>
      match scan.subcommandHere? grammar word with
      | some name => .ok (scan, some (name, rest))
      | none =>
          match scan.step grammar word with
          | .error fault => .error fault
          | .ok scan => words grammar scan rest

/-- The values of environment variables for options that are not given. -/
def addVariables (lookup : String → Option Bytes) (given : Given) :
    List OptionSpec → Except UsageFault Given
  | [] => .ok given
  | option :: rest =>
      match option.role, option.fallback.bind lookup with
      | .value kind, some bytes =>
          if given.has option.name then addVariables lookup given rest
          else
            match kind.read bytes with
            | .error fault => .error fault
            | .ok value => addVariables lookup (given.add option.name [value]) rest
      | _, _ => addVariables lookup given rest

/-- The arguments at the end of all words, which must keep the rules of the grammar. -/
def finish (grammar : Grammar) (lookup : String → Option Bytes) (scan : Scan) :
    Except UsageFault Given := do
  let scan ← scan.settle
  let given ← addVariables lookup scan.given grammar.options
  match grammar.relationFault? given with
  | some fault => .error fault
  | none => .ok given

end Scan

end HealthWatch.CommandLine
