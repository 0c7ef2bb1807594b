import HealthWatch.CommandLine.Scan
import HealthWatch.Proofs.Bytes
import Mathlib.Data.List.Nodup
import Mathlib.Data.List.TakeDrop

/-! # Spelling options

An option with a value can be written as one word or as two, and each of these words is read by a
step of its own. A scan that stands between two arguments has taken all values as they are
(`Scan.Between`). Behind the word that ends all options every further word is a value of the
positional argument, whatever it looks like (`Scan.Between.words_escaped`).
-/

namespace HealthWatch.CommandLine

/-! ## Arguments that are given -/

namespace Given

variable {given : Given} {name other : String} {values : List Value}

theorem values?_append (first second : Given) (name : String) :
    values? (first ++ second) name = (first.values? name).or (second.values? name) :=
  List.lookup_append

theorem values?_cons_self (name : String) (values : List Value) (rest : Given) :
    values? ((name, values) :: rest) name = some values := by
  rw [values?, List.lookup_cons, beq_self_eq_true]

/-- An argument is not found under another name. -/
theorem values?_cons_ne (differ : name ≠ other) (values : List Value) (rest : Given) :
    values? ((other, values) :: rest) name = rest.values? name := by
  rw [values?, List.lookup_cons, beq_eq_false_iff_ne.mpr differ]
  rfl

theorem has_eq_false : given.has name = false ↔ given.values? name = none := by
  rw [has, Option.isSome_eq_false_iff, Option.isNone_iff_eq_none]

/-- A new argument is found with the values it was given. -/
theorem values?_add_self (fresh : given.has name = false) :
    (given.add name values).values? name = some values := by
  rw [add, values?_append, has_eq_false.mp fresh, values?_cons_self]
  rfl

/-- A new argument leaves those with other names alone. -/
theorem values?_add_ne (differ : name ≠ other) :
    (given.add other values).values? name = given.values? name := by
  rw [add, values?_append, values?_cons_ne differ]
  exact Option.or_none

/-- A new argument is given from then on. -/
theorem has_add_self (fresh : given.has name = false) :
    (given.add name values).has name = true := by
  rw [has, values?_add_self fresh]
  rfl

theorem has_add_ne (differ : name ≠ other) :
    (given.add other values).has name = given.has name := by
  rw [has, values?_add_ne differ, has]

end Given

/-! ## Values that are read -/

namespace ValueKind

variable {bytes : Bytes} {value : Value}

/-- Texts are read from their own bytes and from no others. -/
theorem read_text : text.read bytes = .ok value ↔
    ∃ content, bytes = Bytes.ofText content ∧ value = .text content := by
  rw [read]
  constructor
  · intro read
    cases content : bytes.text? with
    | none =>
        rw [content] at read
        cases read
    | some text =>
        rw [content] at read
        cases read
        exact ⟨text, Bytes.text?_eq_some.mp content, rfl⟩
  · rintro ⟨content, rfl, rfl⟩
    rw [Bytes.text?_ofText]

/-- Any bytes are read as a path, unless there are none. -/
theorem read_path : path.read bytes = .ok value ↔ bytes ≠ [] ∧ value = .path bytes := by
  rw [read]
  by_cases empty : bytes = []
  · rw [if_pos empty]
    exact ⟨nofun, fun nonempty => absurd empty nonempty.1⟩
  · rw [if_neg empty]
    constructor
    · intro read
      cases read
      exact ⟨empty, rfl⟩
    · rintro ⟨-, rfl⟩
      rfl

/-- A number is read from a text that stands for it, if it is inside its bounds. -/
theorem read_number {low high : Int} : (number low high).read bytes = .ok value ↔
    ∃ content amount, bytes = Bytes.ofText content ∧ readNumber content = some amount ∧
      (low ≤ amount ∧ amount ≤ high) ∧ value = .number amount := by
  rw [read]
  constructor
  · intro read
    cases content : bytes.text? with
    | none =>
        rw [content] at read
        cases read
    | some text =>
        rw [content] at read
        dsimp only at read
        cases amount : readNumber text with
        | none =>
            rw [amount] at read
            cases read
        | some amount' =>
            rw [amount] at read
            dsimp only at read
            split at read
            · rename_i inside
              cases read
              exact ⟨text, amount', Bytes.text?_eq_some.mp content, amount, inside, rfl⟩
            · cases read
  · rintro ⟨content, amount, rfl, read, inside, rfl⟩
    rw [Bytes.text?_ofText]
    dsimp only
    rw [read]
    exact if_pos inside

end ValueKind

/-! ## The words of an option -/

/-- How the value of an option is written. -/
inductive Spelling
  /-- In the word of the option, behind an equals sign. -/
  | joined
  /-- As the next word. -/
  | apart
  deriving DecidableEq, Repr

/-- The byte that options begin with. -/
def dash : UInt8 := 0x2D

/-- Whether a value can be written in this way. Only a dash alone can be a word of its own, of all
the values that begin with a dash. -/
def Spelling.Fits : Spelling → Bytes → Prop
  | .joined, _ => True
  | .apart, value => value.head? = some dash → value = [dash]

instance (spelling : Spelling) (value : Bytes) : Decidable (spelling.Fits value) := by
  unfold Spelling.Fits
  cases spelling <;> exact inferInstance

/-- An option as it is written, and what it stands for. -/
structure Spelled where
  option : OptionSpec
  /-- The bytes of its value, if it takes one. -/
  written : Option (Spelling × Bytes)
  values : List Value
  deriving DecidableEq, Repr

namespace Spelled

/-- The word of an option without a value. -/
def word (option : OptionSpec) : Bytes := Scan.dashes ++ Bytes.ofText option.name

def words (spelled : Spelled) : List Bytes :=
  match spelled.written with
  | none => [word spelled.option]
  | some (.joined, value) => [word spelled.option ++ Scan.equalsSign :: value]
  | some (.apart, value) => [word spelled.option, value]

/-- What a scan takes note of when it reads the options. -/
def entries (options : List Spelled) : Given :=
  options.map fun spelled => (spelled.option.name, spelled.values)

end Spelled

/-- Whether a grammar finds the option under its long name. -/
structure Grammar.Knows (grammar : Grammar) (option : OptionSpec) : Prop where
  found : grammar.long? option.name = some option
  named : Bytes.ofText option.name ≠ []
  unsplit : Scan.equalsSign ∉ Bytes.ofText option.name

/-- Names that are texts are checked by their characters. -/
theorem Grammar.knows_of_names {grammar : Grammar} {option : OptionSpec}
    (member : option ∈ grammar.options)
    (found : ∀ option ∈ grammar.options, grammar.long? option.name = some option)
    (names : ∀ option ∈ grammar.options,
      option.name.toList.flatMap String.utf8EncodeChar ≠ [] ∧
        Scan.equalsSign ∉ option.name.toList.flatMap String.utf8EncodeChar) :
    grammar.Knows option where
  found := found option member
  named := by
    rw [Bytes.ofText_eq]
    exact (names option member).1
  unsplit := by
    rw [Bytes.ofText_eq]
    exact (names option member).2

/-- An option that is found under its name does not have a name that finds nothing. -/
theorem Grammar.Knows.name_ne {grammar : Grammar} {option : OptionSpec} {name : String}
    (known : grammar.Knows option) (unnamed : grammar.long? name = none) : option.name ≠ name := by
  rintro rfl
  rw [known.found] at unnamed
  cases unnamed

/-- What options give is what has the name of one of them. -/
theorem Given.has_entries {options : List Spelled} {name : String} :
    (Spelled.entries options).has name = false ↔ name ∉ options.map (·.option.name) := by
  rw [has_eq_false, values?, List.lookup_eq_none_iff, Spelled.entries, List.forall_mem_map]
  constructor
  · intro differ member
    obtain ⟨spelled, present, rfl⟩ := List.mem_map.mp member
    exact bne_iff_ne.mp (differ spelled present) rfl
  · intro absent spelled present
    rw [bne_iff_ne]
    rintro rfl
    exact absent (List.mem_map_of_mem present)

namespace Scan

/-- The word that ends the options is two dashes. -/
theorem dashes_eq : dashes = [dash, dash] := by
  rw [dashes, Bytes.ofText_eq]
  rfl

theorem isLong_append {name : Bytes} (named : name ≠ []) (after : Bytes) :
    isLong (dashes ++ name ++ after) = true := by
  obtain ⟨byte, rest, rfl⟩ := List.exists_cons_of_ne_nil named
  rw [isLong, dashes_eq]
  simp

/-- A value that can stand alone does not look like an option or like the end of them. -/
theorem not_option_of_fits {value : Bytes} (fits : Spelling.apart.Fits value) :
    value ≠ dashes ∧ isLong value = false ∧ isShort value = false := by
  rw [isLong, dashes_eq]
  match value, fits with
  | [], _ => decide
  | [byte], _ =>
      refine ⟨by simp, by simp, rfl⟩
  | first :: second :: rest, fits =>
      have other : first ≠ dash := by
        intro begins
        cases fits (congrArg some begins)
      refine ⟨by simp [other], ?_, ?_⟩
      · simp [Ne.symm other]
      · have other : ¬first = 0x2D := other
        simp [isShort, other]

/-- A name ends where the word ends or where an equals sign stands. -/
theorem span_name {name after : Bytes} (unsplit : equalsSign ∉ name)
    (split : ∀ byte ∈ after.head?, byte = equalsSign) :
    (name ++ after).span (· ≠ equalsSign) = (name, after) := by
  have inside : ∀ byte ∈ name, decide (byte ≠ equalsSign) = true :=
    fun byte member => decide_eq_true (ne_of_mem_of_not_mem member unsplit)
  rw [List.span_eq_takeWhile_dropWhile, List.takeWhile_append_of_pos inside,
    List.dropWhile_append_of_pos inside]
  cases after with
  | nil => simp
  | cons byte rest =>
      cases split byte rfl
      simp

/-! ## Between two arguments -/

/-- The scan stands between two arguments. All that it has read is given, but for the value of the
last option, which is only read when the next argument begins. -/
inductive Between : Scan → Given → Prop
  | settled (given : Given) : Between { given } given
  | pending {given : Given} {name : String} {kind : ValueKind} {bytes : Bytes} {value : Value}
      (fresh : given.has name = false) (read : kind.read bytes = .ok value) :
      Between { given, pending := some ⟨name, kind, false, [bytes]⟩ } (given.add name [value])

section Steps

variable {grammar : Grammar} {scan next : Scan} {given : Given}

/-- A value that can be read is taken note of, unless its argument has been given before. -/
theorem record_value {name : String} {kind : ValueKind} {many : Bool} {bytes : Bytes}
    {value : Value} (fresh : scan.given.has name = false) (read : kind.read bytes = .ok value) :
    scan.record ⟨name, kind, many, [bytes]⟩ =
      .ok { scan with given := scan.given.add name [value] } := by
  have single : [bytes].mapM kind.read = .ok [value] := by
    simp only [List.mapM_cons, List.mapM_nil, read]
    rfl
  have conflict : ¬scan.given.has name = true := Bool.eq_false_iff.mp fresh
  rw [record, if_neg (List.cons_ne_nil _ _), if_neg conflict]
  dsimp only
  rw [single]

/-- Between two arguments everything that has been read can be taken note of. -/
theorem Between.settle (between : scan.Between given) : scan.settle = .ok { given } := by
  cases between with
  | settled => rfl
  | pending fresh read =>
      rw [Scan.settle]
      exact record_value fresh read

theorem Between.unescaped (between : scan.Between given) : scan.escaped = false := by
  cases between <;> rfl

/-- A grammar without subcommands reads every word itself. -/
theorem subcommandHere?_flat (flat : grammar.subcommands = []) (word : Bytes) :
    scan.subcommandHere? grammar word = none := by
  rw [subcommandHere?, Grammar.subcommand?, flat]
  split
  · rfl
  · split <;> rfl

theorem words_cons (flat : grammar.subcommands = []) {word : Bytes}
    (step : scan.step grammar word = .ok next) (rest : List Bytes) :
    words grammar scan (word :: rest) = words grammar next rest := by
  rw [words, subcommandHere?_flat flat]
  dsimp only
  rw [step]

/-- A word with a long name is read as such. -/
theorem step_word {option : OptionSpec} (known : grammar.Knows option)
    (unescaped : scan.escaped = false) (after : Bytes) :
    scan.step grammar (Spelled.word option ++ after) =
      scan.readLong grammar (Spelled.word option ++ after) := by
  have long : isLong (Spelled.word option ++ after) = true := isLong_append known.named after
  have going : ¬Spelled.word option ++ after = dashes := by
    intro ends
    rw [ends, isLong, bne_self_eq_false, Bool.and_false] at long
    cases long
  rw [step, unescaped, if_neg Bool.false_ne_true, if_neg going, if_pos long]

/-- A long name, with or without a value behind an equals sign, is read by what its option is. -/
theorem readLong_word {option : OptionSpec} (known : grammar.Knows option) {after : Bytes}
    (split : ∀ byte ∈ after.head?, byte = equalsSign) :
    scan.readLong grammar (Spelled.word option ++ after) =
      match option.role, after.tail? with
      | .value _, value => scan.take grammar.program option value
      | _, some _ => .error .tooManyValues
      | _, none => scan.take grammar.program option none := by
  have name : (Spelled.word option ++ after).drop dashes.length =
      Bytes.ofText option.name ++ after := by
    rw [Spelled.word, List.append_assoc, List.drop_left]
  unfold readLong
  rw [name, span_name known.unsplit split]
  dsimp only
  rw [Bytes.text?_ofText, Option.bind_some, known.found]
  cases after <;> rfl

/-- A long name alone begins its option. -/
theorem step_alone {option : OptionSpec} (known : grammar.Knows option)
    (unescaped : scan.escaped = false) :
    scan.step grammar (Spelled.word option) = scan.take grammar.program option none := by
  have split : ∀ byte ∈ ([] : Bytes).head?, byte = equalsSign := by simp
  rw [← List.append_nil (Spelled.word option), step_word known unescaped,
    readLong_word known split]
  cases option.role <;> rfl

/-- A long name with a value behind an equals sign is an option with this value. -/
theorem step_joined {option : OptionSpec} {kind : ValueKind} (known : grammar.Knows option)
    (role : option.role = .value kind) (unescaped : scan.escaped = false) (value : Bytes) :
    scan.step grammar (Spelled.word option ++ equalsSign :: value) =
      scan.take grammar.program option (some value) := by
  have split : ∀ byte ∈ (equalsSign :: value).head?, byte = equalsSign := by simp
  rw [step_word known unescaped, readLong_word known split, role]
  rfl

/-- A flag that has not been given yet is taken note of. -/
theorem take_flag (settles : scan.settle = .ok { given }) {option : OptionSpec}
    (role : option.role = .flag) (fresh : given.has option.name = false) (program : String) :
    scan.take program option none = .ok { given := given.add option.name [] } := by
  have conflict : ¬given.has option.name = true := Bool.eq_false_iff.mp fresh
  simp only [take, settles, role, bind, Except.bind, if_neg conflict]

/-- A value that can be read is taken note of at once when it stands with its option. -/
theorem take_value (settles : scan.settle = .ok { given }) {option : OptionSpec}
    {kind : ValueKind} {bytes : Bytes} {value : Value} (role : option.role = .value kind)
    (fresh : given.has option.name = false) (read : kind.read bytes = .ok value)
    (program : String) :
    scan.take program option (some bytes) = .ok { given := given.add option.name [value] } := by
  simp only [take, settles, role, bind, Except.bind]
  exact record_value fresh read

theorem take_awaiting (settles : scan.settle = .ok { given }) {option : OptionSpec}
    {kind : ValueKind} (role : option.role = .value kind) (program : String) :
    scan.take program option none =
      .ok { given, pending := some ⟨option.name, kind, false, []⟩, awaiting := true } := by
  simp only [take, settles, role, bind, Except.bind]

/-- The next word is the value that an option waits for, unless it looks like an option. -/
theorem step_awaiting {name : String} {kind : ValueKind} {bytes : Bytes}
    (fits : Spelling.apart.Fits bytes) :
    step grammar { given, pending := some ⟨name, kind, false, []⟩, awaiting := true } bytes =
      .ok { given, pending := some ⟨name, kind, false, [bytes]⟩ } := by
  obtain ⟨going, long, short⟩ := not_option_of_fits fits
  rw [step, if_neg Bool.false_ne_true, if_neg going, long, short, if_neg Bool.false_ne_true,
    if_neg Bool.false_ne_true, if_pos rfl]
  rfl

end Steps

/-! ## Behind the end of the options -/

section Escaped

variable {grammar : Grammar} {scan next : Scan} {given : Given} {positional : PositionalSpec}

/-- The scan is reading the values of a positional argument that takes every further word. -/
def collecting (given : Given) (positional : PositionalSpec) (values : List Bytes) : Scan where
  given := given
  pending := some ⟨positional.name, positional.kind, true, values⟩
  escaped := true

/-- Once values of a positional argument are being read, every further word is one more of them. -/
theorem words_collecting (flat : grammar.subcommands = [])
    (takes : grammar.positional = some positional) (many : positional.many = true)
    (values rest : List Bytes) :
    words grammar (collecting given positional values) rest =
      .ok (collecting given positional (values ++ rest), none) := by
  induction rest generalizing values with
  | nil => rw [words, List.append_nil]
  | cons word rest ih =>
      have taken : step grammar (collecting given positional values) word =
          .ok (collecting given positional (values ++ [word])) := by
        rw [step, collecting, if_pos rfl, readPositional, if_neg Bool.false_ne_true, takes]
        simp [many, collecting]
      rw [words_cons flat taken, ih, List.append_assoc, List.singleton_append]

/-- Two dashes alone end the options. -/
theorem step_dashes (unescaped : scan.escaped = false) :
    scan.step grammar dashes = .ok { scan with escaped := true } := by
  rw [step, unescaped, if_neg Bool.false_ne_true, if_pos rfl]

/-- Behind the end of the options every word is a value, whatever it looks like. -/
theorem Between.words_escaped (flat : grammar.subcommands = []) (between : scan.Between given)
    (takes : grammar.positional = some positional) (many : positional.many = true)
    (fresh : given.has positional.name = false) (first : Bytes) (rest : List Bytes) :
    words grammar scan (dashes :: first :: rest) =
      .ok (collecting given positional (first :: rest), none) := by
  have taken : step grammar { scan with escaped := true } first =
      .ok (collecting given positional [first]) := by
    rw [step, if_pos rfl, readPositional]
    cases between with
    | settled => simp [takes, many, collecting]
    | @pending earlier name kind bytes value new read =>
        -- The option that is still open has another name, as the positional argument is not given.
        have differ : name ≠ positional.name := by
          rintro rfl
          rw [Given.has_add_self new] at fresh
          cases fresh
        have settles : Scan.settle
            { given := earlier, pending := some ⟨name, kind, false, [bytes]⟩, escaped := true } =
              .ok { given := earlier.add name [value], escaped := true } := record_value new read
        simp [takes, many, differ, settles, bind, Except.bind, collecting]
  rw [words_cons flat (step_dashes between.unescaped), words_cons flat taken,
    words_collecting flat takes many]
  rfl

/-- Texts are read back from their bytes. -/
theorem mapM_read_text (texts : List String) :
    (texts.map Bytes.ofText).mapM ValueKind.text.read = .ok (texts.map Value.text) := by
  induction texts with
  | nil => rfl
  | cons text texts ih =>
      have read : ValueKind.text.read (Bytes.ofText text) = .ok (.text text) :=
        ValueKind.read_text.mpr ⟨text, rfl, rfl⟩
      simp only [List.map_cons, List.mapM_cons, ih, read]
      rfl

/-- Options that no environment variable stands in for are given on the command line only. -/
theorem addVariables_constant (lookup : String → Option Bytes) (given : Given)
    {options : List OptionSpec} (constant : ∀ option ∈ options, option.fallback = none) :
    addVariables lookup given options = .ok given := by
  induction options with
  | nil => rfl
  | cons option options ih =>
      obtain ⟨none, others⟩ := List.forall_mem_cons.mp constant
      unfold addVariables
      rw [none, ih others]
      cases option.role <;> rfl

theorem finish_settled (lookup : String → Option Bytes) (settles : scan.settle = .ok next)
    (constant : ∀ option ∈ grammar.options, option.fallback = none)
    (kept : grammar.relationFault? next.given = none) :
    scan.finish grammar lookup = .ok next.given := by
  simp only [finish, settles, bind, Except.bind, addVariables_constant lookup _ constant, kept]

/-- Texts that were collected are taken note of as the values of their argument. -/
theorem settle_collecting (fresh : given.has positional.name = false)
    (kind : positional.kind = .text) {texts : List String} (some : texts ≠ []) :
    (collecting given positional (texts.map Bytes.ofText)).settle =
      .ok { given := given.add positional.name (texts.map Value.text), escaped := true } := by
  have nonempty : ¬texts.map Bytes.ofText = [] := by
    rwa [List.map_eq_nil_iff]
  have conflict : ¬given.has positional.name = true := Bool.eq_false_iff.mp fresh
  rw [settle, collecting]
  dsimp only
  rw [record, if_neg nonempty, if_neg conflict, kind]
  dsimp only
  rw [mapM_read_text]

end Escaped

end Scan

end HealthWatch.CommandLine
