import HealthWatch.Proofs.CommandLine.Parsing
import HealthWatch.Proofs.CommandLine.Valued

/-! # The words of a check

A `ValidateLine` holds the one source that is checked and the way in which it is written. It is read
as that source, and no other words are accepted as a check (`parse_validate_iff`).
-/

namespace HealthWatch.CommandLine

/-- Where the healthcheck comes from that is checked. -/
inductive Source
  | bundle (path : Bytes)
  /-- The text of an annotation. -/
  | payload (text : String)
  deriving DecidableEq, Repr

namespace Source

def option : Source → OptionSpec
  | bundle _ => bundleOption
  | payload _ => annotationOption

def long : Source → Bytes
  | bundle _ => Bytes.ofText "--bundle"
  | payload _ => Bytes.ofText "--annotation"

def short : Source → Bytes
  | bundle _ => Bytes.ofText "-b"
  | payload _ => Bytes.ofText "-a"

def bytes : Source → Bytes
  | bundle path => path
  | payload text => Bytes.ofText text

def value : Source → Value
  | bundle path => .path path
  | payload text => .text text

/-- A bundle is never empty, as it is the path of a directory. -/
def Valid : Source → Prop
  | bundle path => path ≠ []
  | payload _ => True

def bundle? : Source → Option Bytes
  | bundle path => some path
  | payload _ => none

def payload? : Source → Option String
  | bundle _ => none
  | payload text => some text

/-- The command that checks the source. -/
def command (source : Source) : Command := .validate source.bundle? source.payload?

end Source

/-- The ways to write an option with a value. -/
inductive Way
  /-- As in `--name=value`. -/
  | joined
  /-- As in `--name value`. -/
  | apart
  /-- As in `-n=value`. -/
  | shortJoined
  /-- As in `-n value`. -/
  | shortApart
  /-- As in `-nvalue`. -/
  | attached
  deriving DecidableEq, Repr

namespace Way

def words (long short bytes : Bytes) : Way → List Bytes
  | joined => [long ++ Scan.equalsSign :: bytes]
  | apart => [long, bytes]
  | shortJoined => [short ++ Scan.equalsSign :: bytes]
  | shortApart => [short, bytes]
  | attached => [short ++ bytes]

/-- Whether a value can be written in this way. -/
def Fits (bytes : Bytes) : Way → Prop
  | joined | shortJoined => True
  | apart | shortApart => Spelling.apart.Fits bytes
  | attached => bytes ≠ [] ∧ bytes.head? ≠ some Scan.equalsSign

end Way

/-- The words behind `validate`. -/
structure ValidateLine where
  source : Source
  valid : source.Valid
  way : Way
  fits : way.Fits source.bytes
  /-- Whether the end of the options is written. -/
  ended : Bool

namespace ValidateLine

variable (line : ValidateLine)

/-- The words of the source. -/
def written : List Bytes :=
  line.way.words line.source.long line.source.short line.source.bytes

def words : List Bytes := line.written ++ if line.ended then [Scan.dashes] else []

end ValidateLine

/-! ## The options that are given -/

/-- All arguments of `validate` are options with values, or ask for something else. -/
theorem valued_validate : validate.Valued where
  flat := rfl
  bare := rfl
  known _ member := Grammar.knows_of_names member (by decide) (by decide)
  flagless := by decide
  constant := by decide

namespace Source

variable {source : Source}

/-- Each source is named by an option of `validate`. -/
theorem mem (source : Source) : source.option ∈ validate.options := by
  cases source with
  | bundle => exact List.mem_cons_self
  | payload => exact List.mem_cons_of_mem _ List.mem_cons_self

theorem word_option (source : Source) : Spelled.word source.option = source.long := by
  cases source <;> exact (Bytes.ofText_append "--" _).symm

/-- The first letter of the names. -/
def letter : Source → UInt8
  | bundle _ => 0x62
  | payload _ => 0x61

/-- The short name of a source is one dash and its letter. -/
theorem short_eq (source : Source) : source.short = [dash, source.letter] := by
  cases source with
  | bundle => exact Bytes.ofText_eq "-b"
  | payload => exact Bytes.ofText_eq "-a"

/-- No source has the dash as its letter. -/
theorem letter_ne (source : Source) : source.letter ≠ dash := by
  cases source with
  | bundle => exact (by decide : (0x62 : UInt8) ≠ dash)
  | payload => exact (by decide : (0x61 : UInt8) ≠ dash)

/-- The grammar of `validate` finds the option of a source under its letter. -/
theorem shortens (source : Source) : validate.Shortens source.letter source.option where
  other := source.letter_ne
  found := by cases source <;> rfl

/-- A source is named by its long name and by its short one, and by nothing else. -/
theorem begins_iff {head : Bytes} :
    Begins validate source.option head ↔ head = source.long ∨ head = source.short := by
  constructor
  · intro begins
    cases begins with
    | long known => exact .inl source.word_option
    | short shortens =>
        rw [source.short_eq, shortens.eq source.shortens]
        exact .inr rfl
  · rintro (rfl | rfl)
    · rw [← word_option]
      exact .long (valued_validate.known _ source.mem)
    · rw [short_eq]
      exact .short source.shortens

/-- A source is given by its words in one of the ways. -/
theorem writes_iff {words : List Bytes} :
    Writes validate source.option source.bytes words ↔
      ∃ way : Way, way.Fits source.bytes ∧
        words = way.words source.long source.short source.bytes := by
  constructor
  · intro writes
    cases writes with
    | joined begins =>
        rcases begins_iff.mp begins with rfl | rfl
        · exact ⟨.joined, trivial, rfl⟩
        · exact ⟨.shortJoined, trivial, rfl⟩
    | apart begins fits =>
        rcases begins_iff.mp begins with rfl | rfl
        · exact ⟨.apart, fits, rfl⟩
        · exact ⟨.shortApart, fits, rfl⟩
    | attached shortens filled other =>
        refine ⟨.attached, ⟨filled, other⟩, ?_⟩
        rw [Way.words, short_eq, shortens.eq source.shortens]
        rfl
  · rintro ⟨way, fits, rfl⟩
    have long := begins_iff.mpr (.inl (Eq.refl source.long))
    have short := begins_iff.mpr (.inr (Eq.refl source.short))
    cases way with
    | joined => exact .joined long
    | apart => exact .apart long fits
    | shortJoined => exact .joined short
    | shortApart => exact .apart short fits
    | attached =>
        rw [Way.words, short_eq]
        exact .attached source.shortens fits.1 fits.2

/-- Whatever an option of `validate` is given by is a source. -/
theorem exists_of_gives {option : OptionSpec} {values : List Value} {words : List Bytes}
    (gives : Gives validate option values words) :
    ∃ source : Source, source.Valid ∧ source.option = option ∧
      Writes validate source.option source.bytes words ∧ [source.value] = values := by
  cases gives with
  | flag known role =>
      exact absurd role (valued_validate.flagless option (Grammar.long?_eq_some known.found).1)
  | @value kind bytes value _ role writes read =>
      have member := writes.mem
      simp only [validate, List.mem_cons, List.not_mem_nil, or_false] at member
      rcases member with rfl | rfl | rfl | rfl
      all_goals cases role
      · obtain ⟨nonempty, rfl⟩ := ValueKind.read_path.mp read
        exact ⟨bundle bytes, nonempty, rfl, writes, rfl⟩
      · obtain ⟨text, rfl, rfl⟩ := ValueKind.read_text.mp read
        exact ⟨payload text, trivial, rfl, writes, rfl⟩

/-- A valid source has a value that its option can read. -/
theorem exists_read (valid : source.Valid) :
    ∃ kind, source.option.role = .value kind ∧ kind.read source.bytes = .ok source.value := by
  cases source with
  | bundle path => exact ⟨.path, rfl, ValueKind.read_path.mpr ⟨valid, rfl⟩⟩
  | payload text => exact ⟨.text, rfl, ValueKind.read_text.mpr ⟨text, rfl, rfl⟩⟩

/-- The arguments that a source is given by. -/
def given (source : Source) : Given := [(source.option.name, [source.value])]

theorem relationFault?_given (source : Source) : validate.relationFault? source.given = none := by
  cases source <;> rfl

/-- Both sources together are refused. -/
theorem relationFault?_both {given : Given} (bundle : given.has bundleOption.name = true)
    (payload : given.has annotationOption.name = true) :
    validate.relationFault? given = some .conflict := by
  simp only [Grammar.relationFault?, validate, List.any_cons, bundle, payload, Bool.and_self,
    Bool.true_or, if_true]

/-- Two sources that are both given have different names, so they exclude each other. -/
theorem relationFault?_two {given : Given} {first second : Source}
    (earlier : given.has first.option.name = false)
    (fresh : (given.add first.option.name [first.value]).has second.option.name = false) :
    validate.relationFault? ((given.add first.option.name [first.value]).add second.option.name
      [second.value]) = some .conflict := by
  have differ : first.option.name ≠ second.option.name := by
    intro same
    rw [← same, Given.has_add_self earlier] at fresh
    cases fresh
  cases first with
  | bundle =>
      cases second with
      | bundle => exact (differ rfl).elim
      | payload =>
          exact relationFault?_both ((Given.has_add_ne differ).trans (Given.has_add_self earlier))
            (Given.has_add_self fresh)
  | payload =>
      cases second with
      | payload => exact (differ rfl).elim
      | bundle =>
          exact relationFault?_both (Given.has_add_self fresh)
            ((Given.has_add_ne differ).trans (Given.has_add_self earlier))

end Source

/-- Words that keep the rules of `validate` give one source. -/
theorem Spelt.exists_source {given : Given} {before : List Bytes}
    (spelt : Spelt validate given before) (kept : validate.relationFault? given = none) :
    ∃ (source : Source) (way : Way), source.Valid ∧ way.Fits source.bytes ∧
      given = source.given ∧ before = way.words source.long source.short source.bytes := by
  cases spelt with
  | nil => cases kept
  | snoc spelt gives fresh =>
      obtain ⟨source, valid, rfl, writes, rfl⟩ := Source.exists_of_gives gives
      cases spelt with
      | nil =>
          obtain ⟨way, fits, rfl⟩ := Source.writes_iff.mp writes
          exact ⟨source, way, valid, fits, rfl, rfl⟩
      | snoc spelt gives earlier =>
          obtain ⟨first, -, rfl, -, rfl⟩ := Source.exists_of_gives gives
          rw [Source.relationFault?_two earlier fresh] at kept
          cases kept

theorem subcommand?_validate : subcommand? "validate" = some (validate, fun given =>
    .validate (given.path? bundleOption.name) (given.text? annotationOption.name)) := rfl

/-- The program finds its subcommand under the word `validate`. -/
theorem root_validate : root.subcommand? (Bytes.ofText "validate") = some "validate" := by
  rw [Grammar.subcommand?, Bytes.text?_ofText]
  decide

theorem Source.command_given (source : Source) :
    .validate (source.given.path? bundleOption.name)
      (source.given.text? annotationOption.name) = source.command := by
  cases source <;> rfl

/-- The words of a line spell the option of its source. -/
theorem ValidateLine.spelt (line : ValidateLine) :
    Spelt validate line.source.given line.written := by
  obtain ⟨kind, role, read⟩ := Source.exists_read line.valid
  have writes := Source.writes_iff.mpr ⟨line.way, line.fits, rfl⟩
  exact .snoc .nil (.value role writes read) rfl

/-- The words of one source are all that `validate` accepts. -/
theorem readCommand_validate_iff {lookup : String → Option Bytes} {all : List Bytes}
    {command : Command} : readCommand lookup "validate" all = .ok command ↔
      ∃ line : ValidateLine, all = line.words ∧ command = line.source.command := by
  rw [readCommand_eq_ok_iff subcommand?_validate]
  constructor
  · rintro ⟨given, accepted, rfl⟩
    obtain ⟨⟨before, spelt, ends⟩, kept⟩ := (Scan.accepts_iff valued_validate).mp accepted
    obtain ⟨source, way, valid, fits, rfl, rfl⟩ := spelt.exists_source kept
    rcases ends with rfl | rfl
    · exact ⟨⟨source, valid, way, fits, false⟩, (List.append_nil _).symm, source.command_given⟩
    · exact ⟨⟨source, valid, way, fits, true⟩, rfl, source.command_given⟩
  · rintro ⟨line, rfl, rfl⟩
    refine ⟨line.source.given, (Scan.accepts_iff valued_validate).mpr ?_,
      line.source.command_given.symm⟩
    refine ⟨⟨line.written, line.spelt, ?_⟩, line.source.relationFault?_given⟩
    cases ended : line.ended with
    | false => exact .inl (by rw [ValidateLine.words, ended, if_neg Bool.false_ne_true,
        List.append_nil])
    | true => exact .inr (by rw [ValidateLine.words, ended, if_pos rfl])

/-- No other subcommand makes a check. -/
theorem eq_validate_of_readCommand {lookup : String → Option Bytes} {name : String}
    {all : List Bytes} {bundle : Option Bytes} {payload : Option String}
    (read : readCommand lookup name all = .ok (.validate bundle payload)) :
    name = "validate" := by
  cases known : subcommand? name with
  | none =>
      rw [readCommand, known] at read
      cases read
  | some found =>
      obtain ⟨given, -, same⟩ := (readCommand_eq_ok_iff known).mp read
      rw [subcommand?] at known
      split at known
      · cases known
        cases same
      split at known
      · cases known
        cases same
      split at known
      · assumption
      split at known
      · cases known
        cases same
      · cases known

/-- Words that ask for a check are those of one source behind `validate`. -/
theorem parse_validate_iff {lookup : String → Option Bytes} {all : List Bytes} {settings : Bytes}
    {verbose : Bool} {bundle : Option Bytes} {payload : Option String} :
    Invocation.parse lookup all = .ok ⟨settings, verbose, .validate bundle payload⟩ ↔
      ∃ (before : List Bytes) (line : ValidateLine),
        Opening lookup before "validate" settings verbose ∧
        all = before ++ Bytes.ofText "validate" :: line.words ∧
        bundle = line.source.bundle? ∧ payload = line.source.payload? := by
  rw [parse_eq_ok_iff]
  constructor
  · rintro ⟨before, name, behind, opening, rfl, read⟩
    cases eq_validate_of_readCommand read
    obtain ⟨line, rfl, same⟩ := readCommand_validate_iff.mp read
    cases same
    exact ⟨before, line, opening, rfl, rfl, rfl⟩
  · rintro ⟨before, line, opening, rfl, rfl, rfl⟩
    exact ⟨before, "validate", line.words, opening, rfl,
      readCommand_validate_iff.mpr ⟨line, rfl, rfl⟩⟩

/-! ## Which sources words name -/

/-- A word names an option when it is its long name, alone or with a value, or begins with its short
name. -/
def Names (long short word : Bytes) : Prop :=
  word = long ∨ long ++ [Scan.equalsSign] <+: word ∨ short <+: word

/-- Whether a word in front of the end of the options names the option. -/
def Named (long short : Bytes) (all : List Bytes) : Prop :=
  ∃ word ∈ all.takeWhile (· ≠ Scan.dashes), Names long short word

def NamesBundle : List Bytes → Prop := Named (Bytes.ofText "--bundle") (Bytes.ofText "-b")

def NamesPayload : List Bytes → Prop := Named (Bytes.ofText "--annotation") (Bytes.ofText "-a")

/-- In whichever way a source is written, one of its words names it. -/
theorem Way.exists_names (way : Way) (long short bytes : Bytes) :
    ∃ word ∈ way.words long short bytes, Names long short word := by
  cases way with
  | joined => exact ⟨_, List.mem_singleton_self _, .inr (.inl ⟨bytes, by simp⟩)⟩
  | apart => exact ⟨_, List.mem_cons_self, .inl rfl⟩
  | shortJoined | attached =>
      exact ⟨_, List.mem_singleton_self _, .inr (.inr (List.prefix_append _ _))⟩
  | shortApart => exact ⟨_, List.mem_cons_self, .inr (.inr List.prefix_rfl)⟩

/-- A word of a source names it, or is a value that stands alone. -/
theorem Way.names_or_fits {way : Way} {long short bytes word : Bytes} (fits : way.Fits bytes)
    (member : word ∈ way.words long short bytes) :
    Names long short word ∨ Spelling.apart.Fits word := by
  cases way with
  | joined =>
      cases List.mem_singleton.mp member
      exact .inl (.inr (.inl ⟨bytes, by simp⟩))
  | shortJoined | attached =>
      cases List.mem_singleton.mp member
      exact .inl (.inr (.inr (List.prefix_append _ _)))
  | apart =>
      rcases List.mem_pair.mp member with rfl | rfl
      · exact .inl (.inl rfl)
      · exact .inr fits
  | shortApart =>
      rcases List.mem_pair.mp member with rfl | rfl
      · exact .inl (.inr (.inr List.prefix_rfl))
      · exact .inr fits

namespace Source

variable {source : Source} {word : Bytes}

/-- The long name of a source is two dashes and its letter, and more. -/
theorem long_prefix (source : Source) : [dash, dash, source.letter] <+: source.long := by
  cases source with
  | bundle =>
      rw [long, Bytes.ofText_eq]
      exact ⟨_, rfl⟩
  | payload =>
      rw [long, Bytes.ofText_eq]
      exact ⟨_, rfl⟩

/-- Words that name a source are told apart by the letter behind their dashes. -/
theorem letter_of_names (names : Names source.long source.short word) :
    [dash, source.letter] <+: word ∨ [dash, dash, source.letter] <+: word := by
  rcases names with rfl | begins | begins
  · exact .inr source.long_prefix
  · exact .inr ((source.long_prefix.trans (List.prefix_append _ _)).trans begins)
  · rw [short_eq] at begins
    exact .inl begins

/-- A word names one source only. -/
theorem letter_eq {other : Source} (names : Names source.long source.short word)
    (also : Names other.long other.short word) : source.letter = other.letter := by
  rcases letter_of_names names with ⟨rest, rfl⟩ | ⟨rest, rfl⟩
  · rcases letter_of_names also with begins | begins
    · simp only [List.cons_append, List.cons_prefix_cons] at begins
      exact begins.2.1.symm
    · simp only [List.cons_append, List.cons_prefix_cons] at begins
      exact absurd begins.2.1.symm source.letter_ne
  · rcases letter_of_names also with begins | begins
    · simp only [List.cons_append, List.cons_prefix_cons] at begins
      exact absurd begins.2.1 other.letter_ne
    · simp only [List.cons_append, List.cons_prefix_cons] at begins
      exact begins.2.2.1.symm

/-- Sources with one letter have the same names. -/
theorem names_of_letter {other : Source} (same : source.letter = other.letter) :
    source.long = other.long ∧ source.short = other.short := by
  cases source with
  | bundle =>
      cases other with
      | bundle => exact ⟨rfl, rfl⟩
      | payload => exact absurd same (by decide : (0x62 : UInt8) ≠ 0x61)
  | payload =>
      cases other with
      | payload => exact ⟨rfl, rfl⟩
      | bundle => exact absurd same (by decide : (0x61 : UInt8) ≠ 0x62)

/-- A word that names a source does not end the options. -/
theorem ne_dashes_of_names (names : Names source.long source.short word) :
    word ≠ Scan.dashes := by
  rintro rfl
  rw [Scan.dashes_eq] at names
  rcases letter_of_names names with begins | begins
  · simp only [List.cons_prefix_cons] at begins
    exact source.letter_ne begins.2.1
  · simp only [List.cons_prefix_cons, List.prefix_nil, List.cons_ne_nil, and_false] at begins

/-- A value that stands alone does not name a source. -/
theorem not_names_of_fits (fits : Spelling.apart.Fits word) :
    ¬Names source.long source.short word := by
  intro names
  have alone : word = [dash] := by
    apply fits
    rcases letter_of_names names with ⟨rest, rfl⟩ | ⟨rest, rfl⟩ <;> rfl
  cases alone
  rcases letter_of_names names with begins | begins
  all_goals
    simp only [List.cons_prefix_cons, List.prefix_nil, List.cons_ne_nil, and_false] at begins

end Source

namespace ValidateLine

variable (line : ValidateLine)

/-- Only the word behind them ends the options. -/
theorem takeWhile_words : line.words.takeWhile (· ≠ Scan.dashes) = line.written := by
  have going : ∀ word ∈ line.written, decide (word ≠ Scan.dashes) = true := by
    intro word member
    rw [decide_eq_true_eq]
    rcases Way.names_or_fits line.fits member with names | fits
    · exact Source.ne_dashes_of_names names
    · exact (Scan.not_option_of_fits fits).1
  rw [words, List.takeWhile_append_of_pos going]
  cases line.ended <;> simp

/-- The words name the source that they give and no other one. -/
theorem named_iff (other : Source) :
    Named other.long other.short line.words ↔ line.source.letter = other.letter := by
  rw [Named, takeWhile_words]
  constructor
  · rintro ⟨word, member, also⟩
    rcases Way.names_or_fits line.fits member with names | fits
    · exact Source.letter_eq names also
    · exact absurd also (Source.not_names_of_fits fits)
  · intro same
    obtain ⟨long, short⟩ := Source.names_of_letter same
    rw [← long, ← short]
    exact line.way.exists_names line.source.long line.source.short line.source.bytes

/-- A line names a bundle exactly when its source is one. -/
theorem namesBundle_iff : NamesBundle line.words ↔ line.source.bundle?.isSome = true := by
  refine (line.named_iff (.bundle [])).trans ?_
  cases line.source with
  | bundle path => exact iff_of_true rfl rfl
  | payload text =>
      exact iff_of_false (by decide : (0x61 : UInt8) ≠ 0x62) Bool.false_ne_true

/-- A line names an annotation exactly when its source is one. -/
theorem namesPayload_iff :
    NamesPayload line.words ↔ line.source.payload?.isSome = true := by
  refine (line.named_iff (.payload "")).trans ?_
  cases line.source with
  | bundle path => exact iff_of_false (by decide : (0x62 : UInt8) ≠ 0x61) Bool.false_ne_true
  | payload text => exact iff_of_true rfl rfl

end ValidateLine

end HealthWatch.CommandLine
