import HealthWatch.Proofs.CommandLine.Options
import HealthWatch.Proofs.CommandLine.Parsing

/-! # The words of a probe

A `ProbeLine` holds the options of a probe as they are written, and the words of its command. It is
read as what it holds, whatever the words of the command look like (`ProbeLine.parse_words`), and no
other words with an end of the options are accepted at all (`ProbeLine.exists_of_parse`).
-/

namespace HealthWatch.CommandLine

/-- An option of a probe as it is written. -/
inductive ProbeOption
  | container (spelling : Spelling) (id : String)
  | inside
  | runtime (spelling : Spelling) (program : Bytes)
  /-- A text that stands for a number of seconds. -/
  | timeout (spelling : Spelling) (text : String) (seconds : Int)
  deriving DecidableEq, Repr

namespace ProbeOption

def spelled : ProbeOption → Spelled
  | container spelling id => ⟨containerOption, some (spelling, Bytes.ofText id), [.text id]⟩
  | inside => ⟨execOption, none, []⟩
  | runtime spelling program => ⟨runtimeOption, some (spelling, program), [.path program]⟩
  | timeout spelling text seconds =>
      ⟨timeoutOption, some (spelling, Bytes.ofText text), [.number seconds]⟩

def name (option : ProbeOption) : String := option.spelled.option.name

def words (option : ProbeOption) : List Bytes := option.spelled.words

/-- Whether the option is written as it has to be. -/
def Valid : ProbeOption → Prop
  | container spelling id => spelling.Fits (Bytes.ofText id)
  | inside => True
  | runtime spelling program => spelling.Fits program ∧ program ≠ []
  | timeout spelling text seconds =>
      spelling.Fits (Bytes.ofText text) ∧ readNumber text = some seconds ∧
        -0x8000000000000000 ≤ seconds ∧ seconds ≤ 0x7FFFFFFFFFFFFFFF

instance (option : ProbeOption) : Decidable option.Valid := by
  unfold Valid
  cases option <;> exact inferInstance

def container? : ProbeOption → Option String
  | container _ id => some id
  | _ => none

def runtime? : ProbeOption → Option Bytes
  | runtime _ program => some program
  | _ => none

def seconds? : ProbeOption → Option Int
  | timeout _ _ seconds => some seconds
  | _ => none

theorem knows {option : OptionSpec} (member : option ∈ probe.options) : probe.Knows option :=
  Grammar.knows_of_names member (by decide) (by decide)

/-- What is written for a probe are options of its grammar. -/
theorem mem_options (option : ProbeOption) : option.spelled.option ∈ probe.options := by
  have known : containerOption ∈ probe.options ∧ execOption ∈ probe.options ∧
      runtimeOption ∈ probe.options ∧ timeoutOption ∈ probe.options := by decide
  cases option with
  | container => exact known.1
  | inside => exact known.2.1
  | runtime => exact known.2.2.1
  | timeout => exact known.2.2.2

/-- An option that is written as it has to be gives its values. -/
theorem gives {option : ProbeOption} (valid : option.Valid) :
    Gives probe option.spelled.option option.spelled.values option.words := by
  have known := knows option.mem_options
  cases option with
  | container spelling id =>
      exact .of_written known rfl valid (ValueKind.read_text.mpr ⟨id, rfl, rfl⟩)
  | inside => exact .flag known rfl
  | runtime spelling program =>
      obtain ⟨fits, nonempty⟩ := valid
      exact .of_written known rfl fits (ValueKind.read_path.mpr ⟨nonempty, rfl⟩)
  | timeout spelling text seconds =>
      obtain ⟨fits, number, range⟩ := valid
      exact .of_written known rfl fits
        (ValueKind.read_number.mpr ⟨text, seconds, rfl, number, range, rfl⟩)

end ProbeOption

/-- Only long names give values of a probe. -/
theorem longOnly_probe : probe.LongOnly where
  flat := rfl
  known _ member := ProbeOption.knows member
  asking := by decide
  escaped := by decide

/-- `probe` has no options but these. -/
theorem ProbeOption.exists_of_gives {option : OptionSpec} {values : List Value}
    {words : List Bytes} (gives : Gives probe option values words) :
    ∃ written : ProbeOption, written.Valid ∧ written.spelled.option = option ∧
      written.spelled.values = values ∧ written.words = words := by
  have member : option ∈ probe.options := gives.mem
  simp only [probe, List.mem_cons, List.not_mem_nil, or_false] at member
  obtain ⟨role, rfl, rfl⟩ | ⟨kind, spelling, bytes, value, role, fits, read, rfl, rfl⟩ :=
    gives.exists_written longOnly_probe
  · rcases member with rfl | rfl | rfl | rfl | rfl | rfl
    case inr.inl => exact ⟨inside, trivial, rfl, rfl, rfl⟩
    all_goals cases role
  · rcases member with rfl | rfl | rfl | rfl | rfl | rfl
    all_goals cases role
    · obtain ⟨id, rfl, rfl⟩ := ValueKind.read_text.mp read
      exact ⟨container spelling id, fits, rfl, rfl, rfl⟩
    · obtain ⟨nonempty, rfl⟩ := ValueKind.read_path.mp read
      exact ⟨runtime spelling bytes, ⟨fits, nonempty⟩, rfl, rfl, rfl⟩
    · obtain ⟨text, seconds, rfl, number, range, rfl⟩ := ValueKind.read_number.mp read
      exact ⟨timeout spelling text seconds, ⟨fits, number, range⟩, rfl, rfl, rfl⟩

/-- The words of a probe. -/
structure ProbeLine where
  options : List ProbeOption
  valid : ∀ option ∈ options, option.Valid
  once : (options.map ProbeOption.name).Nodup
  /-- The first word of the command. -/
  program : String
  arguments : List String

namespace ProbeLine

variable (line : ProbeLine)

/-- The command that the probe has to run. -/
def test : List String := line.program :: line.arguments

/-- The words behind the name of the program. -/
def words : List Bytes :=
  Bytes.ofText "probe" :: line.options.flatMap ProbeOption.words ++
    Bytes.ofText "--" :: line.test.map Bytes.ofText

/-- The container that is asked for. -/
def container : String := (line.options.findSome? ProbeOption.container?).getD ""

def exec : ExecChoice where
  inside := line.options.contains .inside
  runtime := line.options.findSome? ProbeOption.runtime?

def timeout : Int := (line.options.findSome? ProbeOption.seconds?).getD 30

end ProbeLine

theorem subcommand?_probe : subcommand? "probe" = some (probe, fun given =>
    .probe ((given.text? containerOption.name).getD "") (execChoice given)
      ((given.number? timeoutOption.name).getD defaultTimeout)
      (given.texts testArgument.name)) := rfl

/-- No environment variable stands in for an option of a probe. -/
theorem constant_probe : ∀ option ∈ probe.options, option.fallback = none := by decide

/-! ## The options that are given -/

section Entries

/-- What a scan takes note of when it reads the options. -/
def entries (options : List ProbeOption) : Given :=
  Spelled.entries (options.map ProbeOption.spelled)

theorem entries_append (options : List ProbeOption) (option : ProbeOption) :
    entries (options ++ [option]) =
      (entries options).add option.spelled.option.name option.spelled.values := by
  rw [entries, List.map_append, List.map_singleton, Spelled.entries_append]
  rfl

/-- An option is given when some option has its name. -/
theorem has_entries_eq_false {options : List ProbeOption} {name : String} :
    (entries options).has name = false ↔ name ∉ options.map ProbeOption.name := by
  rw [entries, Given.has_entries, List.map_map]
  rfl

/-- Options that are written as they have to be, each at most once, are read as such. -/
theorem spelt_entries {options : List ProbeOption} (valid : ∀ option ∈ options, option.Valid)
    (once : (options.map ProbeOption.name).Nodup) :
    Spelt probe (entries options) (options.flatMap ProbeOption.words) := by
  induction options using List.reverseRecOn with
  | nil => exact .nil
  | append_singleton options option ih =>
      rw [List.map_append, List.map_singleton, ← List.concat_eq_append,
        List.nodup_concat] at once
      obtain ⟨absent, once⟩ := once
      have others := ih (fun other member => valid other (List.mem_append_left _ member)) once
      have last := valid option (List.mem_append_right _ (List.mem_singleton_self _))
      rw [entries_append, List.flatMap_append, List.flatMap_singleton]
      exact others.snoc (ProbeOption.gives last) (has_entries_eq_false.mpr absent)

/-- What is read as options has been written as options of a probe, each at most once. -/
theorem exists_options {given : Given} {before : List Bytes} (spelt : Spelt probe given before) :
    ∃ options : List ProbeOption, (∀ option ∈ options, option.Valid) ∧
      (options.map ProbeOption.name).Nodup ∧ before = options.flatMap ProbeOption.words ∧
      given = entries options := by
  induction spelt with
  | nil => exact ⟨[], nofun, .nil, rfl, rfl⟩
  | snoc spelt gives fresh ih =>
      obtain ⟨options, valid, once, rfl, rfl⟩ := ih
      obtain ⟨option, last, rfl, rfl, rfl⟩ := ProbeOption.exists_of_gives gives
      refine ⟨options ++ [option], ?_, ?_, ?_, ?_⟩
      · intro other member
        rcases List.mem_append.mp member with member | member
        · exact valid other member
        · rw [List.mem_singleton.mp member]
          exact last
      · rw [List.map_append, List.map_singleton, ← List.concat_eq_append]
        exact once.concat (has_entries_eq_false.mp fresh)
      · rw [List.flatMap_append, List.flatMap_singleton]
      · rw [entries_append]

variable (options : List ProbeOption)

/-- The container that is given is the one of the option for it. -/
theorem text?_entries : (entries options).text? containerOption.name =
    options.findSome? ProbeOption.container? := by
  induction options with
  | nil => rfl
  | cons option options ih =>
      cases option with
      | container => rfl
      | inside | runtime | timeout => exact ih

/-- A probe runs inside the container when the flag for it is among the options. -/
theorem has_entries : (entries options).has execOption.name = options.contains .inside := by
  induction options with
  | nil => rfl
  | cons option options ih =>
      cases option with
      | inside => rfl
      | container | runtime | timeout => exact ih

/-- The runtime that is given is the one of the option for it. -/
theorem path?_entries : (entries options).path? runtimeOption.name =
    options.findSome? ProbeOption.runtime? := by
  induction options with
  | nil => rfl
  | cons option options ih =>
      cases option with
      | runtime => rfl
      | container | inside | timeout => exact ih

/-- The timeout that is given is the one of the option for it. -/
theorem number?_entries : (entries options).number? timeoutOption.name =
    options.findSome? ProbeOption.seconds? := by
  induction options with
  | nil => rfl
  | cons option options ih =>
      cases option with
      | timeout => rfl
      | container | inside | runtime => exact ih

end Entries

namespace ProbeLine

variable (line : ProbeLine)

/-- The arguments that the words stand for. -/
def given : Given := (entries line.options).add testArgument.name (line.test.map Value.text)

/-- The options are read as they are written. -/
theorem spelt : Spelt probe (entries line.options) (line.options.flatMap ProbeOption.words) :=
  spelt_entries line.valid line.once

/-- No option has the name of the positional argument. -/
theorem fresh : (entries line.options).has testArgument.name = false :=
  line.spelt.fresh longOnly_probe.known rfl

/-- The words of the command are given as they are. -/
theorem texts_test : line.given.texts testArgument.name = line.test := by
  rw [Given.texts, given, Given.values?_add_self line.fresh, Option.getD_some, List.filterMap_map]
  exact List.filterMap_some

/-- Beside the command, the options are given as they are. -/
theorem values?_given {name : String} (differ : name ≠ testArgument.name) :
    line.given.values? name = (entries line.options).values? name :=
  Given.values?_add_ne differ

theorem text?_given : line.given.text? containerOption.name =
    line.options.findSome? ProbeOption.container? := by
  rw [Given.text?, values?_given line (by decide), ← Given.text?, text?_entries]

/-- Beside the command, where the probe runs is what the options say. -/
theorem execChoice_given : execChoice line.given = line.exec := by
  rw [execChoice, exec, Given.has, Given.path?, values?_given line (by decide),
    values?_given line (by decide), ← Given.has, ← Given.path?, has_entries, path?_entries]

theorem number?_given : line.given.number? timeoutOption.name =
    line.options.findSome? ProbeOption.seconds? := by
  rw [Given.number?, values?_given line (by decide), ← Given.number?, number?_entries]

/-- The scan of the words behind `probe` ends with all of them taken note of. -/
theorem words_probe : ∃ scan,
    Scan.words probe {} (line.options.flatMap ProbeOption.words ++
        Scan.dashes :: line.test.map Bytes.ofText) = .ok (scan, none) ∧
      scan.settle = .ok { given := line.given, escaped := true } := by
  have flat : probe.subcommands = [] := rfl
  obtain ⟨scan, stands, read⟩ := Scan.exists_between flat line.spelt
    (Scan.dashes :: line.test.map Bytes.ofText)
  refine ⟨_, ?_, Scan.settle_collecting line.fresh rfl (List.cons_ne_nil _ _)⟩
  rw [read]
  exact stands.words_escaped flat rfl rfl line.fresh _ _

/-- The words behind `probe` are read as the command that they stand for. -/
theorem readCommand_probe (lookup : String → Option Bytes) :
    readCommand lookup "probe" (line.options.flatMap ProbeOption.words ++
        Scan.dashes :: line.test.map Bytes.ofText) =
      .ok (.probe line.container line.exec line.timeout line.test) := by
  obtain ⟨scan, words, settles⟩ := line.words_probe
  have tested : line.given.has testArgument.name = true := Given.has_add_self line.fresh
  have kept : probe.relationFault? line.given = none := by
    simp only [Grammar.relationFault?, probe, List.any_nil, List.any_cons, tested, Bool.not_true,
      Bool.or_false]
    rfl
  have finish : scan.finish probe lookup = .ok line.given :=
    Scan.finish_settled lookup settles constant_probe kept
  refine (readCommand_eq_ok_iff subcommand?_probe).mpr ⟨_, ⟨scan, none, words, finish⟩, ?_⟩
  rw [texts_test, execChoice_given, text?_given, number?_given]
  rfl

end ProbeLine

/-- The program finds its subcommand under the word `probe`. -/
theorem root_probe : root.subcommand? (Bytes.ofText "probe") = some "probe" := by
  rw [Grammar.subcommand?, Bytes.text?_ofText]
  decide

namespace ProbeLine

variable (line : ProbeLine)

/-- What the words ask for. -/
def invocation : Invocation :=
  ⟨Settings.defaultPath, false, .probe line.container line.exec line.timeout line.test⟩

/-- The words of a probe are read as what they hold, whatever the words of its command look like. -/
theorem parse_words (lookup : String → Option Bytes) :
    Invocation.parse lookup line.words = .ok line.invocation :=
  (opening_nil root_probe (by decide) lookup).parse_eq_ok (line.readCommand_probe lookup)

end ProbeLine

/-! ## Which words are accepted -/

/-- Without a command there is no probe. -/
theorem finish_untested {lookup : String → Option Bytes} {scan settled : Scan} {given : Given}
    (settles : scan.settle = .ok settled) (untested : settled.given.has testArgument.name = false) :
    scan.finish probe lookup ≠ .ok given := by
  have missing : probe.relationFault? settled.given = some .missingArgument := by
    simp only [Grammar.relationFault?, probe, List.any_nil, List.any_cons, untested]
    rfl
  simp only [Scan.finish, settles, bind, Except.bind,
    Scan.addVariables_constant lookup _ constant_probe, missing]
  intro accepted
  cases accepted

/-- Whatever is accepted in front of the first end of the options and behind it, it is the options
and the command of a probe. -/
theorem ProbeLine.exists_of_readCommand {lookup : String → Option Bytes}
    {before behind : List Bytes} {command : Command} (going : Scan.dashes ∉ before)
    (accepted : readCommand lookup "probe" (before ++ Scan.dashes :: behind) = .ok command) :
    ∃ line : ProbeLine, before = line.options.flatMap ProbeOption.words ∧
      behind = line.test.map Bytes.ofText := by
  have regular := longOnly_probe.regular
  obtain ⟨given, ⟨last, found, scanned, finished⟩, -⟩ :=
    (readCommand_eq_ok_iff subcommand?_probe).mp accepted
  obtain ⟨settled, settles, -⟩ := bind_eq_ok.mp finished
  have start : Scan.Taking probe [] {} := .settled .nil
  obtain ⟨scan, taking, scanned⟩ := start.words regular going scanned
  rw [List.nil_append] at taking
  cases behind with
  | nil =>
      -- Only an end of the options is no command.
      exfalso
      rw [Scan.words_cons regular.flat (Scan.step_dashes taking.unescaped)] at scanned
      cases scanned
      obtain ⟨spelt, -⟩ := taking.settle settles
      exact finish_untested settles (spelt.fresh regular.known rfl) finished
  | cons first rest =>
      obtain ⟨read, spelt, same⟩ := taking.escaped regular rfl rfl rfl scanned
      cases same
      obtain ⟨texts, same⟩ := Scan.exists_texts_of_settle rfl settles
      obtain ⟨options, valid, once, rfl, rfl⟩ := exists_options spelt
      cases texts with
      | nil => cases same
      | cons program arguments => exact ⟨⟨options, valid, once, program, arguments⟩, rfl, same⟩

/-- The words of probes are exactly the words that are accepted with an end of the options. -/
theorem ProbeLine.exists_of_parse {lookup : String → Option Bytes} {before behind : List Bytes}
    {invocation : Invocation} (going : Scan.dashes ∉ before)
    (parsed : Invocation.parse lookup
      (Bytes.ofText "probe" :: before ++ Scan.dashes :: behind) = .ok invocation) :
    ∃ line : ProbeLine, before = line.options.flatMap ProbeOption.words ∧
      behind = line.test.map Bytes.ofText ∧ invocation = line.invocation := by
  have read := (front_nil root_probe).read_of_parse parsed
  obtain ⟨line, rfl, rfl⟩ := ProbeLine.exists_of_readCommand going read
  refine ⟨line, rfl, rfl, ?_⟩
  have same : Invocation.parse lookup line.words = .ok invocation := parsed
  rw [line.parse_words] at same
  exact (Except.ok.inj same).symm

end HealthWatch.CommandLine
