import HealthWatch.Proofs.CommandLine.Exactness
import Mathlib.Data.List.Induction

/-! # Options that are given

An option is written under its long name or its short one, and its value is joined to the name,
stands behind it, or is attached to a short name. Reading options in any of these ways takes note of
their values (`Scan.exists_between`), and no words in front of the end of the options are accepted
but such options, each at most once (`Scan.Taking.words`).
-/

namespace HealthWatch.CommandLine

/-- A grammar without subcommands, in which what has no name can only stand behind the end of the
options. Flags have no short names, so a word holds one short name at most. -/
structure Grammar.Regular (grammar : Grammar) : Prop where
  flat : grammar.subcommands = []
  known : ∀ option ∈ grammar.options, grammar.Knows option
  longFlags : ∀ option ∈ grammar.options, option.role = .flag → option.short = none
  escaped : ∀ positional ∈ grammar.positional, positional.escaped = true

/-- Whether a grammar finds the option under a byte as its short name. -/
structure Grammar.Shortens (grammar : Grammar) (byte : UInt8) (option : OptionSpec) : Prop where
  other : byte ≠ dash
  found : grammar.short? (Char.ofNat byte.toNat) = some option

namespace Grammar.Shortens

variable {grammar : Grammar} {byte : UInt8} {option : OptionSpec}

theorem mem (shortens : grammar.Shortens byte option) : option ∈ grammar.options :=
  (short?_eq_some shortens.found).1

theorem short_eq (shortens : grammar.Shortens byte option) :
    option.short = some (Char.ofNat byte.toNat) :=
  (short?_eq_some shortens.found).2

/-- A byte is kept by the character with its number. -/
theorem char_toNat (byte : UInt8) : (Char.ofNat byte.toNat).toNat = byte.toNat := by
  have valid : byte.toNat.isValidChar := .inl (Nat.lt_trans byte.toNat_lt (by decide))
  rw [Char.ofNat, dif_pos valid]
  rfl

/-- An option has one short name. -/
theorem eq {other : UInt8} (first : grammar.Shortens byte option)
    (second : grammar.Shortens other option) : byte = other := by
  have number := congrArg Char.toNat (Option.some.inj (first.short_eq.symm.trans second.short_eq))
  rw [char_toNat, char_toNat] at number
  exact UInt8.toNat_inj.mp number

end Grammar.Shortens

/-- A word that names an option and holds nothing else. -/
inductive Begins (grammar : Grammar) (option : OptionSpec) : Bytes → Prop
  | long (known : grammar.Knows option) : Begins grammar option (Spelled.word option)
  | short {byte : UInt8} (shortens : grammar.Shortens byte option) :
      Begins grammar option [dash, byte]

/-- The words of an option and its value. -/
inductive Writes (grammar : Grammar) (option : OptionSpec) (bytes : Bytes) : List Bytes → Prop
  | joined {head : Bytes} (begins : Begins grammar option head) :
      Writes grammar option bytes [head ++ Scan.equalsSign :: bytes]
  | apart {head : Bytes} (begins : Begins grammar option head)
      (fits : Spelling.apart.Fits bytes) : Writes grammar option bytes [head, bytes]
  /-- Behind a short name a value needs no equals sign, unless it begins with one. -/
  | attached {byte : UInt8} (shortens : grammar.Shortens byte option) (filled : bytes ≠ [])
      (other : bytes.head? ≠ some Scan.equalsSign) :
      Writes grammar option bytes [dash :: byte :: bytes]

/-- The values that an option is given, and the words that give it. -/
inductive Gives (grammar : Grammar) (option : OptionSpec) : List Value → List Bytes → Prop
  | flag (known : grammar.Knows option) (role : option.role = .flag) :
      Gives grammar option [] [Spelled.word option]
  | value {kind : ValueKind} {bytes : Bytes} {value : Value} {words : List Bytes}
      (role : option.role = .value kind) (writes : Writes grammar option bytes words)
      (read : kind.read bytes = .ok value) : Gives grammar option [value] words

/-- The arguments that options give and their words, where none of them is given twice. -/
inductive Spelt (grammar : Grammar) : Given → List Bytes → Prop
  | nil : Spelt grammar [] []
  | snoc {given : Given} {before words : List Bytes} {option : OptionSpec} {values : List Value}
      (spelt : Spelt grammar given before) (gives : Gives grammar option values words)
      (fresh : given.has option.name = false) :
      Spelt grammar (given.add option.name values) (before ++ words)

/-- A word can only name an option of the grammar. -/
theorem Begins.mem {grammar : Grammar} {option : OptionSpec} {head : Bytes}
    (begins : Begins grammar option head) : option ∈ grammar.options := by
  cases begins with
  | long known => exact (Grammar.long?_eq_some known.found).1
  | short shortens => exact shortens.mem

/-- Words with a value can only be those of an option of the grammar. -/
theorem Writes.mem {grammar : Grammar} {option : OptionSpec} {bytes : Bytes} {words : List Bytes}
    (writes : Writes grammar option bytes words) : option ∈ grammar.options := by
  cases writes with
  | joined begins | apart begins => exact begins.mem
  | attached shortens => exact shortens.mem

/-- Only options of the grammar give values. -/
theorem Gives.mem {grammar : Grammar} {option : OptionSpec} {values : List Value}
    {words : List Bytes} (gives : Gives grammar option values words) :
    option ∈ grammar.options := by
  cases gives with
  | flag known => exact (Grammar.long?_eq_some known.found).1
  | value role writes => exact writes.mem

/-- A value that is joined to a long name, or stands behind it, is given. -/
theorem Gives.of_written {grammar : Grammar} {option : OptionSpec} {kind : ValueKind}
    {spelling : Spelling} {bytes : Bytes} {value : Value} (known : grammar.Knows option)
    (role : option.role = .value kind) (fits : spelling.Fits bytes)
    (read : kind.read bytes = .ok value) :
    Gives grammar option [value] (Spelled.words ⟨option, some (spelling, bytes), [value]⟩) := by
  cases spelling with
  | joined => exact .value role (.joined (.long known)) read
  | apart => exact .value role (.apart (.long known) fits) read

/-- A name that no option has is not given by options. -/
theorem Spelt.fresh {grammar : Grammar} {given : Given} {before : List Bytes} {name : String}
    (spelt : Spelt grammar given before) (known : ∀ option ∈ grammar.options, grammar.Knows option)
    (unnamed : grammar.long? name = none) : given.has name = false := by
  induction spelt with
  | nil => rfl
  | snoc spelt gives fresh ih =>
      have differ := (known _ gives.mem).name_ne unnamed
      rw [Given.has_add_ne differ.symm, ih]

namespace Scan

variable {grammar : Grammar} {scan next : Scan} {given : Given} {option : OptionSpec}
  {kind : ValueKind}

/-! ## Reading options -/

section Words

variable {byte : UInt8} {head bytes : Bytes} (unescaped : scan.escaped = false)
include unescaped

/-- A word that begins with a dash and something else holds short names. -/
theorem step_short (other : byte ≠ dash) (rest : Bytes) :
    scan.step grammar (dash :: byte :: rest) = scan.readShort grammar (byte :: rest) := by
  have going : ¬dash :: byte :: rest = dashes := by
    rw [dashes_eq]
    simp [other]
  have long : isLong (dash :: byte :: rest) = false := by
    rw [isLong, dashes_eq]
    simp [other.symm]
  have short : isShort (dash :: byte :: rest) = true := by
    simpa [isShort, dash] using other
  rw [step, unescaped, if_neg Bool.false_ne_true, if_neg going, long, short,
    if_neg Bool.false_ne_true, if_pos rfl, List.drop_one, List.tail_cons]

/-- A word that names an option with a value begins this option. -/
theorem step_begins (begins : Begins grammar option head) (role : option.role = .value kind) :
    scan.step grammar head = scan.take grammar.program option none := by
  cases begins with
  | long known => exact step_alone known unescaped
  | short shortens =>
      rw [step_short unescaped shortens.other, readShort, shortens.found]
      dsimp only
      rw [role]

/-- A name with an equals sign behind it is an option with the value behind the sign. -/
theorem step_begins_joined (begins : Begins grammar option head)
    (role : option.role = .value kind) :
    scan.step grammar (head ++ equalsSign :: bytes) =
      scan.take grammar.program option (some bytes) := by
  cases begins with
  | long known => exact step_joined known role unescaped bytes
  | short shortens =>
      rw [List.cons_append, List.singleton_append, step_short unescaped shortens.other, readShort,
        shortens.found]
      dsimp only
      rw [role]
      dsimp only
      rw [if_pos rfl]

/-- A short name with more bytes behind it is an option with these as its value. -/
theorem step_attached (shortens : grammar.Shortens byte option) (role : option.role = .value kind)
    (filled : bytes ≠ []) (other : bytes.head? ≠ some equalsSign) :
    scan.step grammar (dash :: byte :: bytes) =
      scan.take grammar.program option (some bytes) := by
  obtain ⟨first, more, rfl⟩ := List.exists_cons_of_ne_nil filled
  have unequal : ¬first = equalsSign := fun same => other (congrArg some same)
  rw [step_short unescaped shortens.other, readShort, shortens.found]
  dsimp only
  rw [role]
  dsimp only
  rw [if_neg unequal]

end Words

/-- Reading an option takes note of its values, in whichever way it is written. -/
theorem Between.words_gives (flat : grammar.subcommands = []) (between : scan.Between given)
    {values : List Value} {written : List Bytes} (gives : Gives grammar option values written)
    (fresh : given.has option.name = false) (rest : List Bytes) :
    ∃ next : Scan, next.Between (given.add option.name values) ∧
      words grammar scan (written ++ rest) = words grammar next rest := by
  have settles := between.settle
  have unescaped := between.unescaped
  cases gives with
  | flag known role =>
      have taken := take_flag settles role fresh grammar.program
      exact ⟨_, .settled _, words_cons flat ((step_alone known unescaped).trans taken) rest⟩
  | value role writes read =>
      have taken := take_value settles role fresh read grammar.program
      cases writes with
      | joined begins =>
          have stepped := (step_begins_joined unescaped begins role).trans taken
          exact ⟨_, .settled _, words_cons flat stepped rest⟩
      | attached shortens filled other =>
          have stepped := (step_attached unescaped shortens role filled other).trans taken
          exact ⟨_, .settled _, words_cons flat stepped rest⟩
      | apart begins fits =>
          -- The first word leaves the option waiting for the second one, its value.
          have awaits := (step_begins unescaped begins role).trans (take_awaiting settles role _)
          refine ⟨_, .pending fresh read, ?_⟩
          rw [List.cons_append, List.singleton_append, words_cons flat awaits,
            words_cons flat (step_awaiting fits)]

/-- Reading options takes note of their values, in whichever ways they are written. -/
theorem exists_between (flat : grammar.subcommands = []) {before : List Bytes}
    (spelt : Spelt grammar given before) (rest : List Bytes) :
    ∃ scan : Scan, scan.Between given ∧
      words grammar {} (before ++ rest) = words grammar scan rest := by
  induction spelt generalizing rest with
  | nil => exact ⟨{}, .settled [], rfl⟩
  | snoc spelt gives fresh ih =>
      rename_i written _ _
      obtain ⟨middle, between, first⟩ := ih (written ++ rest)
      obtain ⟨next, stands, later⟩ := between.words_gives flat gives fresh rest
      exact ⟨next, stands, by rw [List.append_assoc, first, later]⟩

/-! ## What is accepted -/

/-- How far words without an end of the options have been read. The value of the last option may be
missing, or one that the option cannot have. -/
inductive Taking (grammar : Grammar) : List Bytes → Scan → Prop
  | settled {given : Given} {before : List Bytes} (spelt : Spelt grammar given before) :
      Taking grammar before { given }
  | awaiting {given : Given} {before : List Bytes} {option : OptionSpec} {kind : ValueKind}
      {head : Bytes} (spelt : Spelt grammar given before) (begins : Begins grammar option head)
      (role : option.role = .value kind) :
      Taking grammar (before ++ [head])
        { given, pending := some ⟨option.name, kind, false, []⟩, awaiting := true }
  | pending {given : Given} {before : List Bytes} {option : OptionSpec} {kind : ValueKind}
      {head bytes : Bytes} (spelt : Spelt grammar given before)
      (begins : Begins grammar option head) (role : option.role = .value kind)
      (fits : Spelling.apart.Fits bytes) :
      Taking grammar (before ++ [head, bytes])
        { given, pending := some ⟨option.name, kind, false, [bytes]⟩ }

namespace Taking

variable {before : List Bytes}

/-- Words without an end of the options leave a scan in front of it. -/
theorem unescaped (taking : Taking grammar before scan) : scan.escaped = false := by
  cases taking <;> rfl

/-- When the last value can be read, the words are those of options, whether they end here or
not. -/
theorem settle (taking : Taking grammar before scan) {escaped : Bool}
    (settles : Scan.settle { scan with escaped } = .ok next) :
    Spelt grammar next.given before ∧ next = { given := next.given, escaped } := by
  cases taking with
  | settled spelt =>
      cases settles
      exact ⟨spelt, rfl⟩
  | awaiting => cases settles
  | pending spelt begins role fits =>
      obtain ⟨value, fresh, read, rfl⟩ := record_eq_ok settles
      exact ⟨spelt.snoc (.value role (.apart begins fits) read) fresh, rfl⟩

/-- What was read before the last value are options that are spelled, when it can be read. -/
theorem settle_self (taking : Taking grammar before scan) (settles : scan.settle = .ok next) :
    Spelt grammar next.given before ∧ next = { given := next.given } := by
  have same : { scan with escaped := false } = scan := by cases taking <;> rfl
  rw [← same] at settles
  exact taking.settle settles

/-- When the last value can be read, the scan stands behind options that are all spelled. -/
theorem between (taking : Taking grammar before scan) {escaped : Bool}
    (settles : Scan.settle { scan with escaped } = .ok next) : scan.Between next.given := by
  cases taking with
  | settled spelt =>
      cases settles
      exact .settled _
  | awaiting => cases settles
  | pending spelt begins role fits =>
      obtain ⟨value, fresh, read, rfl⟩ := record_eq_ok settles
      exact .pending fresh read

/-- A name alone begins an option that waits for its value. -/
theorem alone (taking : Taking grammar before scan) {head : Bytes}
    (begins : Begins grammar option head) (role : option.role = .value kind) {program : String}
    (taken : scan.take program option none = .ok next) :
    Taking grammar (before ++ [head]) next := by
  obtain ⟨settled, settles, taken⟩ := bind_eq_ok.mp taken
  obtain ⟨spelt, same⟩ := taking.settle_self settles
  rw [same, role] at taken
  cases taken
  exact .awaiting spelt begins role

/-- A word with a name and a value is an option of its own. -/
theorem whole (taking : Taking grammar before scan) {word bytes : Bytes}
    (writes : Writes grammar option bytes [word]) (role : option.role = .value kind)
    {program : String} (taken : scan.take program option (some bytes) = .ok next) :
    Taking grammar (before ++ [word]) next := by
  obtain ⟨settled, settles, taken⟩ := bind_eq_ok.mp taken
  obtain ⟨spelt, same⟩ := taking.settle_self settles
  rw [same, role] at taken
  obtain ⟨value, fresh, read, rfl⟩ := record_eq_ok taken
  exact .settled (spelt.snoc (.value role writes read) fresh)

/-- A word that names a flag is an option of its own. -/
theorem flag (taking : Taking grammar before scan) (known : grammar.Knows option)
    (role : option.role = .flag) {program : String}
    (taken : scan.take program option none = .ok next) :
    Taking grammar (before ++ [Spelled.word option]) next := by
  obtain ⟨settled, settles, taken⟩ := bind_eq_ok.mp taken
  obtain ⟨spelt, same⟩ := taking.settle_self settles
  rw [same, role] at taken
  dsimp only at taken
  by_cases conflict : settled.given.has option.name = true
  · rw [if_pos conflict] at taken
    cases taken
  · rw [if_neg conflict] at taken
    cases taken
    exact .settled (spelt.snoc (.flag known role) (Bool.eq_false_iff.mpr conflict))

/-- An accepted word that begins with two dashes is an option, or the name of one that waits. -/
theorem long (taking : Taking grammar before scan) (regular : grammar.Regular) {word : Bytes}
    (long : isLong word = true) (read : scan.readLong grammar word = .ok next) :
    Taking grammar (before ++ [word]) next := by
  obtain ⟨option, after, known, rfl, equals⟩ := exists_word regular.known long read
  rw [readLong_word known equals] at read
  cases after with
  | nil =>
      rw [List.append_nil]
      cases role : option.role with
      | flag =>
          rw [role] at read
          exact taking.flag known role read
      | value kind =>
          rw [role] at read
          exact taking.alone (.long known) role read
      | help =>
          rw [role] at read
          exact absurd read (take_asking (.inl role) _ _)
      | version =>
          rw [role] at read
          exact absurd read (take_asking (.inr role) _ _)
  | cons byte value =>
      cases equals byte rfl
      cases role : option.role with
      | value kind =>
          rw [role] at read
          exact taking.whole (.joined (.long known)) role read
      | flag | help | version =>
          rw [role] at read
          cases read

/-- An accepted word that begins with one dash is an option, or the name of one that waits. -/
theorem short (taking : Taking grammar before scan) (regular : grammar.Regular) {byte : UInt8}
    {rest : Bytes} (other : byte ≠ dash) (read : scan.readShort grammar (byte :: rest) = .ok next) :
    Taking grammar (before ++ [dash :: byte :: rest]) next := by
  rw [readShort] at read
  cases found : grammar.short? (Char.ofNat byte.toNat) with
  | none =>
      rw [found] at read
      cases read
  | some option =>
      have shortens : grammar.Shortens byte option := ⟨other, found⟩
      rw [found] at read
      dsimp only at read
      cases role : option.role with
      | flag =>
          have unnamed := regular.longFlags option shortens.mem role
          rw [shortens.short_eq] at unnamed
          cases unnamed
      | help | version =>
          rw [role] at read
          obtain ⟨taken, took, -⟩ := bind_eq_ok.mp read
          exact absurd took (take_asking (by simp [role]) _ _)
      | value kind =>
          rw [role] at read
          dsimp only at read
          cases rest with
          | nil => exact taking.alone (.short shortens) role read
          | cons first value =>
              dsimp only at read
              by_cases equals : first = equalsSign
              · rw [if_pos equals] at read
                cases equals
                exact taking.whole (.joined (.short shortens)) role read
              · rw [if_neg equals] at read
                have other : (first :: value).head? ≠ some equalsSign :=
                  fun same => equals (Option.some.inj same)
                exact taking.whole (.attached shortens (List.cons_ne_nil _ _) other) role read

/-- A word is refused where only a value behind the end of the options could stand. -/
theorem readPositional_ne_ok (regular : grammar.Regular) (unescaped : scan.escaped = false)
    (word : Bytes) : scan.readPositional grammar word ≠ .ok next := by
  intro read
  rw [readPositional] at read
  cases place : if scan.filled then none else grammar.positional with
  | none =>
      rw [place, regular.flat] at read
      cases read
  | some positional =>
      have member : positional ∈ grammar.positional := by
        split at place
        · cases place
        · exact place
      rw [place] at read
      dsimp only at read
      rw [unescaped, regular.escaped positional member] at read
      cases read

/-- A word that does not end the options is part of one of them. -/
theorem step (taking : Taking grammar before scan) (regular : grammar.Regular) {word : Bytes}
    (going : word ≠ dashes) (stepped : scan.step grammar word = .ok next) :
    Taking grammar (before ++ [word]) next := by
  rw [Scan.step, taking.unescaped, if_neg Bool.false_ne_true, if_neg going] at stepped
  by_cases long : isLong word = true
  · rw [if_pos long] at stepped
    exact taking.long regular long stepped
  rw [if_neg long] at stepped
  by_cases short : isShort word = true
  · rw [if_pos short] at stepped
    obtain ⟨first, second, rest, rfl⟩ := exists_of_isShort short
    simp only [isShort, Bool.and_eq_true, decide_eq_true_eq, bne_iff_ne] at short
    obtain ⟨rfl, other⟩ := short
    exact taking.short regular other stepped
  rw [if_neg short] at stepped
  have fits := fits_of_not_option going (Bool.eq_false_iff.mpr long) (Bool.eq_false_iff.mpr short)
  cases taking with
  | awaiting spelt begins role =>
      cases stepped
      rw [List.append_assoc]
      exact .pending spelt begins role fits
  | settled | pending => exact absurd stepped (readPositional_ne_ok regular rfl _)

/-- The words in front of the end of the options are read one after the other. -/
theorem words (taking : Taking grammar before scan) (regular : grammar.Regular)
    {more : List Bytes} (going : dashes ∉ more) {rest : List Bytes}
    {result : Scan × Option (String × List Bytes)}
    (accepted : Scan.words grammar scan (more ++ rest) = .ok result) :
    ∃ next, Taking grammar (before ++ more) next ∧ Scan.words grammar next rest = .ok result := by
  induction more generalizing scan before with
  | nil => exact ⟨scan, by rwa [List.append_nil], accepted⟩
  | cons word more ih =>
      rw [List.mem_cons, not_or] at going
      obtain ⟨goes, going⟩ := going
      rw [List.cons_append] at accepted
      cases stepped : scan.step grammar word with
      | error fault =>
          rw [Scan.words, subcommandHere?_flat regular.flat, stepped] at accepted
          cases accepted
      | ok middle =>
          rw [words_cons regular.flat stepped] at accepted
          obtain ⟨next, taking, accepted⟩ :=
            ih (taking.step regular (Ne.symm goes) stepped) going accepted
          refine ⟨next, ?_, accepted⟩
          rwa [List.append_assoc] at taking

/-! ## Behind the end of the options -/

section Escaped

variable {positional : PositionalSpec} (regular : grammar.Regular)
  (takes : grammar.positional = some positional)
  (unnamed : grammar.long? positional.name = none)
include regular takes unnamed

/-- A value behind the end of the options is only taken when the last option can be read. -/
theorem settles_of_step (taking : Taking grammar before scan) {first : Bytes}
    (accepted : Scan.step grammar { scan with escaped := true } first = .ok next) :
    ∃ settled, Scan.settle { scan with escaped := true } = .ok settled := by
  rw [Scan.step, if_pos rfl, readPositional] at accepted
  cases taking with
  | settled => exact ⟨_, rfl⟩
  | awaiting spelt begins role =>
      have differ := (regular.known _ begins.mem).name_ne unnamed
      exfalso
      simp [takes, differ, Scan.settle, record, bind, Except.bind] at accepted
  | @pending given before option kind head bytes spelt begins role fits =>
      have differ := (regular.known _ begins.mem).name_ne unnamed
      cases settles : Scan.settle
        { given, pending := some ⟨option.name, kind, false, [bytes]⟩, escaped := true } with
      | error fault =>
          exfalso
          simp [takes, differ, settles, bind, Except.bind] at accepted
      | ok settled => exact ⟨settled, rfl⟩

/-- Accepted words with values behind the end of the options spell all options in front of it. -/
theorem escaped (taking : Taking grammar before scan) (many : positional.many = true)
    {first : Bytes} {rest : List Bytes} {result : Scan × Option (String × List Bytes)}
    (accepted : Scan.words grammar scan (dashes :: first :: rest) = .ok result) :
    ∃ given, Spelt grammar given before ∧
      result = (collecting given positional (first :: rest), none) := by
  cases stepped : Scan.step grammar { scan with escaped := true } first with
  | error fault =>
      rw [words_cons regular.flat (step_dashes taking.unescaped), Scan.words,
        subcommandHere?_flat regular.flat] at accepted
      dsimp only at accepted
      rw [stepped] at accepted
      cases accepted
  | ok next =>
      obtain ⟨settled, settles⟩ := taking.settles_of_step regular takes unnamed stepped
      obtain ⟨spelt, -⟩ := taking.settle settles
      have fresh := spelt.fresh regular.known unnamed
      rw [(taking.between settles).words_escaped regular.flat takes many fresh] at accepted
      exact ⟨_, spelt, (Except.ok.inj accepted).symm⟩

end Escaped

end Taking

end Scan

/-! ## Long options only -/

section LongOnly

variable {grammar : Grammar} (only : grammar.LongOnly)
include only

/-- A grammar of long options is one in which a word holds one short name at most. -/
theorem Grammar.LongOnly.regular : grammar.Regular where
  flat := only.flat
  known := only.known
  longFlags option member role := by
    cases short : option.short with
    | none => rfl
    | some name =>
        rcases only.asking option member (by rw [short]; rfl) with asking | asking
        all_goals
          rw [role] at asking
          cases asking
  escaped := only.escaped

/-- An option with a short name takes no value. -/
theorem Grammar.Shortens.role_ne {byte : UInt8} {option : OptionSpec} {kind : ValueKind}
    (shortens : grammar.Shortens byte option) : option.role ≠ .value kind := by
  intro role
  rcases only.asking option shortens.mem (by rw [shortens.short_eq]; rfl) with asking | asking
  all_goals
    rw [role] at asking
    cases asking

/-- Where short names only ask for something else, an option with a value is named by its long
name. -/
theorem Begins.eq_word {option : OptionSpec} {kind : ValueKind} {head : Bytes}
    (begins : Begins grammar option head) (role : option.role = .value kind) :
    grammar.Knows option ∧ head = Spelled.word option := by
  cases begins with
  | long known => exact ⟨known, rfl⟩
  | short shortens => exact absurd role (shortens.role_ne only)

/-- Where only long names give values, an option is written as a flag, or with its value joined to
its name or behind it. -/
theorem Gives.exists_written {option : OptionSpec} {values : List Value} {words : List Bytes}
    (gives : Gives grammar option values words) :
    (option.role = .flag ∧ values = [] ∧ words = Spelled.words ⟨option, none, values⟩) ∨
      ∃ kind spelling bytes value, option.role = .value kind ∧ Spelling.Fits spelling bytes ∧
        kind.read bytes = .ok value ∧ values = [value] ∧
        words = Spelled.words ⟨option, some (spelling, bytes), values⟩ := by
  cases gives with
  | flag known role => exact .inl ⟨role, rfl, rfl⟩
  | @value kind bytes value _ role writes read =>
      right
      cases writes with
      | joined begins =>
          obtain ⟨known, rfl⟩ := begins.eq_word only role
          exact ⟨kind, .joined, bytes, value, role, trivial, read, rfl, rfl⟩
      | apart begins fits =>
          obtain ⟨known, rfl⟩ := begins.eq_word only role
          exact ⟨kind, .apart, bytes, value, role, fits, read, rfl, rfl⟩
      | attached shortens => exact absurd role (shortens.role_ne only)

end LongOnly

end HealthWatch.CommandLine
