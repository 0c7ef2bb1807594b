import HealthWatch.Proofs.CommandLine.Spelling
import HealthWatch.Proofs.Except

/-! # What a scan accepts

A word that a scan takes a step with has a form that the grammar knows: it begins with the long name
of an option (`Scan.exists_word`), or it is a value that can be read (`Scan.record_eq_ok`).
-/

namespace HealthWatch.CommandLine

/-- A grammar whose arguments are long options, and perhaps values behind the end of them. The short
options only ask for something else. -/
structure Grammar.LongOnly (grammar : Grammar) : Prop where
  flat : grammar.subcommands = []
  known : ∀ option ∈ grammar.options, grammar.Knows option
  asking : ∀ option ∈ grammar.options, option.short.isSome = true →
    option.role = .help ∨ option.role = .version
  escaped : ∀ positional ∈ grammar.positional, positional.escaped = true

namespace Grammar

variable {grammar : Grammar} {option : OptionSpec}

/-- What is found under a long name is an option of the grammar with this name. -/
theorem long?_eq_some {name : String} (found : grammar.long? name = some option) :
    option ∈ grammar.options ∧ option.name = name := by
  have same := List.find?_some found
  exact ⟨List.mem_of_find?_eq_some found, of_decide_eq_true same⟩

/-- What is found under a short name is an option of the grammar with this name. -/
theorem short?_eq_some {name : Char} (found : grammar.short? name = some option) :
    option ∈ grammar.options ∧ option.short = some name := by
  have same := List.find?_some found
  exact ⟨List.mem_of_find?_eq_some found, of_decide_eq_true same⟩

end Grammar

theorem Spelled.entries_append (options : List Spelled) (spelled : Spelled) :
    entries (options ++ [spelled]) =
      (entries options).add spelled.option.name spelled.values := by
  rw [entries, List.map_append, List.map_singleton]
  rfl

namespace Scan

variable {grammar : Grammar} {scan next : Scan} {given : Given}

/-- A word with short names has at least two bytes, of which the first is the dash. -/
theorem exists_of_isShort {word : Bytes} (short : isShort word = true) :
    ∃ first second rest, word = first :: second :: rest := by
  cases word with
  | nil => cases short
  | cons first word =>
      cases word with
      | nil => cases short
      | cons second rest => exact ⟨first, second, rest, rfl⟩

/-- A word that is no option and does not end them can be a value that stands alone. -/
theorem fits_of_not_option {word : Bytes} (going : word ≠ dashes) (long : isLong word = false)
    (short : isShort word = false) : Spelling.apart.Fits word := by
  intro begins
  obtain ⟨rest, rfl⟩ := List.head?_eq_some_iff.mp begins
  rw [isLong, dashes_eq] at long
  rw [dashes_eq] at going
  cases rest with
  | nil => rfl
  | cons second rest =>
      -- Two dashes would begin a long name, and one dash before something else short names.
      exfalso
      by_cases twice : second = dash
      · subst twice
        simp at long
        exact going (congrArg _ (congrArg _ long))
      · have other : ¬second = 0x2D := twice
        simp [isShort, other] at short
        exact short rfl

/-- A value that was taken note of had not been given before, and could be read. -/
theorem record_eq_ok {name : String} {kind : ValueKind} {many : Bool} {bytes : Bytes}
    (recorded : scan.record ⟨name, kind, many, [bytes]⟩ = .ok next) :
    ∃ value, scan.given.has name = false ∧ kind.read bytes = .ok value ∧
      next = { scan with given := scan.given.add name [value] } := by
  by_cases conflict : scan.given.has name = true
  · rw [record, if_neg (List.cons_ne_nil _ _), if_pos conflict] at recorded
    cases recorded
  have fresh := Bool.eq_false_iff.mpr conflict
  cases read : kind.read bytes with
  | error fault =>
      have unread : [bytes].mapM kind.read = .error fault := by
        simp only [List.mapM_cons, List.mapM_nil, read]
        rfl
      rw [record, if_neg (List.cons_ne_nil _ _), if_neg conflict] at recorded
      dsimp only at recorded
      rw [unread] at recorded
      cases recorded
  | ok value =>
      rw [record_value fresh read] at recorded
      cases recorded
      exact ⟨value, fresh, rfl, rfl⟩

/-- A name ends where the word ends or where an equals sign stands. -/
theorem span_equals {word name after : Bytes} (split : word.span (· ≠ equalsSign) = (name, after)) :
    word = name ++ after ∧ ∀ byte ∈ after.head?, byte = equalsSign := by
  rw [List.span_eq_takeWhile_dropWhile] at split
  cases split
  refine ⟨List.takeWhile_append_dropWhile.symm, fun byte begins => ?_⟩
  have ends := List.head?_dropWhile_not (fun byte => decide (byte ≠ equalsSign)) word
  rw [begins] at ends
  simpa using ends

/-- An accepted word that begins with a long name has a known one, and behind it an equals sign or
nothing. -/
theorem exists_word (known : ∀ option ∈ grammar.options, grammar.Knows option) {word : Bytes}
    (long : isLong word = true) (read : scan.readLong grammar word = .ok next) :
    ∃ option after, grammar.Knows option ∧ word = Spelled.word option ++ after ∧
      ∀ byte ∈ after.head?, byte = equalsSign := by
  rw [isLong, Bool.and_eq_true, List.isPrefixOf_iff_prefix] at long
  obtain ⟨⟨behind, rfl⟩, -⟩ := long
  unfold readLong at read
  rw [List.drop_left] at read
  generalize split : behind.span (· ≠ equalsSign) = parts at read
  obtain ⟨name, after⟩ := parts
  obtain ⟨rfl, equals⟩ := span_equals split
  dsimp only at read
  cases found : (Bytes.text? name).bind grammar.long? with
  | none =>
      rw [found] at read
      cases read
  | some option =>
      obtain ⟨text, named, listed⟩ := Option.bind_eq_some_iff.mp found
      cases Bytes.text?_eq_some.mp named
      obtain ⟨member, rfl⟩ := Grammar.long?_eq_some listed
      refine ⟨option, after, known option member, ?_, equals⟩
      rw [Spelled.word, List.append_assoc]

/-- An option that asks for help or for the version is never taken. -/
theorem take_asking {option : OptionSpec} (asking : option.role = .help ∨ option.role = .version)
    (program : String) (value : Option Bytes) : scan.take program option value ≠ .ok next := by
  intro taken
  obtain ⟨settled, -, taken⟩ := bind_eq_ok.mp taken
  rcases asking with role | role
  all_goals
    rw [role] at taken
    cases taken

section Escaped

variable {positional : PositionalSpec}

/-- Values that are read as texts are the bytes of texts. -/
theorem exists_texts {bytes : List Bytes} {values : List Value}
    (read : bytes.mapM ValueKind.text.read = .ok values) :
    ∃ texts : List String, bytes = texts.map Bytes.ofText := by
  induction bytes generalizing values with
  | nil => exact ⟨[], rfl⟩
  | cons first rest ih =>
      rw [List.mapM_cons] at read
      obtain ⟨value, alone, read⟩ := bind_eq_ok.mp read
      obtain ⟨others, read, -⟩ := bind_eq_ok.mp read
      obtain ⟨texts, rfl⟩ := ih read
      obtain ⟨text, rfl, -⟩ := ValueKind.read_text.mp alone
      exact ⟨text :: texts, rfl⟩

/-- Values of a positional argument that are accepted as texts are the bytes of texts. -/
theorem exists_texts_of_settle (kind : positional.kind = .text) {values : List Bytes}
    (settles : (collecting given positional values).settle = .ok next) :
    ∃ texts : List String, values = texts.map Bytes.ofText := by
  rw [settle, collecting] at settles
  dsimp only at settles
  rw [record, kind] at settles
  split at settles
  · cases settles
  · split at settles
    · cases settles
    · split at settles
      · cases settles
      · rename_i read
        exact exists_texts read

end Escaped

end Scan

end HealthWatch.CommandLine
