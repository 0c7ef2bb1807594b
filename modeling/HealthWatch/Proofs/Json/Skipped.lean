import HealthWatch.Json.Ignored
import HealthWatch.Proofs.Json.Entries

/-! # Skipping written values

Every written value can be passed over, whatever it stands for and however deep it is nested:
`skipValue_tree`. A string in it may hold halves of characters, and a number may be of any size.
-/

namespace HealthWatch.Json

open Written

namespace Ignored

/-! ## Strings and numbers -/

/-- An escape in a skipped string is passed over. -/
theorem string_escape {text rest : List Char} (passed : escape text = .ok rest) :
    string ('\\' :: text) = string rest := by
  rw [string]
  split
  · rename_i same
    cases passed.symm.trans same
    rfl
  · rename_i same
    cases passed.symm.trans same

/-- A piece of a skipped string is passed over, whether or not it stands for a character. -/
theorem string_piece (piece : Piece) (rest : List Char) :
    string (piece.text ++ rest) = string rest := by
  cases piece with
  | plain letter =>
      rw [Piece.text, List.singleton_append, string, if_neg (Char.not_lt.mpr letter.notControl)]
      · exact letter.notQuote
      · exact letter.notBackslash
  | short short =>
      have passed : escape (short.letter :: rest) = .ok rest := by cases short <;> rfl
      exact string_escape passed
  | unit code =>
      have passed : escape ('u' :: (code.chars ++ rest)) = .ok rest := by
        simp only [escape, ↓reduceIte, hexEscape_chars]
      exact string_escape passed

/-- A skipped string ends at its quote. Its pieces need not stand for a text. -/
theorem string_pieces (pieces : List Piece) (rest : List Char) :
    string (pieces.flatMap Piece.text ++ '"' :: rest) = .ok rest := by
  induction pieces with
  | nil => rw [List.flatMap_nil, List.nil_append, string]
  | cons piece pieces ih => rw [List.flatMap_cons, List.append_assoc, string_piece, ih]

/-- Digits begin with a digit. -/
theorem head?_digits (digits : Digits) (rest : List Char) :
    (digits.chars ++ rest).head?.any Char.isDigit = true := by
  obtain ⟨c, more, same, isDigit⟩ := digits.exists_chars
  rw [same]
  exact isDigit

/-- A power of ten is passed over to its last digit. -/
theorem powerPart_shift (power : Power) {rest : List Char} (stops : NoDigit rest) :
    powerPart (power.shift ++ rest) = .ok rest := by
  have passed := head?_digits power.digits rest
  have left := dropWhile_digits power.digits stops
  rw [Power.shift]
  cases power.sign with
  | some minus =>
      cases minus <;>
        simp only [Option.map_some, Option.toList_some, List.cons_append, List.nil_append,
          powerPart, Bool.false_eq_true, ↓reduceIte, passed, left]
  | none =>
      obtain ⟨c, more, same, isDigit⟩ := power.digits.exists_chars
      rw [same] at passed left
      rw [Option.map_none, Option.toList_none, List.nil_append, same, powerPart, if_pos passed,
        left]
      all_goals
        rintro other begins
        cases begins
        exact absurd isDigit (by decide)

/-- Digits at the front are passed over together with what belongs to them. -/
theorem unsigned_digits (whole : Digits)
    (noLeadingZero : whole.chars.head? = some '0' → whole.chars = ['0']) {after : List Char}
    (stops : NoDigit after) : unsigned (whole.chars ++ after) = afterDigits after := by
  have left := dropWhile_digits whole stops
  obtain ⟨c, more, same, isDigit⟩ := whole.exists_chars
  rw [same] at noLeadingZero left ⊢
  rw [List.cons_append] at left ⊢
  unfold unsigned
  dsimp only
  rw [if_neg (by simp [isDigit]), left]
  by_cases zero : c = '0'
  · subst zero
    have alone : more = [] := (List.cons.inj (noLeadingZero rfl)).2
    subst alone
    simp only [List.nil_append, stops.head?_any, ↓reduceIte, decide_true, Bool.and_false,
      Bool.false_eq_true]
  · simp only [zero, ↓reduceIte, decide_false, Bool.false_and, Bool.false_eq_true]

section Literal

variable (literal : Literal) {rest : List Char} (ends : Ends rest)

include ends in
/-- A fraction is passed over, and the power of ten behind it. -/
theorem fractionPart_digits (digits : Digits) (power : Option Power) :
    fractionPart (digits.chars ++ (power.elim [] Power.text ++ rest)) = .ok rest := by
  rw [fractionPart, if_pos (head?_digits digits _),
    dropWhile_digits digits (noDigit_power ends power)]
  cases power with
  | none =>
      rw [Option.elim_none, List.nil_append]
      split
      · exact absurd rfl (ends.head_ne _ _ rfl).2.1
      · exact absurd rfl (ends.head_ne _ _ rfl).2.2
      · rfl
  | some power =>
      rw [Option.elim_some, Power.text, List.cons_append]
      cases power.isUpper <;> exact powerPart_shift power ends.noDigit

include ends in
/-- All that follows the digits before the point is passed over. -/
theorem afterDigits_tail : afterDigits (literal.tail ++ rest) = .ok rest := by
  obtain ⟨isNegative, whole, noLeadingZero, fraction, power⟩ := literal
  cases fraction with
  | some digits =>
      rw [Literal.tail, Option.elim_some, List.append_assoc, List.cons_append]
      exact fractionPart_digits ends digits power
  | none =>
      rw [Literal.tail, Option.elim_none, List.nil_append]
      cases power with
      | none =>
          rw [Option.elim_none, List.nil_append]
          unfold afterDigits
          split
          · exact absurd rfl (ends.head_ne _ _ rfl).1
          · exact absurd rfl (ends.head_ne _ _ rfl).2.1
          · exact absurd rfl (ends.head_ne _ _ rfl).2.2
          · rfl
      | some power =>
          rw [Option.elim_some, Power.text, List.cons_append]
          cases power.isUpper <;> exact powerPart_shift power ends.noDigit

include ends in
/-- A number without its sign is passed over, however large it is. -/
theorem unsigned_tail : unsigned (literal.whole.chars ++ (literal.tail ++ rest)) = .ok rest := by
  rw [unsigned_digits literal.whole literal.noLeadingZero (noDigit_tail literal ends),
    afterDigits_tail literal ends]

end Literal

/-! ## Lists and objects -/

section Entries

variable {element : List Char → Except Fault (List Char)}

/-- The value that a text begins with is passed over. -/
def Passes (element : List Char → Except Fault (List Char)) (tree : Tree) : Prop :=
  ∀ before rest, Ends rest → element (blanks before ++ (tree.text ++ rest)) = .ok rest

theorem elements_blanks (fuel : Nat) (first : Bool) (between : List Blank) (text : List Char) :
    elements element fuel first (blanks between ++ text) = elements element fuel first text := by
  cases fuel with
  | zero => rfl
  | succ fuel => simp only [elements, skipBlanks_blanks]

/-- The first element is passed over without a comma in front. -/
theorem elements_first (fuel : Nat) {entry : Padded Tree} (passes : Passes element entry.value)
    {rest : List Char} (ends : Ends (blanks entry.after ++ rest)) :
    elements element (fuel + 1) true (entry.text ++ rest) = elements element fuel false rest := by
  have passed : element (entry.value.text ++ (blanks entry.after ++ rest)) = _ := passes [] _ ends
  obtain ⟨c, more, same, begins⟩ := entry.value.exists_text
  have notClose := (Tree.solid_of_begins begins).2.1
  rw [Padded.text, List.append_assoc, List.append_assoc, elements, skipBlanks_tree]
  rw [same, List.cons_append] at passed ⊢
  split
  · rename_i nothing
    cases nothing
  · rename_i closes
    exact absurd (List.cons.inj closes).1 notClose
  · rename_i first
    cases first
    simp only [↓reduceIte, passed, elements_blanks]

/-- Every later element is passed over with its comma. -/
theorem elements_next (fuel : Nat) {entry : Padded Tree} (passes : Passes element entry.value)
    {rest : List Char} (ends : Ends (blanks entry.after ++ rest)) :
    elements element (fuel + 1) false (',' :: (entry.text ++ rest)) =
      elements element fuel false rest := by
  have passed := passes entry.before _ ends
  rw [Padded.text, List.append_assoc, List.append_assoc]
  rw [elements, skipBlanks_cons (c := ',') rfl]
  split
  · rename_i nothing
    cases nothing
  · rename_i closes
    exact absurd (List.cons.inj closes).1 (by decide)
  · rename_i same
    obtain ⟨rfl, rfl⟩ := List.cons.inj same
    simp only [passed, Bool.false_eq_true, ↓reduceIte]
    exact elements_blanks fuel false entry.after rest

/-- All later elements of a list are passed over, to the closing bracket. -/
theorem elements_entries {entries : List (Padded Tree)}
    (passes : ∀ entry ∈ entries, Passes element entry.value) {fuel : Nat}
    (enough : entries.length < fuel) (rest : List Char) :
    elements element fuel false (separated (entries.map Padded.text) ++ ']' :: rest) =
      .ok rest := by
  induction entries generalizing fuel with
  | nil =>
      cases fuel with
      | zero => cases enough
      | succ fuel => rfl
  | cons entry entries ih =>
      cases fuel with
      | zero => cases enough
      | succ fuel =>
          rw [List.map_cons, separated, List.flatMap_cons, ← separated, List.append_assoc,
            List.cons_append,
            elements_next fuel (passes entry (.head _)) (ends_after _ _ (.inl rfl) rest)]
          exact ih (fun other member => passes other (.tail _ member))
            (Nat.lt_of_succ_lt_succ enough)

/-- A list is passed over if its elements are. -/
theorem elements_list {entries : List (Padded Tree)}
    (passes : ∀ entry ∈ entries, Passes element entry.value) {fuel : Nat}
    (enough : entries.length < fuel) (inside : List Blank) (rest : List Char) :
    elements element fuel true
      (blanks inside ++ [','].intercalate (entries.map Padded.text) ++ ']' :: rest) = .ok rest := by
  rw [List.append_assoc, elements_blanks]
  cases fuel with
  | zero => cases enough
  | succ fuel =>
      cases entries with
      | nil => rfl
      | cons entry entries =>
          rw [List.map_cons, intercalate_cons, List.append_assoc,
            elements_first fuel (passes entry (.head _)) (ends_after _ _ (.inl rfl) rest)]
          exact elements_entries (fun other member => passes other (.tail _ member))
            (Nat.lt_of_succ_lt_succ enough) rest

theorem members_blanks (fuel : Nat) (first : Bool) (between : List Blank) (text : List Char) :
    members element fuel first (blanks between ++ text) = members element fuel first text := by
  cases fuel with
  | zero => rfl
  | succ fuel => simp only [members, skipBlanks_blanks]

/-- Passes over a member whose opening quote has been read, and then over the others. -/
def membersFrom (element : List Char → Except Fault (List Char)) (fuel : Nat) (text : List Char) :
    Except Fault (List Char) :=
  match string text with
  | .ok rest =>
      match colon rest with
      | .ok rest =>
          match element rest with
          | .ok rest => members element fuel false rest
          | .error fault => .error fault
      | .error fault => .error fault
  | .error fault => .error fault

/-- A member is passed over, key and value alike. -/
theorem membersFrom_text (fuel : Nat) {entry : Member Tree}
    (passes : Passes element entry.value.value) {rest : List Char} (ends : Ends rest) :
    membersFrom element fuel
      (entry.key.value.flatMap Piece.text ++ '"' :: (entry.afterKey ++ rest)) =
        members element fuel false rest := by
  have passed := passes entry.value.before _ ends
  rw [membersFrom, string_pieces, Member.afterKey]
  simp only [List.append_assoc, List.cons_append, colon_text, passed]

theorem members_first (fuel : Nat) (text : List Char) :
    members element (fuel + 1) true ('"' :: text) = membersFrom element fuel text := rfl

/-- Every later member is passed over behind its comma. -/
theorem members_next (fuel : Nat) (before : List Blank) (text : List Char) :
    members element (fuel + 1) false (',' :: (blanks before ++ '"' :: text)) =
      membersFrom element fuel text := by
  rw [members, skipBlanks_cons (c := ',') rfl]
  split
  · rename_i nothing
    cases nothing
  · rename_i closes
    exact absurd (List.cons.inj closes).1 (by decide)
  · rename_i same
    obtain ⟨rfl, rfl⟩ := List.cons.inj same
    rw [if_neg Bool.false_ne_true, if_pos rfl]
    dsimp only
    rw [skipBlanks_blanks, skipBlanks_cons (c := '"') rfl]
    rfl

/-- All later members of an object are passed over, to the closing brace. -/
theorem members_entries {entries : List (Member Tree)}
    (passes : ∀ entry ∈ entries, Passes element entry.value.value) {fuel : Nat}
    (enough : entries.length < fuel) (rest : List Char) :
    members element fuel false (separated (entries.map Member.text) ++ '\x7d' :: rest) =
      .ok rest := by
  induction entries generalizing fuel with
  | nil =>
      cases fuel with
      | zero => cases enough
      | succ fuel => rfl
  | cons entry entries ih =>
      cases fuel with
      | zero => cases enough
      | succ fuel =>
          rw [List.map_cons, separated, List.flatMap_cons, ← separated, List.append_assoc,
            List.cons_append, Member.text, quoted]
          simp only [List.append_assoc, List.cons_append, List.nil_append]
          rw [members_next, membersFrom_text fuel (passes entry (.head _))
            (ends_after _ _ (.inr rfl) rest), members_blanks]
          exact ih (fun other member => passes other (.tail _ member))
            (Nat.lt_of_succ_lt_succ enough)

/-- An object is passed over if the values of its members are. -/
theorem members_object {entries : List (Member Tree)}
    (passes : ∀ entry ∈ entries, Passes element entry.value.value) {fuel : Nat}
    (enough : entries.length < fuel) (inside : List Blank) (rest : List Char) :
    members element fuel true
      (blanks inside ++ [','].intercalate (entries.map Member.text) ++ '\x7d' :: rest) =
        .ok rest := by
  rw [List.append_assoc, members_blanks]
  cases fuel with
  | zero => cases enough
  | succ fuel =>
      cases entries with
      | nil => rfl
      | cons entry entries =>
          rw [List.map_cons, intercalate_cons, Member.text, quoted]
          simp only [List.append_assoc, List.cons_append, List.nil_append]
          rw [members_blanks, members_first, membersFrom_text fuel (passes entry (.head _))
            (ends_after _ _ (.inr rfl) rest), members_blanks]
          exact members_entries (fun other member => passes other (.tail _ member))
            (Nat.lt_of_succ_lt_succ enough) rest

end Entries

/-! ## Values -/

/-- A number is passed over wherever a value may stand. -/
theorem value_number (fuel : Nat) (literal : Literal) {rest : List Char} (ends : Ends rest) :
    value (fuel + 1) (literal.text ++ rest) = .ok rest := by
  have passed := unsigned_tail literal ends
  obtain ⟨c, more, same, isDigit⟩ := literal.whole.exists_chars
  rw [Literal.text]
  cases literal.isNegative with
  | true =>
      simp only [↓reduceIte, List.append_assoc, List.cons_append, List.nil_append]
      exact passed
  | false =>
      rw [same, List.cons_append] at passed
      have solid : isBlank c = false :=
        isBlank_of_startsNumber (by rw [startsNumber, isDigit, Bool.or_true])
      simp only [Bool.false_eq_true, ↓reduceIte, List.nil_append, List.append_assoc, same,
        List.cons_append]
      rw [value, skipBlanks_cons solid]
      split
      case h_1 nothing => cases nothing
      case h_9 begins =>
        cases begins
        rw [if_pos isDigit, passed]
      -- No word, string, list or object begins with a digit.
      all_goals
        rename_i begins
        cases begins
        exact absurd isDigit (by decide)

/-- A value whose text is no longer than the fuel is passed over. -/
theorem passes_value {fuel : Nat} {tree : Tree} (enough : tree.text.length ≤ fuel) :
    Passes (value fuel) tree := by
  induction fuel generalizing tree with
  | zero =>
      obtain ⟨c, more, same, -⟩ := tree.exists_text
      rw [same] at enough
      cases enough
  | succ fuel ih =>
      intro before rest ends
      rw [value, skipBlanks_tree]
      cases tree with
      | null => rw [Tree.text]; rfl
      | boolean isTrue => cases isTrue <;> rw [Tree.text] <;> rfl
      | number literal =>
          have passed := value_number fuel literal ends
          obtain ⟨c, more, same, starts⟩ := literal.exists_text
          rw [value, same, List.cons_append,
            skipBlanks_cons (isBlank_of_startsNumber starts)] at passed
          rw [Tree.text, same]
          exact passed
      | string pieces =>
          rw [Tree.text, quoted]
          simp only [List.append_assoc, List.cons_append, List.nil_append]
          exact string_pieces pieces rest
      | list inside entries =>
          rw [Tree.text_list] at enough ⊢
          simp only [List.length_append, List.length_cons] at enough
          have passes : ∀ entry ∈ entries, Passes (value fuel) entry.value := by
            intro entry member
            have shorter := length_le_of_mem (List.mem_map_of_mem (f := Padded.text) member)
            simp only [Padded.text, List.length_append] at shorter
            exact ih (by omega)
          have room := length_lt_text inside (entries.map Padded.text) ']' rest
          rw [List.length_map] at room
          have passed := elements_list passes room inside rest
          simp only [List.append_assoc, List.cons_append, List.nil_append] at passed ⊢
          exact passed
      | object inside entries =>
          rw [Tree.text_object] at enough ⊢
          simp only [List.length_append, List.length_cons] at enough
          have passes : ∀ entry ∈ entries, Passes (value fuel) entry.value.value := by
            intro entry member
            have shorter := length_le_of_mem (List.mem_map_of_mem (f := Member.text) member)
            simp only [Member.text, Member.afterKey, List.length_append,
              List.length_cons] at shorter
            exact ih (by omega)
          have room := length_lt_text inside (entries.map Member.text) '\x7d' rest
          rw [List.length_map] at room
          have passed := members_object passes room inside rest
          simp only [List.append_assoc, List.cons_append, List.nil_append] at passed ⊢
          exact passed

end Ignored

/-- Every written value can be skipped. -/
theorem skipValue_tree (tree : Tree) (before : List Blank) {rest : List Char} (ends : Ends rest) :
    skipValue (blanks before ++ (tree.text ++ rest)) = .ok rest := by
  apply Ignored.passes_value _ before rest ends
  simp only [List.length_append]
  omega

end HealthWatch.Json
