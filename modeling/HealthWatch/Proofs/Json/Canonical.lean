import HealthWatch.Json.Text
import HealthWatch.Proofs.Json.Records

/-! # Texts and numbers as they are written here

The writer spells every text and every whole number in one way. Both stand for what was written, and
neither holds a character below the space.
-/

namespace HealthWatch.Json.Written

/-! ## Texts -/

/-- A control character by its number. -/
def CodeUnit.ofControl (c : Char) (control : c.toNat < 32) : CodeUnit :=
  ⟨⟨0, false⟩, ⟨0, false⟩, ⟨⟨c.toNat / 16, by omega⟩, false⟩, ⟨⟨c.toNat % 16, by omega⟩, false⟩⟩

/-- The unit of a control character has the character's code as its value. -/
theorem CodeUnit.value_ofControl (c : Char) (control : c.toNat < 32) :
    (ofControl c control).value = c.toNat := by
  simp only [ofControl, value]
  omega

/-- How a character of a text is written. -/
def Piece.ofChar (c : Char) : Piece :=
  if quote : c = '"' then .short .quote
  else if backslash : c = '\\' then .short .backslash
  else if c = '\x08' then .short .backspace
  else if c = '\t' then .short .tab
  else if c = '\n' then .short .lineFeed
  else if c = '\x0c' then .short .formFeed
  else if c = '\r' then .short .carriageReturn
  else if control : c < ' ' then .unit (.ofControl c control)
  else .plain ⟨c, Char.not_lt.mp control, quote, backslash⟩

/-- The piece chosen for a character is written as the encoder writes the character. -/
theorem Piece.text_ofChar (c : Char) : (Piece.ofChar c).text = encodeChar c := by
  simp only [Piece.ofChar, apply_dite Piece.text, apply_ite Piece.text]
  rfl

/-- A control character escaped as a unit decodes to itself, whatever follows. -/
theorem decode_ofControl {c : Char} (control : c.toNat < 32) (pieces : List Piece) :
    decode (.unit (.ofControl c control) :: pieces) = (decode pieces).map (c :: ·) := by
  have notLow : ¬isLowSurrogate (CodeUnit.ofControl c control).value = true := by
    simp only [isLowSurrogate, CodeUnit.value_ofControl, Bool.and_eq_true, decide_eq_true_eq]
    omega
  have notHigh : ¬isHighSurrogate (CodeUnit.ofControl c control).value = true := by
    simp only [isHighSurrogate, CodeUnit.value_ofControl, Bool.and_eq_true, decide_eq_true_eq]
    omega
  rw [decode.eq_def]
  dsimp only
  rw [if_neg notLow, if_neg notHigh, CodeUnit.value_ofControl, Char.ofNat_toNat]

/-- A character's own piece decodes to that character, whatever follows. -/
theorem decode_ofChar (c : Char) (pieces : List Piece) :
    decode (Piece.ofChar c :: pieces) = (decode pieces).map (c :: ·) := by
  by_cases quote : c = '"'
  · subst quote
    rfl
  by_cases backslash : c = '\\'
  · subst backslash
    rfl
  by_cases backspace : c = '\x08'
  · subst backspace
    rfl
  by_cases tab : c = '\t'
  · subst tab
    rfl
  by_cases lineFeed : c = '\n'
  · subst lineFeed
    rfl
  by_cases formFeed : c = '\x0c'
  · subst formFeed
    rfl
  by_cases carriageReturn : c = '\r'
  · subst carriageReturn
    rfl
  rw [Piece.ofChar, dif_neg quote, dif_neg backslash, if_neg backspace, if_neg tab,
    if_neg lineFeed, if_neg formFeed, if_neg carriageReturn]
  split
  · exact decode_ofControl _ pieces
  · rfl

/-- The pieces of a text. -/
def spell (text : String) : List Piece := text.toList.map Piece.ofChar

/-- The spelling of a text stands for that text. -/
theorem textOf?_spell (text : String) : textOf? (spell text) = some text := by
  have decoded (chars : List Char) : decode (chars.map Piece.ofChar) = some chars := by
    induction chars with
    | nil => rfl
    | cons c chars ih => rw [List.map_cons, decode_ofChar, ih, Option.map_some]
  rw [textOf?, spell, decoded, Option.map_some, String.ofList_toList]

/-- A text between quotes is written as the encoder writes it. -/
theorem quoted_spell (text : String) : quoted (spell text) = encodeChars text.toList := by
  rw [quoted, spell, List.flatMap_map, encodeChars]
  simp only [Piece.text_ofChar]

/-- No part of a string holds a control character. -/
theorem Piece.printable (piece : Piece) : ∀ c ∈ piece.text, ' ' ≤ c := by
  have hexadecimal (digit : HexDigit) : ' ' ≤ digit.char := by
    obtain ⟨value, isUpper⟩ := digit
    revert value isUpper
    decide
  cases piece with
  | plain letter =>
      intro c member
      cases List.mem_singleton.mp member
      exact letter.notControl
  | short escape =>
      refine List.forall_mem_cons.mpr ⟨by decide, List.forall_mem_singleton.mpr ?_⟩
      cases escape <;> decide
  | unit code =>
      simp only [Piece.text, CodeUnit.chars, List.forall_mem_cons]
      exact ⟨by decide, by decide, hexadecimal _, hexadecimal _, hexadecimal _, hexadecimal _,
        List.forall_mem_nil _⟩

/-- No control character occurs in a written string, not even in its quotes and escapes. -/
theorem quoted_printable (pieces : List Piece) : ∀ c ∈ quoted pieces, ' ' ≤ c := by
  simp only [quoted, List.cons_append, List.forall_mem_cons, List.forall_mem_append,
    List.forall_mem_flatMap]
  exact ⟨by decide, fun piece _ => piece.printable, by decide, List.forall_mem_nil _⟩

/-! ## Whole numbers -/

/-- The digits of a number. -/
def Digits.ofNat (value : Nat) : Digits :=
  ⟨Nat.toDigits 10 value, Nat.toDigits_ne_nil,
    fun _ member => Nat.isDigit_of_mem_toDigits (by decide) (by decide) member⟩

theorem Digits.value_ofNat (value : Nat) : (Digits.ofNat value).value = value :=
  Nat.ofDigitChars_ten_toDigits

/-- No number but zero begins with a zero. -/
theorem toDigits_noLeadingZero (value : Nat) (zero : (Nat.toDigits 10 value).head? = some '0') :
    Nat.toDigits 10 value = ['0'] := by
  induction value using Nat.strongRecOn with
  | ind value ih =>
      by_cases small : value < 10
      · rw [Nat.toDigits_of_lt_base small] at zero ⊢
        rw [Option.some.inj zero]
      · have large : 10 ≤ value := Nat.le_of_not_lt small
        have begins : (Nat.toDigits 10 (value / 10)).head? = some '0' := by
          rw [Nat.toDigits_of_base_le (by decide) large] at zero
          obtain ⟨c, more, same⟩ := List.exists_cons_of_ne_nil
            (Nat.toDigits_ne_nil (n := value / 10) (b := 10))
          rwa [same] at zero ⊢
        have nothing := ih (value / 10) (Nat.div_lt_self (by omega) (by decide)) begins
        have same : Nat.ofDigitChars 10 (Nat.toDigits 10 (value / 10)) 0 = value / 10 :=
          Nat.ofDigitChars_ten_toDigits
        rw [nothing] at same
        have : Nat.ofDigitChars 10 ['0'] 0 = 0 := by decide
        omega

/-- How a whole number is written. -/
def Literal.ofInt (value : Int) : Literal where
  isNegative := decide (value < 0)
  whole := .ofNat value.natAbs
  noLeadingZero := toDigits_noLeadingZero value.natAbs
  fraction := none
  power := none

/-- The literal of an integer is written as the integer is printed. -/
theorem Literal.text_ofInt (value : Int) :
    (Literal.ofInt value).text = (toString value).toList := by
  rw [Int.toString_eq_repr, Int.repr_eq_if]
  by_cases negative : value < 0
  · have same : value.natAbs = (-value).toNat := by omega
    rw [if_neg (Int.not_le.mpr negative), String.toList_append, Nat.toList_repr]
    simp [Literal.text, Literal.tail, ofInt, Digits.ofNat, negative, same]
  · have same : value.natAbs = value.toNat := by omega
    rw [if_pos (Int.not_lt.mp negative), Nat.toList_repr]
    simp [Literal.text, Literal.tail, ofInt, Digits.ofNat, negative, same]

/-- The literal of an integer stands for that integer. -/
theorem Literal.integer?_ofInt (value : Int) : (Literal.ofInt value).integer? = some value := by
  have whole : (Literal.ofInt value).whole.value = value.natAbs := Digits.value_ofNat _
  rw [integer?, if_neg (by rintro (_ | _) <;> contradiction), whole]
  by_cases negative : value < 0
  · have sign : (Literal.ofInt value).isNegative = true := decide_eq_true negative
    have nonzero : value.natAbs ≠ 0 := by omega
    rw [sign, if_neg (by decide), if_neg nonzero]
    exact congrArg some (by omega)
  · have sign : (Literal.ofInt value).isNegative = false := decide_eq_false negative
    rw [sign, if_pos (by decide)]
    exact congrArg some (by omega)

theorem Tree.data?_ofInt (name : String) {low high value : Int}
    (inside : low ≤ value ∧ value ≤ high) :
    (Tree.number (.ofInt value)).data? (.integer name low high) = some value :=
  Option.filter_eq_some_iff.mpr ⟨Literal.integer?_ofInt value, decide_eq_true inside⟩

/-- Digits are no control characters. -/
theorem Digits.printable (digits : Digits) : ∀ c ∈ digits.chars, ' ' ≤ c := by
  intro c member
  have isDigit := Char.isDigit_iff_toNat.mp (digits.decimal c member)
  exact Nat.le_trans (by decide) isDigit.1

/-- A power of ten is written without control characters. -/
theorem Power.printable (power : Power) : ∀ c ∈ power.text, ' ' ≤ c := by
  obtain ⟨isUpper, sign, digits⟩ := power
  simp only [text, shift, List.forall_mem_cons, List.forall_mem_append]
  refine ⟨by split <;> decide, ?_, digits.printable⟩
  rcases sign with _ | _ | _
  · exact List.forall_mem_nil _
  · exact List.forall_mem_singleton.mpr (by decide)
  · exact List.forall_mem_singleton.mpr (by decide)

/-- No number holds a control character. -/
theorem Literal.printable (literal : Literal) : ∀ c ∈ literal.text, ' ' ≤ c := by
  obtain ⟨isNegative, whole, noLeadingZero, fraction, power⟩ := literal
  simp only [text, tail, List.forall_mem_append]
  refine ⟨⟨?_, whole.printable⟩, ?_, ?_⟩
  · cases isNegative with
    | true => exact List.forall_mem_singleton.mpr (by decide)
    | false => exact List.forall_mem_nil _
  · cases fraction with
    | none => exact List.forall_mem_nil _
    | some digits => exact List.forall_mem_cons.mpr ⟨by decide, digits.printable⟩
  · cases power with
    | none => exact List.forall_mem_nil _
    | some power => exact power.printable

/-! ## Objects -/

/-- A member without blanks around its parts. -/
def Member.compact (key : String) (value : Tree) : Member Tree :=
  ⟨⟨[], spell key, []⟩, ⟨[], value, []⟩⟩

/-- A member without blanks is its key, a colon and its value. -/
theorem Member.text_compact (key : String) (value : Tree) :
    (compact key value).text = encodeChars key.toList ++ ':' :: value.text := by
  simp only [Member.text, Member.afterKey, compact, blanks, List.map_nil, List.nil_append,
    List.append_nil, List.cons_append, quoted_spell]

/-- An object without blanks between its parts. -/
def Document.compact (members : List (String × Tree)) : Document :=
  ⟨[], [], members.map fun member => .compact member.1 member.2, []⟩

/-- A document without blanks is its members between braces, with single commas between them. -/
theorem Document.toList_compact (members : List (String × Tree)) :
    (compact members).text.toList =
      '\x7b' :: [','].intercalate (members.map fun member =>
        encodeChars member.1.toList ++ ':' :: member.2.text) ++ ['\x7d'] := by
  simp only [Document.text, compact, String.toList_ofList, Tree.text_object, blanks, List.map_nil,
    List.nil_append, List.append_nil, List.cons_append, List.map_map, Function.comp_def,
    Member.text_compact]

/-- The entries of a compact document are the members that it was made of. -/
theorem entries?_compact (members : List (String × Tree)) :
    entries? (Document.compact members).members = some members := by
  induction members with
  | nil => rfl
  | cons member members ih =>
      rw [Document.compact] at ih ⊢
      rw [List.map_cons, entries?_cons, ih, Member.name?, Member.compact]
      dsimp only
      rw [textOf?_spell]
      rfl

end HealthWatch.Json.Written
