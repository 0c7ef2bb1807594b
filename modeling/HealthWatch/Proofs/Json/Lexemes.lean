import HealthWatch.Proofs.Json.Written

/-! # Reading written lexemes

A reader at the front of a written lexeme takes exactly the lexeme, and gives what it stands for
or refuses it when it stands for nothing (`Gives`). Strings are read by `stringBody`, whole
numbers by `readInteger`; a number with a fraction or a power of ten is never taken for a whole one.
-/

namespace HealthWatch.Json

open Written

/-- What reading comes to: the value and what is left of the text, or a refusal if there is no
value. -/
def Gives {α : Type} (result : Except Fault (α × List Char)) (value : Option α)
    (rest : List Char) : Prop :=
  match value with
  | some value => result = .ok (value, rest)
  | none => ∃ fault, result = .error fault

/-- Goes on reading after a value. -/
def andThen {α β : Type} (result : Except Fault (α × List Char))
    (next : α → List Char → Except Fault (β × List Char)) : Except Fault (β × List Char) :=
  match result with
  | .ok (value, rest) => next value rest
  | .error fault => .error fault

/-- Two readers in a row give what the second makes of the first one's value. -/
theorem Gives.andThen {α β : Type} {result : Except Fault (α × List Char)} {value : Option α}
    {after rest : List Char} {next : α → List Char → Except Fault (β × List Char)}
    {others : α → Option β} (first : Gives result value after)
    (more : ∀ value, Gives (next value after) (others value) rest) :
    Gives (Json.andThen result next) (value.bind others) rest := by
  cases value with
  | none =>
      obtain ⟨fault, rfl⟩ := first
      exact ⟨fault, rfl⟩
  | some value =>
      have taken : result = .ok (value, after) := first
      rw [taken]
      exact more value

/-! ## Blanks -/

/-- Blanks are skipped, however many there are. -/
theorem skipBlanks_blanks (between : List Blank) (text : List Char) :
    skipBlanks (blanks between ++ text) = skipBlanks text := by
  apply List.dropWhile_append_of_pos
  intro c member
  obtain ⟨blank, -, rfl⟩ := List.mem_map.mp member
  cases blank <;> rfl

theorem skipBlanks_cons {c : Char} (solid : isBlank c = false) (rest : List Char) :
    skipBlanks (c :: rest) = c :: rest := by
  rw [skipBlanks, List.dropWhile_cons_of_neg (by simp [solid])]

/-- A colon is found behind any blanks. -/
theorem colon_text (between : List Blank) (rest : List Char) :
    colon (blanks between ++ ':' :: rest) = .ok rest := by
  rw [colon, skipBlanks_blanks, skipBlanks_cons rfl]
  rfl

/-! ## Strings -/

/-- A hexadecimal digit of either case has its value. -/
theorem hexValue?_char (digit : HexDigit) : hexValue? digit.char = some digit.value.val := by
  obtain ⟨value, isUpper⟩ := digit
  revert value isUpper
  decide

/-- The four digits of a unit are read as its value. -/
theorem hexEscape_chars (code : CodeUnit) (rest : List Char) :
    hexEscape (code.chars ++ rest) = .ok (code.value, rest) := by
  simp only [CodeUnit.chars, List.cons_append, List.nil_append, hexEscape, hexValue?_char]
  rfl

/-- A short escape is read as the character that it stands for. -/
theorem escape_letter (short : ShortEscape) (rest : List Char) :
    escape (short.letter :: rest) = .ok (short.char, rest) := by
  cases short <;> rfl

/-- A unit after a backslash is a character of its own unless it is half of a pair: a first half
waits for the second one, and a second half alone is refused. -/
theorem escape_unit (code : CodeUnit) (rest : List Char) :
    escape ('u' :: (code.chars ++ rest)) =
      if isLowSurrogate code.value then .error (.here .loneSurrogate rest)
      else if isHighSurrogate code.value then lowHalf code.value rest
      else .ok (Char.ofNat code.value, rest) := by
  rw [escape, hexEscape_chars]
  rfl

/-- Behind the first half of a pair the unit has to be a second half. -/
theorem lowHalf_unit (high : Nat) (low : CodeUnit) (rest : List Char) :
    lowHalf high ((Piece.unit low).text ++ rest) =
      if isLowSurrogate low.value then
        .ok (Char.ofNat ((high - 0xD800) * 0x400 + (low.value - 0xDC00) + 0x10000), rest)
      else .error (.here .loneSurrogate rest) := by
  rw [Piece.text, List.cons_append, List.cons_append, lowHalf, hexEscape_chars]
  rfl

/-- Two characters that do not begin an escape are no second half of a character. -/
theorem lowHalf_of_not_unit (high : Nat) {pieces : List Piece}
    (other : ∀ low rest, pieces ≠ .unit low :: rest) (rest : List Char) :
    ∃ fault, lowHalf high (pieces.flatMap Piece.text ++ '"' :: rest) = .error fault := by
  cases pieces with
  | nil => exact ⟨_, rfl⟩
  | cons piece more =>
      cases piece with
      | plain letter =>
          rw [List.flatMap_cons, Piece.text, List.append_assoc, List.singleton_append, lowHalf]
          · exact ⟨_, rfl⟩
          all_goals simp [letter.notBackslash]
      | short escape => cases escape <;> exact ⟨_, rfl⟩
      | unit low => exact absurd rfl (other low more)

section StringBody

variable (read : List Char)

theorem stringBody_quote (rest : List Char) :
    stringBody read ('"' :: rest) = .ok (String.ofList read.reverse, rest) := by
  rw [stringBody]

/-- A plain character of a string stands for itself. -/
theorem stringBody_plain (letter : PlainChar) (rest : List Char) :
    stringBody read (letter.char :: rest) = stringBody (letter.char :: read) rest := by
  rw [stringBody, if_neg (Char.not_lt.mpr letter.notControl)]
  · exact letter.notQuote
  · exact letter.notBackslash

/-- An escape adds the character that it stands for. -/
theorem stringBody_escape {rest after : List Char} {c : Char}
    (escaped : escape rest = .ok (c, after)) :
    stringBody read ('\\' :: rest) = stringBody (c :: read) after := by
  rw [stringBody]
  split
  · rename_i same
    cases escaped.symm.trans same
    rfl
  · rename_i same
    cases escaped.symm.trans same

/-- A string with an escape that cannot be read cannot be read itself. -/
theorem stringBody_escape_error {rest : List Char} {fault : Fault}
    (refused : escape rest = .error fault) :
    stringBody read ('\\' :: rest) = .error fault := by
  rw [stringBody]
  split
  · rename_i same
    cases refused.symm.trans same
  · rename_i same
    cases refused.symm.trans same
    rfl

end StringBody

/-- A character read in front of the others comes before them in the text. -/
theorem map_ofList_cons (read : List Char) (c : Char) (chars : Option (List Char)) :
    chars.map (fun chars => String.ofList ((c :: read).reverse ++ chars)) =
      (chars.map (c :: ·)).map fun chars => String.ofList (read.reverse ++ chars) := by
  cases chars with
  | none => rfl
  | some chars => simp

/-- A string is read as the text that its pieces stand for. -/
theorem gives_stringBody (read : List Char) (pieces : List Piece) (rest : List Char) :
    Gives (stringBody read (pieces.flatMap Piece.text ++ '"' :: rest))
      ((decode pieces).map fun chars => String.ofList (read.reverse ++ chars)) rest := by
  fun_induction decode pieces generalizing read with
  | case1 =>
      rw [List.flatMap_nil, List.nil_append, stringBody_quote, Option.map_some, List.append_nil]
      rfl
  | case2 letter pieces ih =>
      rw [List.flatMap_cons, Piece.text, List.append_assoc, List.singleton_append,
        stringBody_plain, ← map_ofList_cons]
      exact ih (letter.char :: read)
  | case3 short pieces ih =>
      rw [List.flatMap_cons, Piece.text, List.append_assoc, List.cons_append, List.singleton_append,
        stringBody_escape read (escape_letter short _), ← map_ofList_cons]
      exact ih (short.char :: read)
  | case4 code pieces low =>
      rw [List.flatMap_cons, Piece.text, List.append_assoc, List.cons_append, List.cons_append]
      have alone := escape_unit code (pieces.flatMap Piece.text ++ '"' :: rest)
      rw [if_pos low] at alone
      exact ⟨_, stringBody_escape_error read alone⟩
  | case5 code notLow high low pieces isLow point ih =>
      rw [List.flatMap_cons, List.flatMap_cons, Piece.text, List.append_assoc, List.cons_append,
        List.cons_append, List.append_assoc]
      have pair := escape_unit code
        ((Piece.unit low).text ++ (pieces.flatMap Piece.text ++ '"' :: rest))
      rw [if_neg notLow, if_pos high, lowHalf_unit, if_pos isLow] at pair
      rw [stringBody_escape read pair, ← map_ofList_cons]
      exact ih (Char.ofNat point :: read)
  | case6 code notLow high low pieces notPair =>
      rw [List.flatMap_cons, List.flatMap_cons, Piece.text, List.append_assoc, List.cons_append,
        List.cons_append, List.append_assoc]
      have alone := escape_unit code
        ((Piece.unit low).text ++ (pieces.flatMap Piece.text ++ '"' :: rest))
      rw [if_neg notLow, if_pos high, lowHalf_unit, if_neg notPair] at alone
      exact ⟨_, stringBody_escape_error read alone⟩
  | case7 code pieces notLow high other =>
      rw [List.flatMap_cons, Piece.text, List.append_assoc, List.cons_append, List.cons_append]
      obtain ⟨fault, refused⟩ := lowHalf_of_not_unit code.value other rest
      have alone := escape_unit code (pieces.flatMap Piece.text ++ '"' :: rest)
      rw [if_neg notLow, if_pos high, refused] at alone
      exact ⟨_, stringBody_escape_error read alone⟩
  | case8 code pieces notLow notHigh ih =>
      rw [List.flatMap_cons, Piece.text, List.append_assoc, List.cons_append, List.cons_append]
      have single := escape_unit code (pieces.flatMap Piece.text ++ '"' :: rest)
      rw [if_neg notLow, if_neg notHigh] at single
      rw [stringBody_escape read single, ← map_ofList_cons]
      exact ih (Char.ofNat code.value :: read)

/-- A quoted string is read as the text that its pieces stand for, and refused if they stand for
none. -/
theorem gives_quoted (pieces : List Piece) (rest : List Char) :
    Gives (stringBody [] (pieces.flatMap Piece.text ++ '"' :: rest)) (textOf? pieces) rest :=
  gives_stringBody [] pieces rest

/-! ## Numbers -/

/-- What may stand behind a value: a blank or a bracket, a brace or a comma. -/
def Ends (rest : List Char) : Prop :=
  ∀ c ∈ rest.head?, isBlank c = true ∨ c = ',' ∨ c = ']' ∨ c = '\x7d'

/-- The text does not go on with a digit. -/
def NoDigit (rest : List Char) : Prop := ∀ c ∈ rest.head?, c.isDigit = false

/-- What may stand behind a value is no digit. -/
theorem Ends.noDigit {rest : List Char} (ends : Ends rest) : NoDigit rest := by
  intro c first
  rcases ends c first with blank | rfl | rfl | rfl
  · simp only [isBlank, Bool.or_eq_true, decide_eq_true_eq] at blank
    rcases blank with ((rfl | rfl) | rfl) | rfl <;> rfl
  all_goals rfl

/-- What may stand behind a value goes on with neither a fraction nor a power of ten. -/
theorem Ends.head_ne {rest : List Char} (ends : Ends rest) :
    ∀ c more, rest = c :: more → c ≠ '.' ∧ c ≠ 'e' ∧ c ≠ 'E' := by
  rintro c more rfl
  rcases ends c rfl with blank | rfl | rfl | rfl
  · simp only [isBlank, Bool.or_eq_true, decide_eq_true_eq] at blank
    rcases blank with ((rfl | rfl) | rfl) | rfl <;> decide
  all_goals decide

/-- Numbers that are read with a fraction or a power of ten, or too large, are no whole numbers. -/
def NotWhole (result : Except Fault (Number × List Char)) : Prop :=
  ∀ value rest, result = .ok (value, rest) → value.integer? = none

/-- A refusal is no whole number. -/
theorem notWhole_error (fault : Fault) : NotWhole (.error fault) := by
  intro value rest same
  cases same

/-- What is read as a float is no whole number, even where it has the value of one. -/
theorem notWhole_floatOf (isNegative : Bool) (significand : Nat) (power : Int) (after : List Char) :
    NotWhole (floatOf isNegative significand power after) := by
  intro value rest same
  rw [floatOf] at same
  split at same
  · cases same
    rfl
  · cases same

/-- With a power of ten behind it a number is not a whole one. -/
theorem notWhole_powerDigits (isNegative : Bool) (significand : Nat) (power : Int) (down : Bool)
    (text : List Char) : NotWhole (powerDigits isNegative significand power down text) := by
  unfold powerDigits
  dsimp only
  split
  · exact notWhole_error _
  · split
    · exact notWhole_error _
    · split
      · exact notWhole_floatOf _ _ _ _
      · split
        · exact notWhole_error _
        · intro value rest same
          cases same
          rfl

/-- A number that goes on behind the letter of a power is not a whole one. -/
theorem notWhole_powerPart (isNegative : Bool) (significand : Nat) (power : Int)
    (text : List Char) : NotWhole (powerPart isNegative significand power text) := by
  unfold powerPart
  split <;> exact notWhole_powerDigits _ _ _ _ _

/-- A number that goes on behind a point is not a whole one. -/
theorem notWhole_fractionPart (isNegative : Bool) (significand : Nat) (power : Int)
    (text : List Char) : NotWhole (fractionPart isNegative significand power text) := by
  unfold fractionPart
  dsimp only
  split
  · exact notWhole_error _
  · split
    · exact notWhole_powerPart _ _ _ _
    · exact notWhole_powerPart _ _ _ _
    · exact notWhole_floatOf _ _ _ _

/-- Digits that are appended never lower a value. -/
theorem le_ofDigitChars (digits : List Char) (value : Nat) :
    value ≤ Nat.ofDigitChars 10 digits value := by
  induction digits generalizing value with
  | nil => exact Nat.le_of_eq Nat.ofDigitChars_nil.symm
  | cons c rest ih =>
      rw [Nat.ofDigitChars_cons]
      have := ih (10 * value + (c.toNat - '0'.toNat))
      omega

/-- Digits are kept exact as long as the number that they make is. -/
theorem appendDigits_of_le {bound value : Nat} {digits : List Char}
    (fits : Nat.ofDigitChars 10 digits value ≤ bound) :
    appendDigits bound value digits = (Nat.ofDigitChars 10 digits value, []) := by
  induction digits generalizing value with
  | nil => rw [appendDigits, Nat.ofDigitChars_nil]
  | cons c rest ih =>
      rw [Nat.ofDigitChars_cons, Nat.mul_comm] at fits ⊢
      have next : value * 10 + digitValue c ≤ bound := Nat.le_trans (le_ofDigitChars rest _) fits
      rw [appendDigits, if_pos next]
      exact ih fits

/-- Digits are left over if the value of all of them exceeds the bound. -/
theorem appendDigits_of_lt {bound value : Nat} {digits : List Char} (small : value ≤ bound)
    (large : bound < Nat.ofDigitChars 10 digits value) :
    (appendDigits bound value digits).2 ≠ [] := by
  induction digits generalizing value with
  | nil =>
      rw [Nat.ofDigitChars_nil] at large
      omega
  | cons c rest ih =>
      rw [Nat.ofDigitChars_cons, Nat.mul_comm] at large
      rw [appendDigits]
      split
      · rename_i next
        exact ih next large
      · exact List.cons_ne_nil _ _

section Digits

variable (digits : Digits) {after : List Char} (stops : NoDigit after)

include stops in
/-- Digits are taken up to the first character that is none. -/
theorem takeWhile_digits : (digits.chars ++ after).takeWhile Char.isDigit = digits.chars := by
  rw [List.takeWhile_append_of_pos digits.decimal]
  cases after with
  | nil => rw [List.takeWhile_nil, List.append_nil]
  | cons next rest =>
      rw [List.takeWhile_cons_of_neg (by simp [stops next rfl]), List.append_nil]

include stops in
/-- Nothing is left of the digits once they have been taken. -/
theorem dropWhile_digits : (digits.chars ++ after).dropWhile Char.isDigit = after := by
  rw [List.dropWhile_append_of_pos digits.decimal]
  cases after with
  | nil => rfl
  | cons next rest => rw [List.dropWhile_cons_of_neg (by simp [stops next rfl])]

include stops in
/-- The test for a digit fails where no digit follows. -/
theorem NoDigit.head?_any : after.head?.any Char.isDigit = false := by
  cases after with
  | nil => rfl
  | cons next rest => exact stops next rfl

end Digits

/-- Digits without a leading zero are all taken before the fraction and the power are looked for. -/
theorem unsigned_digits (isNegative : Bool) (whole : Digits)
    (noLeadingZero : whole.chars.head? = some '0' → whole.chars = ['0']) {after : List Char}
    (stops : NoDigit after) :
    unsigned isNegative (whole.chars ++ after) = afterDigits isNegative whole.chars after := by
  have taken := takeWhile_digits whole stops
  have left := dropWhile_digits whole stops
  obtain ⟨c, more, same, isDigit⟩ := whole.exists_chars
  rw [same] at noLeadingZero taken left ⊢
  rw [List.cons_append] at taken left ⊢
  unfold unsigned
  dsimp only
  rw [if_neg (by simp [isDigit]), taken, left]
  by_cases zero : c = '0'
  · subst zero
    have alone : more = [] := (List.cons.inj (noLeadingZero rfl)).2
    subst alone
    simp only [List.nil_append, stops.head?_any, ↓reduceIte, decide_true, Bool.and_false,
      Bool.false_eq_true]
  · simp only [zero, ↓reduceIte, decide_false, Bool.false_and, Bool.false_eq_true]

section Literal

variable (literal : Literal) {rest : List Char} (ends : Ends rest)

include ends in
/-- What follows the digits of a fraction is no digit. -/
theorem noDigit_power (power : Option Power) : NoDigit (power.elim [] Power.text ++ rest) := by
  cases power with
  | none => exact ends.noDigit
  | some power =>
      intro c first
      obtain ⟨isUpper, sign, digits⟩ := power
      cases isUpper <;> cases first <;> rfl

include ends in
/-- What follows the digits before the point is no digit. -/
theorem noDigit_tail : NoDigit (literal.tail ++ rest) := by
  obtain ⟨isNegative, whole, noLeadingZero, fraction, power⟩ := literal
  cases fraction with
  | none => exact noDigit_power ends power
  | some digits =>
      intro c first
      cases first
      rfl

include ends in
/-- A number begins with its sign and the digits before the point. -/
theorem number_text : number (literal.text ++ rest) =
    afterDigits literal.isNegative literal.whole.chars (literal.tail ++ rest) := by
  have digits := unsigned_digits literal.isNegative literal.whole literal.noLeadingZero
    (noDigit_tail literal ends)
  rw [Literal.text, ← digits]
  cases isNegative : literal.isNegative with
  | true => simp only [↓reduceIte, List.cons_append, List.nil_append, List.append_assoc, number]
  | false =>
      obtain ⟨c, more, same, isDigit⟩ := literal.whole.exists_chars
      simp only [Bool.false_eq_true, ↓reduceIte, List.nil_append, List.append_assoc, same,
        List.cons_append]
      rw [number]
      rintro after begins
      cases begins
      cases isDigit

/-- The whole number that a literal stands for, if it is one that 64 bits are enough for. -/
def kept? : Option Int :=
  literal.integer?.filter fun whole =>
    decide (-0x8000000000000000 ≤ whole ∧ whole ≤ 0xFFFFFFFFFFFFFFFF)

/-- A number with a fraction, a power of ten or more digits than 64 bits hold is none of the whole
numbers that are kept exact. -/
theorem notWhole_afterDigits (isNegative : Bool) (digits : List Char)
    (dropped : (appendDigits maxSignificand 0 digits).2 ≠ []) (after : List Char) :
    NotWhole (afterDigits isNegative digits after) := by
  unfold afterDigits
  dsimp only
  split
  · exact notWhole_fractionPart _ _ _ _
  · exact notWhole_powerPart _ _ _ _
  · exact notWhole_powerPart _ _ _ _
  · rw [if_neg (by simpa using dropped)]
    exact notWhole_floatOf _ _ _ _

/-- A number with a fraction or a power of ten is not a whole one. -/
theorem notWhole_of_tail (isNegative : Bool) (digits : List Char) {rest : List Char}
    (tail : literal.fraction.isSome ∨ literal.power.isSome) :
    NotWhole (afterDigits isNegative digits (literal.tail ++ rest)) := by
  obtain ⟨_, whole, noLeadingZero, fraction, power⟩ := literal
  cases fraction with
  | some digits => exact notWhole_fractionPart _ _ _ _
  | none =>
      cases power with
      | some power =>
          obtain ⟨isUpper, sign, digits⟩ := power
          cases isUpper <;> exact notWhole_powerPart _ _ _ _
      | none => simp at tail

/-- A number with neither a fraction nor a power of ten ends with its digits. -/
theorem tail_eq_nil (bare : ¬(literal.fraction.isSome ∨ literal.power.isSome)) :
    literal.tail = [] := by
  rw [not_or] at bare
  rw [Literal.tail, Option.not_isSome_iff_eq_none.mp bare.1,
    Option.not_isSome_iff_eq_none.mp bare.2]
  rfl

include ends in
/-- Digits that fit, with nothing of a number behind them, are read as a whole number. -/
theorem afterDigits_of_ends (isNegative : Bool) {digits : Digits}
    (fits : digits.value ≤ maxSignificand) :
    afterDigits isNegative digits.chars rest =
      .ok (wholeNumber isNegative digits.value, rest) := by
  unfold afterDigits
  rw [appendDigits_of_le fits]
  dsimp only
  split
  · exact absurd rfl (ends.head_ne _ _ rfl).1
  · exact absurd rfl (ends.head_ne _ _ rfl).2.1
  · exact absurd rfl (ends.head_ne _ _ rfl).2.2
  · rfl

/-- The whole number that digits and a sign make. -/
theorem integer?_wholeNumber (isNegative : Bool) (value : Nat) :
    (wholeNumber isNegative value).integer? =
      if !isNegative then some (value : Int)
      else if 0 < value ∧ value ≤ 0x8000000000000000 then some (-value) else none := by
  unfold wholeNumber
  split
  · rfl
  · split <;> rfl

include ends in
/-- A whole number of at most 64 bits is kept exact. -/
theorem number_of_kept? {whole : Int} (kept : kept? literal = some whole) :
    number (literal.text ++ rest) =
        .ok (wholeNumber literal.isNegative literal.whole.value, rest) ∧
      (wholeNumber literal.isNegative literal.whole.value).integer? = some whole := by
  obtain ⟨integer, fits⟩ := Option.filter_eq_some_iff.mp kept
  rw [decide_eq_true_eq] at fits
  rw [Literal.integer?] at integer
  split at integer
  · cases integer
  · rename_i bare
    have small : literal.whole.value ≤ maxSignificand := by
      unfold maxSignificand
      split at integer
      · cases integer
        omega
      · split at integer
        · cases integer
        · cases integer
          omega
    constructor
    · rw [number_text literal ends, tail_eq_nil literal bare]
      exact afterDigits_of_ends ends _ small
    · rw [integer?_wholeNumber]
      split at integer
      · rename_i positive
        rw [if_pos positive]
        exact integer
      · rename_i negative
        split at integer
        · cases integer
        · rename_i nonzero
          cases integer
          rw [if_neg negative, if_pos ⟨Nat.pos_of_ne_zero nonzero, by omega⟩]

include ends in
/-- Any other number is no whole number. -/
theorem notWhole_of_not_kept? (kept : kept? literal = none) :
    NotWhole (number (literal.text ++ rest)) := by
  rw [number_text literal ends]
  by_cases tail : literal.fraction.isSome ∨ literal.power.isSome
  · exact notWhole_of_tail literal _ _ tail
  · rw [tail_eq_nil literal tail, List.nil_append]
    by_cases small : literal.whole.value ≤ maxSignificand
    · rw [afterDigits_of_ends ends _ small]
      intro value after same
      cases same
      rw [integer?_wholeNumber]
      rw [kept?, Literal.integer?, if_neg tail] at kept
      unfold maxSignificand at small
      split
      · rename_i positive
        rw [if_pos positive, Option.filter_eq_none_iff] at kept
        have := kept _ rfl
        rw [decide_eq_true_eq] at this
        omega
      · rename_i negative
        rw [if_neg negative] at kept
        split
        · rename_i bounded
          rw [if_neg (by omega), Option.filter_eq_none_iff] at kept
          have := kept _ rfl
          rw [decide_eq_true_eq] at this
          omega
        · rfl
    · exact notWhole_afterDigits _ _ (appendDigits_of_lt (Nat.zero_le _) (Nat.lt_of_not_le small)) _

end Literal

end HealthWatch.Json
