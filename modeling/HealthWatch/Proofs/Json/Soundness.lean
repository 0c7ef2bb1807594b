import HealthWatch.Proofs.Json.Entries

/-! # What has been read was written

Whatever a reader takes off the front of a text is a lexeme of the grammar: blanks, a string in
its quotes (`exists_pieces`), a number (`exists_literal`). What `elements` and `members` take is
the entries of a list or of an object, if what they read as an entry is one
(`exists_elements`, `exists_members`).
-/

namespace HealthWatch.Json

open Written

/-! ## Blanks and words -/

/-- What counts as a blank is one of the four. -/
theorem exists_blank {c : Char} (blank : isBlank c = true) : ∃ one : Blank, one.char = c := by
  simp only [isBlank, Bool.or_eq_true, decide_eq_true_eq] at blank
  rcases blank with ((rfl | rfl) | rfl) | rfl
  · exact ⟨.space, rfl⟩
  · exact ⟨.lineFeed, rfl⟩
  · exact ⟨.tab, rfl⟩
  · exact ⟨.carriageReturn, rfl⟩

/-- What is skipped at the front of a text is blanks. -/
theorem exists_blanks (text : List Char) :
    ∃ between : List Blank, text = blanks between ++ skipBlanks text := by
  induction text with
  | nil => exact ⟨[], rfl⟩
  | cons c rest ih =>
      cases blank : isBlank c with
      | false => exact ⟨[], (skipBlanks_cons blank rest).symm⟩
      | true =>
          obtain ⟨one, rfl⟩ := exists_blank blank
          obtain ⟨between, same⟩ := ih
          have skipped : skipBlanks (one.char :: rest) = skipBlanks rest := by
            rw [skipBlanks, List.dropWhile_cons_of_pos blank, skipBlanks]
          refine ⟨one :: between, ?_⟩
          rw [skipped, blanks, List.map_cons, List.cons_append, ← blanks, ← same]

theorem blanks_append (first second : List Blank) :
    blanks (first ++ second) = blanks first ++ blanks second :=
  List.map_append

/-- Where a word is read, the text begins with its letters. -/
theorem eq_of_word {letters text rest : List Char} (read : word letters text = .ok rest) :
    text = letters ++ rest := by
  induction letters generalizing text with
  | nil =>
      rw [word] at read
      exact Except.ok.inj read
  | cons expected more ih =>
      cases text with
      | nil => cases read
      | cons c text =>
          rw [word] at read
          split at read
          · rename_i same
            rw [same, ih read, List.cons_append]
          · cases read

/-- Where a colon is read, it stands behind blanks. -/
theorem exists_colon {text rest : List Char} (read : colon text = .ok rest) :
    ∃ between : List Blank, text = blanks between ++ ':' :: rest := by
  obtain ⟨between, same⟩ := exists_blanks text
  rw [colon] at read
  split at read
  · rename_i skipped
    cases read
    exact ⟨between, skipped ▸ same⟩
  · cases read
  · cases read

/-! ## Strings -/

/-- A character of a range is so many characters after its first. -/
theorem exists_offset {low high c : Char} (above : low ≤ c) (below : c ≤ high) :
    ∃ offset : Fin (high.toNat - low.toNat + 1), Char.ofNat (low.toNat + offset) = c := by
  have above : low.toNat ≤ c.toNat := UInt32.le_iff_toNat_le.mp above
  have below : c.toNat ≤ high.toNat := UInt32.le_iff_toNat_le.mp below
  refine ⟨⟨c.toNat - low.toNat, by omega⟩, ?_⟩
  dsimp only
  rw [Nat.add_sub_cancel' above, Char.ofNat_toNat]

/-- A character with a hexadecimal value is a hexadecimal digit. -/
theorem exists_hexDigit {c : Char} {value : Nat} (read : hexValue? c = some value) :
    ∃ digit : HexDigit, digit.char = c := by
  have decimal : ∀ offset : Fin 10,
      HexDigit.char ⟨⟨offset, by omega⟩, false⟩ = Char.ofNat ('0'.toNat + offset) := by decide
  have lower : ∀ offset : Fin 6,
      HexDigit.char ⟨⟨10 + offset, by omega⟩, false⟩ = Char.ofNat ('a'.toNat + offset) := by decide
  have upper : ∀ offset : Fin 6,
      HexDigit.char ⟨⟨10 + offset, by omega⟩, true⟩ = Char.ofNat ('A'.toNat + offset) := by decide
  unfold hexValue? at read
  split at read
  · rename_i inside
    obtain ⟨offset, rfl⟩ := exists_offset inside.1 inside.2
    exact ⟨_, decimal offset⟩
  · split at read
    · rename_i inside
      obtain ⟨offset, rfl⟩ := exists_offset inside.1 inside.2
      exact ⟨_, lower offset⟩
    · split at read
      · rename_i inside
        obtain ⟨offset, rfl⟩ := exists_offset inside.1 inside.2
        exact ⟨_, upper offset⟩
      · cases read

/-- What is read as a unit is four hexadecimal digits with its value. -/
theorem exists_codeUnit {text rest : List Char} {unit : Nat}
    (read : hexEscape text = .ok (unit, rest)) :
    ∃ code : CodeUnit, text = code.chars ++ rest ∧ code.value = unit := by
  unfold hexEscape at read
  split at read
  · split at read
    · rename_i first second third fourth
      obtain ⟨one, rfl⟩ := exists_hexDigit first
      obtain ⟨two, rfl⟩ := exists_hexDigit second
      obtain ⟨three, rfl⟩ := exists_hexDigit third
      obtain ⟨four, rfl⟩ := exists_hexDigit fourth
      rw [hexValue?_char] at first second third fourth
      cases first
      cases second
      cases third
      cases fourth
      cases read
      exact ⟨⟨one, two, three, four⟩, rfl, rfl⟩
    · cases read
  · cases read

/-- What is read as the second half of a pair is a unit after its own backslash. -/
theorem exists_lowHalf {text rest : List Char} {high : Nat} {c : Char}
    (read : lowHalf high text = .ok (c, rest)) :
    ∃ code : CodeUnit, text = (Piece.unit code).text ++ rest := by
  unfold lowHalf at read
  split at read
  · rename_i after
    cases low : hexEscape after with
    | error fault => simp [low, bind, Except.bind] at read
    | ok pair =>
        obtain ⟨code, rfl, -⟩ := exists_codeUnit low
        simp only [low, bind, Except.bind] at read
        split at read
        · rw [Except.ok.injEq, Prod.mk.injEq] at read
          exact ⟨code, by rw [← read.2]; rfl⟩
        · cases read
  all_goals cases read

/-- What follows a backslash is the rest of one escape sequence or of two. -/
theorem exists_escape {text rest : List Char} {c : Char} (read : escape text = .ok (c, rest)) :
    ∃ pieces : List Piece, '\\' :: text = pieces.flatMap Piece.text ++ rest := by
  unfold escape at read
  split at read
  case h_1 => cases read
  case h_2 after =>
    cases unit : hexEscape after with
    | error fault => simp [unit, bind, Except.bind] at read
    | ok pair =>
        obtain ⟨code, rfl, -⟩ := exists_codeUnit unit
        simp only [unit, bind, Except.bind] at read
        split at read
        · cases read
        · split at read
          · obtain ⟨low, same⟩ := exists_lowHalf read
            refine ⟨[.unit code, .unit low], ?_⟩
            rw [same]
            simp [Piece.text]
          · cases read
            exact ⟨[.unit code], by simp [Piece.text]⟩
  case h_3 => cases read; exact ⟨[.short .quote], rfl⟩
  case h_4 => cases read; exact ⟨[.short .backslash], rfl⟩
  case h_5 => cases read; exact ⟨[.short .slash], rfl⟩
  case h_6 => cases read; exact ⟨[.short .backspace], rfl⟩
  case h_7 => cases read; exact ⟨[.short .formFeed], rfl⟩
  case h_8 => cases read; exact ⟨[.short .lineFeed], rfl⟩
  case h_9 => cases read; exact ⟨[.short .carriageReturn], rfl⟩
  case h_10 => cases read; exact ⟨[.short .tab], rfl⟩
  case h_11 => cases read

/-- What is read as a string is written in pieces. -/
theorem exists_pieces {read text rest : List Char} {value : String}
    (taken : stringBody read text = .ok (value, rest)) :
    ∃ pieces : List Piece, text = pieces.flatMap Piece.text ++ '"' :: rest := by
  fun_induction stringBody read text with
  | case1 read => cases taken
  | case2 read after =>
      cases taken
      exact ⟨[], rfl⟩
  | case3 read after c later step ih =>
      obtain ⟨first, same⟩ := exists_escape step
      obtain ⟨pieces, rfl⟩ := ih taken
      refine ⟨first ++ pieces, ?_⟩
      rw [same, List.flatMap_append, List.append_assoc]
  | case4 read after fault step => cases taken
  | case5 => cases taken
  | case6 read c after notQuote notBackslash notControl ih =>
      obtain ⟨pieces, rfl⟩ := ih taken
      exact ⟨.plain ⟨c, Char.not_lt.mp notControl, fun same => notQuote same,
        fun same => notBackslash same⟩ :: pieces, rfl⟩

/-! ## Numbers -/

/-- From a digit on, what is taken is the digits of a number. -/
theorem exists_digits {c : Char} (more : List Char) (isDigit : c.isDigit = true) :
    ∃ digits : Digits, (c :: more).takeWhile Char.isDigit = digits.chars ∧
      c :: more = digits.chars ++ (c :: more).dropWhile Char.isDigit := by
  refine ⟨⟨(c :: more).takeWhile Char.isDigit, ?_, ?_⟩, rfl, ?_⟩
  · rw [List.takeWhile_cons_of_pos isDigit]
    exact List.cons_ne_nil _ _
  · exact List.all_eq_true.mp List.all_takeWhile
  · exact List.takeWhile_append_dropWhile.symm

/-- Making a float takes nothing off the text. -/
theorem eq_of_floatOf {isNegative : Bool} {significand : Nat} {power : Int}
    {after rest : List Char} {value : Number}
    (read : floatOf isNegative significand power after = .ok (value, rest)) : after = rest := by
  unfold floatOf at read
  split at read
  · cases read
    rfl
  · cases read

/-- What is read as the digits of a power is digits. -/
theorem exists_powerDigits {isNegative down : Bool} {significand : Nat} {power : Int}
    {text rest : List Char} {value : Number}
    (read : powerDigits isNegative significand power down text = .ok (value, rest)) :
    ∃ digits : Digits, text = digits.chars ++ rest := by
  unfold powerDigits at read
  cases text with
  | nil => cases read
  | cons c more =>
      dsimp only at read
      split at read
      · cases read
      · rename_i isDigit
        obtain ⟨digits, -, same⟩ := exists_digits more (by simpa using isDigit)
        refine ⟨digits, same.trans ?_⟩
        congr 1
        split at read
        · exact eq_of_floatOf read
        · split at read
          · cases read
          · cases read
            rfl

/-- What is read behind the letter of a power is a power of ten. -/
theorem exists_power {isNegative : Bool} {significand : Nat} {power : Int}
    {text rest : List Char} {value : Number} (isUpper : Bool)
    (read : powerPart isNegative significand power text = .ok (value, rest)) :
    ∃ written : Power, written.isUpper = isUpper ∧ text = written.shift ++ rest := by
  unfold powerPart at read
  split at read
  · obtain ⟨digits, rfl⟩ := exists_powerDigits read
    exact ⟨⟨isUpper, some false, digits⟩, rfl, rfl⟩
  · obtain ⟨digits, rfl⟩ := exists_powerDigits read
    exact ⟨⟨isUpper, some true, digits⟩, rfl, rfl⟩
  · obtain ⟨digits, rfl⟩ := exists_powerDigits read
    exact ⟨⟨isUpper, none, digits⟩, rfl, rfl⟩

/-- A power of ten that comes after the letter `e`, of either case. -/
theorem exists_powerText {isNegative : Bool} {significand : Nat} {power : Int}
    {text rest : List Char} {value : Number} (isUpper : Bool)
    (read : powerPart isNegative significand power text = .ok (value, rest)) :
    ∃ written : Option Power,
      (if isUpper then 'E' else 'e') :: text = written.elim [] Power.text ++ rest := by
  obtain ⟨written, rfl, rfl⟩ := exists_power isUpper read
  exact ⟨some written, rfl⟩

/-- What is read behind a point is digits and perhaps a power of ten. -/
theorem exists_fraction {isNegative : Bool} {significand : Nat} {power : Int}
    {text rest : List Char} {value : Number}
    (read : fractionPart isNegative significand power text = .ok (value, rest)) :
    ∃ (digits : Digits) (written : Option Power),
      text = digits.chars ++ written.elim [] Power.text ++ rest := by
  unfold fractionPart at read
  dsimp only at read
  split at read
  · cases read
  · rename_i some
    cases text with
    | nil => exact absurd rfl some
    | cons c more =>
        have isDigit : c.isDigit = true := by
          apply Decidable.of_not_not
          intro other
          rw [List.takeWhile_cons_of_neg other] at some
          exact some rfl
        obtain ⟨digits, -, same⟩ := exists_digits more isDigit
        have left : ∃ written : Option Power, (c :: more).dropWhile Char.isDigit =
            written.elim [] Power.text ++ rest := by
          split at read
          · rename_i begins
            rw [begins]
            exact exists_powerText false read
          · rename_i begins
            rw [begins]
            exact exists_powerText true read
          · exact ⟨none, eq_of_floatOf read⟩
        obtain ⟨written, tail⟩ := left
        exact ⟨digits, written, by rw [same, tail, List.append_assoc]⟩

/-- What is read behind the digits before the point is a fraction, a power of ten, both or
neither. -/
theorem exists_tail {isNegative : Bool} {digits after rest : List Char} {value : Number}
    (read : afterDigits isNegative digits after = .ok (value, rest)) :
    ∃ (fraction : Option Digits) (written : Option Power),
      after = (fraction.elim [] fun digits => '.' :: digits.chars) ++
        written.elim [] Power.text ++ rest := by
  unfold afterDigits at read
  dsimp only at read
  split at read
  · obtain ⟨fraction, written, rfl⟩ := exists_fraction read
    exact ⟨some fraction, written, rfl⟩
  · obtain ⟨written, same⟩ := exists_powerText false read
    exact ⟨none, written, same⟩
  · obtain ⟨written, same⟩ := exists_powerText true read
    exact ⟨none, written, same⟩
  · split at read
    · cases read
      exact ⟨none, none, rfl⟩
    · exact ⟨none, none, eq_of_floatOf read⟩

/-- What is read as a number without its sign is written as a literal. -/
theorem exists_unsigned {isNegative : Bool} {text rest : List Char} {value : Number}
    (read : unsigned isNegative text = .ok (value, rest)) :
    ∃ literal : Literal, literal.isNegative = isNegative ∧
      text = literal.whole.chars ++ literal.tail ++ rest := by
  unfold unsigned at read
  cases text with
  | nil => cases read
  | cons c more =>
      dsimp only at read
      split at read
      · cases read
      · rename_i isDigit
        by_cases zero : c = '0'
        · subst zero
          simp only [↓reduceIte, decide_true, Bool.true_and] at read
          split at read
          · cases read
          · obtain ⟨fraction, written, same⟩ := exists_tail read
            refine ⟨⟨isNegative, ⟨['0'], by simp, by simp⟩, fun _ => rfl, fraction, written⟩,
              rfl, ?_⟩
            rw [same]
            rfl
        · simp only [zero, ↓reduceIte, decide_false, Bool.false_and, Bool.false_eq_true] at read
          obtain ⟨digits, taken, same⟩ := exists_digits more (by simpa using isDigit)
          obtain ⟨fraction, written, tail⟩ := exists_tail read
          have noLeadingZero : digits.chars.head? = some '0' → digits.chars = ['0'] := by
            intro first
            rw [← taken, List.takeWhile_cons_of_pos (by simpa using isDigit)] at first
            exact absurd (Option.some.inj first) zero
          refine ⟨⟨isNegative, digits, noLeadingZero, fraction, written⟩, rfl, ?_⟩
          rw [same, tail]
          simp only [Literal.tail, List.append_assoc]

/-- What is read as a number is written as one. -/
theorem exists_literal {text rest : List Char} {value : Number}
    (read : number text = .ok (value, rest)) :
    ∃ literal : Literal, text = literal.text ++ rest := by
  unfold number at read
  split at read
  · obtain ⟨literal, negative, same⟩ := exists_unsigned read
    exact ⟨literal, by rw [same, Literal.text, negative]; rfl⟩
  · obtain ⟨literal, positive, same⟩ := exists_unsigned read
    exact ⟨literal, by rw [same, Literal.text, positive]; rfl⟩

/-! ## Lists -/

/-- Two readers in a row succeed through a value of the first one. -/
theorem andThen_eq_ok {α β : Type} {result : Except Fault (α × List Char)}
    {next : α → List Char → Except Fault (β × List Char)} {last : β × List Char}
    (read : andThen result next = .ok last) :
    ∃ value rest, result = .ok (value, rest) ∧ next value rest = .ok last := by
  cases result with
  | error fault => cases read
  | ok first => exact ⟨first.1, first.2, rfl, read⟩

/-- What is read as a value is written as one. -/
def ReadsTrees {α : Type} (element : Reader α) : Prop :=
  ∀ text value rest, element text = .ok (value, rest) →
    ∃ (before : List Blank) (tree : Tree), text = blanks before ++ (tree.text ++ rest)

theorem separated_cons (entry : List Char) (entries : List (List Char)) :
    separated (entry :: entries) = ',' :: (entry ++ separated entries) :=
  rfl

section Elements

variable {α : Type} {element : Reader α} (sound : ReadsTrees element) {values read : List α}
  {text rest : List Char}

include sound in
/-- An element and the others behind it. -/
theorem exists_elementsFrom {fuel : Nat} (between : List Blank)
    (others : ∀ {read : List α} {text : List Char},
      elements element fuel false read text = .ok (values, rest) →
      ∃ (after : List Blank) (entries : List (Padded Tree)),
        text = blanks after ++ (separated (entries.map Padded.text) ++ ']' :: rest))
    (taken : elementsFrom element fuel read text = .ok (values, rest)) :
    ∃ (entry : Padded Tree) (entries : List (Padded Tree)), blanks between ++ text =
      entry.text ++ (separated (entries.map Padded.text) ++ ']' :: rest) := by
  obtain ⟨value, left, first, more⟩ := andThen_eq_ok taken
  obtain ⟨before, tree, rfl⟩ := sound _ _ _ first
  obtain ⟨after, entries, rfl⟩ := others more
  refine ⟨⟨between ++ before, tree, after⟩, entries, ?_⟩
  simp only [Padded.text, blanks_append, List.append_assoc]

include sound in
/-- What is read as the later elements of a list is written as elements with commas in front, up to
the closing bracket. -/
theorem exists_separated {fuel : Nat}
    (taken : elements element fuel false read text = .ok (values, rest)) :
    ∃ (after : List Blank) (entries : List (Padded Tree)),
      text = blanks after ++ (separated (entries.map Padded.text) ++ ']' :: rest) := by
  induction fuel generalizing read text with
  | zero => cases taken
  | succ fuel ih =>
      obtain ⟨after, same⟩ := exists_blanks text
      rw [elements] at taken
      split at taken
      · cases taken
      · rename_i closed
        cases taken
        exact ⟨after, [], by rw [same, closed]; rfl⟩
      · rename_i c left _ opened
        rw [if_neg Bool.false_ne_true] at taken
        split at taken
        · rename_i comma
          obtain ⟨between, blank⟩ := exists_blanks left
          have next : elementsFrom element fuel read (skipBlanks left) = .ok (values, rest) := by
            split at taken
            · cases taken
            · cases taken
            · exact taken
          obtain ⟨entry, entries, entered⟩ := exists_elementsFrom sound between ih next
          refine ⟨after, entry :: entries, ?_⟩
          rw [same, opened, comma, blank, entered, List.map_cons, separated_cons]
          simp only [List.append_assoc, List.cons_append]
        · cases taken

include sound in
/-- What is read as the elements of a list is written as such. -/
theorem exists_elements {fuel : Nat}
    (taken : elements element fuel true read text = .ok (values, rest)) :
    ∃ (inside : List Blank) (entries : List (Padded Tree)),
      text = blanks inside ++ [','].intercalate (entries.map Padded.text) ++ ']' :: rest := by
  cases fuel with
  | zero => cases taken
  | succ fuel =>
      obtain ⟨inside, same⟩ := exists_blanks text
      rw [elements] at taken
      split at taken
      · cases taken
      · rename_i closed
        cases taken
        exact ⟨inside, [], by rw [same, closed]; simp⟩
      · rename_i opened
        rw [if_pos rfl, ← opened] at taken
        obtain ⟨entry, entries, entered⟩ :=
          exists_elementsFrom sound [] (exists_separated sound) taken
        have begins : skipBlanks text = _ := entered
        refine ⟨inside, entry :: entries, ?_⟩
        rw [same, begins, List.map_cons, intercalate_cons]
        simp only [List.append_assoc]

end Elements

/-! ## Objects -/

/-- What is read behind a key is written as a colon and a value. -/
def ReadsAfterKeys {σ : Type} (member : σ → String → List Char → Except Fault (σ × List Char)) :
    Prop :=
  ∀ gathered key text last rest, member gathered key text = .ok (last, rest) →
    ∃ (after before : List Blank) (tree : Tree),
      text = blanks after ++ ':' :: (blanks before ++ (tree.text ++ rest))

section Members

variable {σ : Type} {member : σ → String → List Char → Except Fault (σ × List Char)}
  (sound : ReadsAfterKeys member) {gathered last : σ} {text rest : List Char}

include sound in
/-- A member whose opening quote has been read, and the others behind it. -/
theorem exists_membersFrom {fuel : Nat} (between : List Blank)
    (others : ∀ {gathered : σ} {text : List Char},
      members member fuel false gathered text = .ok (last, rest) →
      ∃ (after : List Blank) (entries : List (Member Tree)),
        text = blanks after ++ (separated (entries.map Member.text) ++ '\x7d' :: rest))
    (taken : membersFrom member fuel gathered text = .ok (last, rest)) :
    ∃ (entry : Member Tree) (entries : List (Member Tree)), blanks between ++ '"' :: text =
      entry.text ++ (separated (entries.map Member.text) ++ '\x7d' :: rest) := by
  obtain ⟨key, left, named, valued⟩ := andThen_eq_ok taken
  obtain ⟨pieces, rfl⟩ := exists_pieces named
  obtain ⟨next, behind, first, more⟩ := andThen_eq_ok valued
  obtain ⟨afterKey, before, tree, rfl⟩ := sound _ _ _ _ _ first
  obtain ⟨after, entries, rfl⟩ := others more
  refine ⟨⟨⟨between, pieces, afterKey⟩, ⟨before, tree, after⟩⟩, entries, ?_⟩
  simp only [Member.text, Member.afterKey, quoted, List.append_assoc, List.cons_append,
    List.nil_append]

include sound in
/-- What is read as the later members of an object is written as members with commas in front, up to
the closing brace. -/
theorem exists_separatedMembers {fuel : Nat}
    (taken : members member fuel false gathered text = .ok (last, rest)) :
    ∃ (after : List Blank) (entries : List (Member Tree)),
      text = blanks after ++ (separated (entries.map Member.text) ++ '\x7d' :: rest) := by
  induction fuel generalizing gathered text with
  | zero => cases taken
  | succ fuel ih =>
      obtain ⟨after, same⟩ := exists_blanks text
      rw [members] at taken
      split at taken
      · cases taken
      · rename_i closed
        cases taken
        exact ⟨after, [], by rw [same, closed]; rfl⟩
      · rename_i c left _ opened
        rw [if_neg Bool.false_ne_true] at taken
        split at taken
        · rename_i comma
          obtain ⟨between, blank⟩ := exists_blanks left
          split at taken
          · cases taken
          · rename_i quote
            obtain ⟨entry, entries, entered⟩ := exists_membersFrom sound between ih
              ((membersFrom_eq ..).trans taken)
            refine ⟨after, entry :: entries, ?_⟩
            rw [same, opened, comma, blank, quote, entered, List.map_cons, separated_cons]
            simp only [List.append_assoc, List.cons_append]
          · cases taken
          · cases taken
        · cases taken

include sound in
/-- What is read as the members of an object is written as such. -/
theorem exists_members {fuel : Nat}
    (taken : members member fuel true gathered text = .ok (last, rest)) :
    ∃ (inside : List Blank) (entries : List (Member Tree)),
      text = blanks inside ++ [','].intercalate (entries.map Member.text) ++ '\x7d' :: rest := by
  cases fuel with
  | zero => cases taken
  | succ fuel =>
      obtain ⟨inside, same⟩ := exists_blanks text
      rw [members] at taken
      split at taken
      · cases taken
      · rename_i closed
        cases taken
        exact ⟨inside, [], by rw [same, closed]; simp⟩
      · rename_i c left _ opened
        rw [if_pos rfl] at taken
        split at taken
        · rename_i quote
          obtain ⟨entry, entries, entered⟩ := exists_membersFrom sound []
            (exists_separatedMembers sound) ((membersFrom_eq ..).trans taken)
          have begins : '"' :: left = _ := entered
          refine ⟨inside, entry :: entries, ?_⟩
          rw [same, opened, quote, begins, List.map_cons, intercalate_cons]
          simp only [List.append_assoc]
        · cases taken

end Members

end HealthWatch.Json
