import HealthWatch.Json.Record

/-! # Written JSON

The grammar of JSON as data. A `Tree` records every choice that whoever writes a document has:
where blanks stand, how each character of a string is spelled, which digits a number has, in
which order members come. `Tree.text` is what is then written, and `textOf?`, `Tree.string?` and
`Tree.integer?` say what it stands for.
-/

namespace HealthWatch.Json.Written

/-- A character that may stand between lexemes. -/
inductive Blank
  | space
  | lineFeed
  | tab
  | carriageReturn
  deriving DecidableEq, Repr

def Blank.char : Blank → Char
  | space => ' '
  | lineFeed => '\n'
  | tab => '\t'
  | carriageReturn => '\r'

/-- Any number of blanks. -/
def blanks (between : List Blank) : List Char := between.map Blank.char

/-! ## Strings -/

/-- A character that a string can hold as it is. -/
structure PlainChar where
  char : Char
  notControl : ' ' ≤ char
  notQuote : char ≠ '"'
  notBackslash : char ≠ '\\'
  deriving DecidableEq, Repr

/-- The characters that have a short escape of their own. -/
inductive ShortEscape
  | quote
  | backslash
  | slash
  | backspace
  | formFeed
  | lineFeed
  | carriageReturn
  | tab
  deriving DecidableEq, Repr

namespace ShortEscape

/-- What follows the backslash. -/
def letter : ShortEscape → Char
  | quote => '"'
  | backslash => '\\'
  | slash => '/'
  | backspace => 'b'
  | formFeed => 'f'
  | lineFeed => 'n'
  | carriageReturn => 'r'
  | tab => 't'

def char : ShortEscape → Char
  | quote => '"'
  | backslash => '\\'
  | slash => '/'
  | backspace => '\x08'
  | formFeed => '\x0c'
  | lineFeed => '\n'
  | carriageReturn => '\r'
  | tab => '\t'

end ShortEscape

/-- A hexadecimal digit, whose letters may be of either case. -/
structure HexDigit where
  value : Fin 16
  isUpper : Bool
  deriving DecidableEq, Repr

def HexDigit.char (digit : HexDigit) : Char :=
  if digit.isUpper then (Nat.digitChar digit.value).toUpper else Nat.digitChar digit.value

/-- A 16-bit unit by its four hexadecimal digits. -/
structure CodeUnit where
  first : HexDigit
  second : HexDigit
  third : HexDigit
  fourth : HexDigit
  deriving DecidableEq, Repr

namespace CodeUnit

def chars (unit : CodeUnit) : List Char :=
  [unit.first.char, unit.second.char, unit.third.char, unit.fourth.char]

def value (unit : CodeUnit) : Nat :=
  ((unit.first.value * 16 + unit.second.value) * 16 + unit.third.value) * 16 + unit.fourth.value

end CodeUnit

/-- One part of a string: a character as it is, or an escape sequence. -/
inductive Piece
  | plain (letter : PlainChar)
  | short (escape : ShortEscape)
  | unit (code : CodeUnit)
  deriving DecidableEq, Repr

def Piece.text : Piece → List Char
  | plain letter => [letter.char]
  | short escape => ['\\', escape.letter]
  | unit code => '\\' :: 'u' :: code.chars

/-- The characters that the pieces of a string stand for. Two units that are the halves of one
character stand for it; a half that is alone stands for nothing. -/
def decode : List Piece → Option (List Char)
  | [] => some []
  | .plain letter :: rest => (decode rest).map (letter.char :: ·)
  | .short escape :: rest => (decode rest).map (escape.char :: ·)
  | .unit code :: rest =>
      if isLowSurrogate code.value then none
      else if isHighSurrogate code.value then
        match rest with
        | .unit low :: rest =>
            if isLowSurrogate low.value then
              let point := (code.value - 0xD800) * 0x400 + (low.value - 0xDC00) + 0x10000
              (decode rest).map (Char.ofNat point :: ·)
            else none
        | _ => none
      else (decode rest).map (Char.ofNat code.value :: ·)

/-- The text that the pieces of a string stand for. -/
def textOf? (pieces : List Piece) : Option String := (decode pieces).map String.ofList

/-- A string with its quotes. -/
def quoted (pieces : List Piece) : List Char := '"' :: pieces.flatMap Piece.text ++ ['"']

/-! ## Numbers -/

/-- Decimal digits, at least one. -/
structure Digits where
  chars : List Char
  nonempty : chars ≠ []
  decimal : ∀ c ∈ chars, c.isDigit = true
  deriving DecidableEq, Repr

def Digits.value (digits : Digits) : Nat := Nat.ofDigitChars 10 digits.chars 0

/-- There is always a first digit. -/
theorem Digits.exists_chars (digits : Digits) :
    ∃ c more, digits.chars = c :: more ∧ c.isDigit = true := by
  obtain ⟨c, more, same⟩ := List.exists_cons_of_ne_nil digits.nonempty
  exact ⟨c, more, same, digits.decimal c (same ▸ List.mem_cons_self)⟩

/-- A power of ten after a number. -/
structure Power where
  isUpper : Bool
  /-- Whether a written sign is a minus. -/
  sign : Option Bool
  digits : Digits
  deriving DecidableEq, Repr

/-- What follows the letter. -/
def Power.shift (power : Power) : List Char :=
  (power.sign.map fun minus => if minus then '-' else '+').toList ++ power.digits.chars

def Power.text (power : Power) : List Char :=
  (if power.isUpper then 'E' else 'e') :: power.shift

/-- A number as it is written. -/
structure Literal where
  isNegative : Bool
  whole : Digits
  noLeadingZero : whole.chars.head? = some '0' → whole.chars = ['0']
  fraction : Option Digits
  power : Option Power
  deriving DecidableEq, Repr

namespace Literal

/-- What follows the digits before the point. -/
def tail (literal : Literal) : List Char :=
  (literal.fraction.elim [] fun digits => '.' :: digits.chars) ++
    literal.power.elim [] Power.text

def text (literal : Literal) : List Char :=
  (if literal.isNegative then ['-'] else []) ++ literal.whole.chars ++ literal.tail

/-- The whole number that a literal stands for, if it has neither fraction nor power of ten and
is no negative zero. -/
def integer? (literal : Literal) : Option Int :=
  if literal.fraction.isSome ∨ literal.power.isSome then none
  else if !literal.isNegative then some literal.whole.value
  else if literal.whole.value = 0 then none
  else some (-literal.whole.value)

end Literal

/-! ## Values -/

/-- Something with blanks around it. -/
structure Padded (α : Type) where
  before : List Blank
  value : α
  after : List Blank
  deriving Repr

/-- A member of an object, whose value is an `α`. -/
structure Member (α : Type) where
  key : Padded (List Piece)
  value : Padded α
  deriving Repr

/-- A value as it is written. `inside` stands between the brackets before the first entry. -/
inductive Tree
  | null
  | boolean (value : Bool)
  | number (literal : Literal)
  | string (pieces : List Piece)
  | list (inside : List Blank) (elements : List (Padded Tree))
  | object (inside : List Blank) (members : List (Member Tree))

/-- An element is smaller than the list that it stands in. -/
theorem Padded.sizeOf_value_lt {α : Type} [SizeOf α] {entries : List (Padded α)} {entry : Padded α}
    (member : entry ∈ entries) : sizeOf entry.value < sizeOf entries := by
  have smaller := List.sizeOf_lt_of_mem member
  obtain ⟨before, value, after⟩ := entry
  simp only [Padded.mk.sizeOf_spec] at smaller
  dsimp only
  omega

/-- The value of a member is smaller than the object that it stands in. -/
theorem Member.sizeOf_value_lt {α : Type} [SizeOf α] {entries : List (Member α)}
    {entry : Member α} (member : entry ∈ entries) : sizeOf entry.value.value < sizeOf entries := by
  have smaller := List.sizeOf_lt_of_mem member
  obtain ⟨key, before, value, after⟩ := entry
  simp only [Member.mk.sizeOf_spec, Padded.mk.sizeOf_spec] at smaller
  dsimp only
  omega

def Tree.text : Tree → List Char
  | null => ['n', 'u', 'l', 'l']
  | boolean true => ['t', 'r', 'u', 'e']
  | boolean false => ['f', 'a', 'l', 's', 'e']
  | number literal => literal.text
  | string pieces => quoted pieces
  | list inside elements =>
      '[' :: blanks inside ++
        [','].intercalate (elements.map fun element =>
          blanks element.before ++ element.value.text ++ blanks element.after) ++ [']']
  | object inside members =>
      '\x7b' :: blanks inside ++
        [','].intercalate (members.map fun member =>
          blanks member.key.before ++ quoted member.key.value ++ blanks member.key.after ++
            ':' :: blanks member.value.before ++ member.value.value.text ++
            blanks member.value.after) ++ ['\x7d']
  termination_by tree => sizeOf tree
  decreasing_by
    · have := Padded.sizeOf_value_lt ‹_›
      simp only [list.sizeOf_spec]
      omega
    · have := Member.sizeOf_value_lt ‹_›
      simp only [object.sizeOf_spec]
      omega

/-- What a member of an object is called. -/
def Member.name? {α : Type} (member : Member α) : Option String := textOf? member.key.value

namespace Tree

/-- The text that a value stands for, if it is a string and stands for one. -/
def string? : Tree → Option String
  | string pieces => textOf? pieces
  | _ => none

/-- The texts that a value stands for, if it is a list of such strings. -/
def strings? : Tree → Option (List String)
  | list _ elements => elements.mapM fun element => element.value.string?
  | _ => none

/-- The whole number that a value stands for, if it is one. -/
def integer? : Tree → Option Int
  | number literal => literal.integer?
  | _ => none

end Tree

/-- A document that is one object. -/
structure Document where
  before : List Blank
  inside : List Blank
  members : List (Member Tree)
  after : List Blank

def Document.text (document : Document) : String :=
  String.ofList
    (blanks document.before ++ (Tree.object document.inside document.members).text ++
      blanks document.after)

end HealthWatch.Json.Written
