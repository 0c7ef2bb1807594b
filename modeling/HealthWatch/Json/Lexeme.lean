import HealthWatch.Binary64.Decimal
import HealthWatch.Json.Fault

/-! # Lexemes of JSON documents

Blanks, words, strings and numbers, each read off the front of a list of characters.
Strings are decoded to text: `escape` reads one escape sequence and joins the two halves of
a character written as a pair of surrogates. Numbers without fraction and power of ten that
fit 64 bits are kept exact; all others become binary64 numbers, and so does `-0`.
-/

namespace HealthWatch.Json

/-- The four characters that may stand between lexemes. -/
def isBlank (c : Char) : Bool := c = ' ' || c = '\n' || c = '\t' || c = '\r'

/-- The characters left after the blanks at the front. -/
def skipBlanks (text : List Char) : List Char := text.dropWhile isBlank

/-- Reads exactly the given characters. -/
def word : List Char → List Char → Except Fault (List Char)
  | [], text => .ok text
  | _ :: _, [] => .error (.here .endOfValue [])
  | expected :: more, c :: rest =>
      if c = expected then word more rest else .error (.peek .expectedWord (c :: rest))

/-- Reads the colon between a key and its value. -/
def colon (text : List Char) : Except Fault (List Char) :=
  match skipBlanks text with
  | ':' :: rest => .ok rest
  | [] => .error (.here .endOfObject [])
  | other => .error (.peek .expectedColon other)

/-! ## Strings -/

/-- The value of a hexadecimal digit. -/
def hexValue? (c : Char) : Option Nat :=
  if '0' ≤ c ∧ c ≤ '9' then some (c.toNat - '0'.toNat)
  else if 'a' ≤ c ∧ c ≤ 'f' then some (c.toNat - 'a'.toNat + 10)
  else if 'A' ≤ c ∧ c ≤ 'F' then some (c.toNat - 'A'.toNat + 10)
  else none

/-- The refusal of four bytes that are not hexadecimal digits, or are not there. -/
def badHex (text : List Char) : Fault :=
  if 4 ≤ width text then ⟨.invalidEscape, width text - 4⟩ else .here .endOfString []

/-- Reads four hexadecimal digits. -/
def hexEscape : Reader Nat
  | text@(a :: b :: c :: d :: rest) =>
      match hexValue? a, hexValue? b, hexValue? c, hexValue? d with
      | some a, some b, some c, some d => .ok (((a * 16 + b) * 16 + c) * 16 + d, rest)
      | _, _, _, _ => .error (badHex text)
  | text => .error (badHex text)

/-- Whether a 16-bit unit is the first half of a character. -/
def isHighSurrogate (unit : Nat) : Bool := 0xD800 ≤ unit && unit ≤ 0xDBFF

/-- Whether a 16-bit unit is the second half of a character. -/
def isLowSurrogate (unit : Nat) : Bool := 0xDC00 ≤ unit && unit ≤ 0xDFFF

/-- Reads the second half of a character whose first half is `high`. -/
def lowHalf (high : Nat) : Reader Char
  | '\\' :: 'u' :: rest => do
      let (low, rest) ← hexEscape rest
      if isLowSurrogate low then
        .ok (Char.ofNat ((high - 0xD800) * 0x400 + (low - 0xDC00) + 0x10000), rest)
      else .error (.here .loneSurrogate rest)
  | [] | ['\\'] => .error (.here .endOfString [])
  | '\\' :: rest => .error (.peek .unfinishedSurrogate rest)
  | text => .error (.peek .unfinishedSurrogate text)

/-- Reads what follows a backslash. -/
def escape : Reader Char
  | [] => .error (.here .endOfString [])
  | 'u' :: rest => do
      let (unit, rest) ← hexEscape rest
      if isLowSurrogate unit then .error (.here .loneSurrogate rest)
      else if isHighSurrogate unit then lowHalf unit rest
      else .ok (Char.ofNat unit, rest)
  | '"' :: rest => .ok ('"', rest)
  | '\\' :: rest => .ok ('\\', rest)
  | '/' :: rest => .ok ('/', rest)
  | 'b' :: rest => .ok ('\x08', rest)
  | 'f' :: rest => .ok ('\x0c', rest)
  | 'n' :: rest => .ok ('\n', rest)
  | 'r' :: rest => .ok ('\r', rest)
  | 't' :: rest => .ok ('\t', rest)
  | text => .error (.peek .invalidEscape text)

/-- Four hexadecimal digits are taken away when they are read. -/
theorem length_of_hexEscape {text rest : List Char} {unit : Nat}
    (read : hexEscape text = .ok (unit, rest)) : rest.length < text.length := by
  unfold hexEscape at read
  split at read
  · split at read
    · cases read
      simp only [List.length_cons]
      omega
    · cases read
  · cases read

/-- The second half of a surrogate pair is taken away when it is read. -/
theorem length_of_lowHalf {text rest : List Char} {high : Nat} {c : Char}
    (read : lowHalf high text = .ok (c, rest)) : rest.length < text.length := by
  unfold lowHalf at read
  split at read
  · rename_i after
    cases low : hexEscape after with
    | error fault => simp [low, bind, Except.bind] at read
    | ok pair =>
        have shorter := length_of_hexEscape low
        simp only [low, bind, Except.bind] at read
        split at read
        · simp only [Except.ok.injEq, Prod.mk.injEq] at read
          obtain ⟨_, rfl⟩ := read
          simp only [List.length_cons]
          omega
        · cases read
  all_goals cases read

/-- Reading an escape takes characters away, so reading a text comes to an end. -/
theorem length_of_escape {text rest : List Char} {c : Char}
    (read : escape text = .ok (c, rest)) : rest.length < text.length := by
  unfold escape at read
  split at read
  case h_2 after =>
    cases unit : hexEscape after with
    | error fault => simp [unit, bind, Except.bind] at read
    | ok pair =>
        have shorter := length_of_hexEscape unit
        simp only [unit, bind, Except.bind] at read
        split at read
        · cases read
        · split at read
          · have := length_of_lowHalf read
            simp only [List.length_cons]
            omega
          · simp only [Except.ok.injEq, Prod.mk.injEq] at read
            obtain ⟨_, rfl⟩ := read
            simp only [List.length_cons]
            omega
  all_goals cases read
  all_goals simp

/-- Reads a string whose opening quote has been read. `read` holds the characters decoded so
far, last first. -/
def stringBody (read : List Char) : Reader String
  | [] => .error (.here .endOfString [])
  | '"' :: rest => .ok (String.ofList read.reverse, rest)
  | '\\' :: rest =>
      match _step : escape rest with
      | .ok (c, rest) => stringBody (c :: read) rest
      | .error fault => .error fault
  | c :: rest =>
      if c < ' ' then .error (.peek .controlCharacter (c :: rest))
      else stringBody (c :: read) rest
  termination_by text => text.length
  decreasing_by
    · have := length_of_escape _step
      simp only [List.length_cons]
      omega
    · simp

/-! ## Numbers -/

/-- A number of a document. -/
inductive Number
  /-- A natural number of at most 64 bits. -/
  | natural (value : Nat)
  /-- The negative of a positive number of at most 63 bits, or of the next one. -/
  | negative (value : Nat)
  /-- A binary64 number with its sign. -/
  | float (isNegative : Bool) (magnitude : Binary64)
  deriving DecidableEq, Repr

/-- Floats are written around a decimal point unless their power of ten is below -5 or above
15. -/
def floatStyle : DecimalStyle := ⟨fun power => -5 ≤ power && power ≤ 15⟩

/-- What a number is found to be when something else was expected. -/
def Number.found : Number → Found
  | natural value => .integer value
  | negative value => .integer (-value)
  | float isNegative magnitude => .float (magnitude.text floatStyle isNegative)

/-- The largest significand that is kept exact. -/
def maxSignificand : Nat := 0xFFFFFFFFFFFFFFFF

/-- The largest power of ten that is kept exact. -/
def maxPower : Nat := 0x7FFFFFFF

/-- The value of a decimal digit. -/
def digitValue (c : Char) : Nat := c.toNat - '0'.toNat

/-- Appends digits to a number as long as it stays at most `bound`; the digits left over
come second. -/
def appendDigits (bound value : Nat) : List Char → Nat × List Char
  | [] => (value, [])
  | c :: rest =>
      let next := value * 10 + digitValue c
      if next ≤ bound then appendDigits bound next rest else (value, c :: rest)

/-- `significand * 10 ^ power` as binary64 arithmetic gives it: the significand is rounded,
then multiplied or divided by powers of ten up to 308, each step rounding again. `fuel`
bounds the divisions; after three of them the number is zero. -/
def scaleTen : Nat → Binary64 → Int → Option Binary64
  | fuel + 1, number, power =>
      if power.natAbs ≤ 308 then
        (Binary64.powTen power.natAbs).bind fun scale =>
          if 0 ≤ power then number.mul scale else number.div scale
      else if number.mantissa = 0 then some number
      else if 0 ≤ power then none
      else
        (Binary64.powTen 308).bind fun scale =>
          (number.div scale).bind fun smaller => scaleTen fuel smaller (power + 308)
  | 0, number, _ => some number

/-- The float with a significand and a power of ten, if it is finite. -/
def floatOf (isNegative : Bool) (significand : Nat) (power : Int) (rest : List Char) :
    Except Fault (Number × List Char) :=
  match (Binary64.ofNat significand).bind fun number => scaleTen 4 number power with
  | some magnitude => .ok (.float isNegative magnitude, rest)
  | none => .error (.here .numberOutOfRange rest)

/-- Reads the digits of a power of ten, which a minus sign before them takes `down`. A power too
large to be kept exact makes the number zero, or too large when its significand is not zero. -/
def powerDigits (isNegative : Bool) (significand : Nat) (power : Int) (down : Bool) :
    Reader Number := fun digits =>
  match digits with
  | [] => .error (.here .endOfValue [])
  | c :: _ =>
      if !c.isDigit then .error (.peek .invalidNumber digits)
      else
        let rest := digits.dropWhile Char.isDigit
        match appendDigits maxPower 0 (digits.takeWhile Char.isDigit) with
        | (shift, []) =>
            floatOf isNegative significand (if down then power - shift else power + shift) rest
        | (_, _ :: beyond) =>
            if significand ≠ 0 ∧ !down then .error ⟨.numberOutOfRange, width beyond + width rest⟩
            else .ok (.float isNegative ⟨0, Binary64.minExponent⟩, rest)

/-- Reads the power of ten that follows the letter `e`. -/
def powerPart (isNegative : Bool) (significand : Nat) (power : Int) : Reader Number
  | '+' :: rest => powerDigits isNegative significand power false rest
  | '-' :: rest => powerDigits isNegative significand power true rest
  | text => powerDigits isNegative significand power false text

/-- Reads what follows the digits before a decimal point: `significand * 10 ^ power` is what
has been read. -/
def fractionPart (isNegative : Bool) (significand : Nat) (power : Int) : Reader Number :=
  fun text =>
  let digits := text.takeWhile Char.isDigit
  let rest := text.dropWhile Char.isDigit
  if digits.isEmpty then
    .error (.peek (if text.isEmpty then .endOfValue else .invalidNumber) text)
  else
    let (significand, ignored) := appendDigits maxSignificand significand digits
    let power := power - (digits.length - ignored.length : Nat)
    match rest with
    | 'e' :: rest | 'E' :: rest => powerPart isNegative significand power rest
    | _ => floatOf isNegative significand power rest

/-- A number written with digits alone. -/
def wholeNumber (isNegative : Bool) (value : Nat) : Number :=
  if !isNegative then .natural value
  else if 0 < value ∧ value ≤ 0x8000000000000000 then .negative value
  else .float true ((Binary64.ofNat value).getD ⟨0, Binary64.minExponent⟩)

/-- Reads what follows the digits that a number begins with. -/
def afterDigits (isNegative : Bool) (digits : List Char) : Reader Number := fun after =>
  let (significand, dropped) := appendDigits maxSignificand 0 digits
  match after with
  | '.' :: rest => fractionPart isNegative significand dropped.length rest
  | 'e' :: rest | 'E' :: rest => powerPart isNegative significand dropped.length rest
  | _ =>
      if dropped.isEmpty then .ok (wholeNumber isNegative significand, after)
      else floatOf isNegative significand dropped.length after

/-- Reads the digits of a number and all that follows them. -/
def unsigned (isNegative : Bool) : Reader Number := fun text =>
  match text with
  | [] => .error (.here .endOfValue [])
  | c :: rest =>
      if !c.isDigit then .error (.peek .invalidNumber text)
      else
        let digits := if c = '0' then ['0'] else text.takeWhile Char.isDigit
        let after := if c = '0' then rest else text.dropWhile Char.isDigit
        if c = '0' && after.head?.any Char.isDigit then .error (.peek .invalidNumber after)
        else afterDigits isNegative digits after

/-- Reads a number. -/
def number : Reader Number
  | '-' :: rest => unsigned true rest
  | text => unsigned false text

/-- Whether a number can begin with the character. -/
def startsNumber (c : Char) : Bool := c = '-' || c.isDigit

/-! ## Values of the wrong type -/

/-- The refusal of a value, or of what should have been one, where `expected` was wanted. The
value is read first, so that a malformed one is refused for that. Lists and objects are
refused for what they are. -/
def refuse (expected : String) (text : List Char) : Fault :=
  let named (found : Found) (rest : List Char) : Fault :=
    .here (.mismatch (.wrongType found expected)) rest
  let wordOr (letters : List Char) (found : Found) (rest : List Char) : Fault :=
    match word letters rest with
    | .ok rest => named found rest
    | .error fault => fault
  match text with
  | [] => .here .endOfValue []
  | 'n' :: rest => wordOr ['u', 'l', 'l'] .null rest
  | 't' :: rest => wordOr ['r', 'u', 'e'] (.boolean true) rest
  | 'f' :: rest => wordOr ['a', 'l', 's', 'e'] (.boolean false) rest
  | '"' :: rest =>
      match stringBody [] rest with
      | .ok (value, rest) => named (.text value) rest
      | .error fault => fault
  | '[' :: _ => named .sequence text
  | '\x7b' :: _ => named .map text
  | c :: _ =>
      if startsNumber c then
        match number text with
        | .ok (value, rest) => named value.found rest
        | .error fault => fault
      else .peek .expectedValue text

end HealthWatch.Json
