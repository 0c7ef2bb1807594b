import HealthWatch.Toml.Value

/-! # Lexemes of TOML documents

Blanks, comments, keys, strings and numbers, each read off the front of a list of
characters. A reader gives nothing when the text does not begin with what it reads; why is
not told.
-/

namespace HealthWatch.Toml

/-- A reader takes a value off the front of the characters left, if it can. -/
abbrev Reader (α : Type) := List Char → Option (α × List Char)

/-- The characters that may stand between lexemes of a line. -/
def isBlank (c : Char) : Bool := c = ' ' || c = '\t'

/-- The characters left after the blanks at the front. -/
def skipBlanks (text : List Char) : List Char := text.dropWhile isBlank

/-- Reads a line end. -/
def lineEnd : List Char → Option (List Char)
  | '\n' :: rest => some rest
  | '\r' :: '\n' :: rest => some rest
  | _ => none

/-- Reads a line end or the end of the document. -/
def lineOrDocumentEnd : List Char → Option (List Char)
  | [] => some []
  | text => lineEnd text

/-- Whether a comment may hold the character. -/
def isCommentChar (c : Char) : Bool :=
  c = '\t' || (0x20 ≤ c.toNat && c.toNat ≠ 0x7F)

/-- The characters left after a comment, if there is one. -/
def skipComment : List Char → List Char
  | '#' :: rest => rest.dropWhile isCommentChar
  | text => text

/-- Reads what may stand at the end of a line, and its end. -/
def endOfLine (text : List Char) : Option (List Char) :=
  lineOrDocumentEnd (skipComment (skipBlanks text))

/-- The characters left after blanks, comments and line ends. `fuel` bounds the number of
lines. -/
def skipLines : Nat → List Char → Option (List Char)
  | 0, _ => none
  | fuel + 1, text =>
      match skipBlanks text with
      | '#' :: rest =>
          match lineEnd (skipComment ('#' :: rest)) with
          | some rest => skipLines fuel rest
          | none => none
      | text =>
          match lineEnd text with
          | some rest => skipLines fuel rest
          | none => some text

/-! ## Strings -/

/-- The value of a hexadecimal digit. -/
def hexValue? (c : Char) : Option Nat :=
  if '0' ≤ c ∧ c ≤ '9' then some (c.toNat - '0'.toNat)
  else if 'a' ≤ c ∧ c ≤ 'f' then some (c.toNat - 'a'.toNat + 10)
  else if 'A' ≤ c ∧ c ≤ 'F' then some (c.toNat - 'A'.toNat + 10)
  else none

/-- The character whose code point has exactly the given hexadecimal digits. -/
def codePoint? (digits : List Char) : Option Char :=
  match digits.mapM hexValue? with
  | none => none
  | some values =>
      let value := values.foldl (fun sum value => sum * 16 + value) 0
      if value < 0xD800 ∨ (0xDFFF < value ∧ value < 0x110000) then some (Char.ofNat value)
      else none

/-- Reads a code point of `count` hexadecimal digits. -/
def codePoint (count : Nat) (text : List Char) : Option (Char × List Char) :=
  if text.length < count then none
  else (codePoint? (text.take count)).map fun c => (c, text.drop count)

/-- Reads what follows a backslash. -/
def escape : Reader Char
  | 'b' :: rest => some ('\x08', rest)
  | 't' :: rest => some ('\t', rest)
  | 'n' :: rest => some ('\n', rest)
  | 'f' :: rest => some ('\x0c', rest)
  | 'r' :: rest => some ('\r', rest)
  | '"' :: rest => some ('"', rest)
  | '\\' :: rest => some ('\\', rest)
  | 'u' :: rest => codePoint 4 rest
  | 'U' :: rest => codePoint 8 rest
  | _ => none

/-- Whether a string may hold the character as it is, line ends and quotes apart. -/
def isStringChar (c : Char) : Bool := isCommentChar c

/-- Reads a string whose opening double quote has been read. -/
def basicBody : Nat → List Char → Reader String
  | 0, _, _ => none
  | _ + 1, _, [] => none
  | _ + 1, read, '"' :: rest => some (String.ofList read.reverse, rest)
  | fuel + 1, read, '\\' :: rest =>
      match escape rest with
      | some (c, rest) => basicBody fuel (c :: read) rest
      | none => none
  | fuel + 1, read, c :: rest =>
      if isStringChar c then basicBody fuel (c :: read) rest else none

/-- Reads a literal string whose opening apostrophe has been read. -/
def literalBody (read : List Char) : Reader String
  | [] => none
  | '\'' :: rest => some (String.ofList read.reverse, rest)
  | c :: rest => if isStringChar c then literalBody (c :: read) rest else none

/-- Splits a run of quotes at the front of a text of several lines: with three or more the
text ends, and at most two quotes before the closing three belong to it. -/
def quoteRun (quote : Char) (text : List Char) : Nat × Bool × List Char :=
  let count := (text.takeWhile (· = quote)).length
  if count < 3 then (count, false, text.drop count)
  else
    let inside := min 2 (count - 3)
    (inside, true, text.drop (inside + 3))

/-- The characters left after a line end at the front, if there is one. -/
def skipLineEnd (text : List Char) : List Char := (lineEnd text).getD text

/-- The characters left after blanks and line ends, without comments. -/
def skipSpace : Nat → List Char → List Char
  | 0, text => text
  | fuel + 1, text =>
      match lineEnd (skipBlanks text) with
      | some rest => skipSpace fuel rest
      | none => skipBlanks text

/-- Reads a string of several lines whose three opening double quotes have been read. A
backslash at the end of a line joins it to the next text. -/
def multilineBasicBody : Nat → List Char → Reader String
  | 0, _, _ => none
  | _ + 1, _, [] => none
  | fuel + 1, read, c :: rest =>
      if c = '"' then
        let (inside, closed, rest) := quoteRun '"' (c :: rest)
        let read := List.replicate inside '"' ++ read
        if closed then some (String.ofList read.reverse, rest)
        else multilineBasicBody fuel read rest
      else if c = '\\' then
        match lineEnd (skipBlanks rest) with
        | some after => multilineBasicBody fuel read (skipSpace after.length after)
        | none =>
            match escape rest with
            | some (c, rest) => multilineBasicBody fuel (c :: read) rest
            | none => none
      else
        match lineEnd (c :: rest) with
        | some rest => multilineBasicBody fuel ('\n' :: read) rest
        | none => if isStringChar c then multilineBasicBody fuel (c :: read) rest else none

/-- Reads a literal string of several lines whose three opening apostrophes have been read. -/
def multilineLiteralBody : Nat → List Char → Reader String
  | 0, _, _ => none
  | _ + 1, _, [] => none
  | fuel + 1, read, c :: rest =>
      if c = '\'' then
        let (inside, closed, rest) := quoteRun '\'' (c :: rest)
        let read := List.replicate inside '\'' ++ read
        if closed then some (String.ofList read.reverse, rest)
        else multilineLiteralBody fuel read rest
      else
        match lineEnd (c :: rest) with
        | some rest => multilineLiteralBody fuel ('\n' :: read) rest
        | none => if isStringChar c then multilineLiteralBody fuel (c :: read) rest else none

/-- Reads a string of any of the four forms. -/
def string : Reader String
  | '"' :: '"' :: '"' :: rest => multilineBasicBody (rest.length + 1) [] (skipLineEnd rest)
  | '"' :: rest => basicBody (rest.length + 1) [] rest
  | '\'' :: '\'' :: '\'' :: rest => multilineLiteralBody (rest.length + 1) [] (skipLineEnd rest)
  | '\'' :: rest => literalBody [] rest
  | _ => none

/-! ## Keys -/

/-- Whether a key may hold the character without quotes. -/
def isBareChar (c : Char) : Bool := c.isAlphanum || c = '_' || c = '-'

/-- Reads one part of a key. -/
def keyPart : Reader String
  | '"' :: rest => basicBody (rest.length + 1) [] rest
  | '\'' :: rest => literalBody [] rest
  | text =>
      let bare := text.takeWhile isBareChar
      if bare.isEmpty then none else some (String.ofList bare, text.dropWhile isBareChar)

/-- The greatest number of parts of a key. -/
def maxKeyParts : Nat := 79

/-- Reads a key: parts joined by dots, with blanks around each. The number of parts is at
most `fuel`. -/
def keyParts : Nat → Reader (List String)
  | 0, _ => none
  | fuel + 1, text =>
      match keyPart (skipBlanks text) with
      | none => none
      | some (part, rest) =>
          match skipBlanks rest with
          | '.' :: rest => (keyParts fuel rest).map fun (parts, rest) => (part :: parts, rest)
          | rest => some ([part], rest)

/-- Reads a key, as the parts before the last and the last. -/
def key (text : List Char) : Option ((List String × String) × List Char) :=
  match keyParts maxKeyParts text with
  | some (parts, rest) => parts.getLast?.map fun last => ((parts.dropLast, last), rest)
  | none => none

/-! ## Numbers -/

/-- Reads digits with single underscores between them, at least one. -/
def digits (isDigit : Char → Bool) : Nat → Reader (List Char)
  | 0, _ => none
  | fuel + 1, c :: rest =>
      if !isDigit c then none
      else
        match rest with
        | '_' :: next => (digits isDigit fuel next).map fun (more, rest) => (c :: more, rest)
        | next :: _ =>
            if isDigit next then
              (digits isDigit fuel rest).map fun (more, rest) => (c :: more, rest)
            else some ([c], rest)
        | [] => some ([c], rest)
  | _ + 1, [] => none

/-- The value of digits in a base. -/
def valueOf (base : Nat) (digits : List Char) : Nat :=
  digits.foldl (fun sum c => sum * base + (hexValue? c).getD 0) 0

/-- Reads the digits of a decimal integer, which begins with a zero only if it is zero. -/
def decimalDigits (text : List Char) : Option (List Char × List Char) :=
  match text with
  | '0' :: rest => some (['0'], rest)
  | _ => digits Char.isDigit (text.length + 1) text

/-- Reads a sign: whether the number is negative. -/
def sign : List Char → Bool × List Char
  | '-' :: rest => (true, rest)
  | '+' :: rest => (false, rest)
  | text => (false, text)

/-- The value of a signed 64-bit integer. -/
def integerOf (isNegative : Bool) (magnitude : Nat) : Option Value :=
  let value : Int := if isNegative then -magnitude else magnitude
  if -0x8000000000000000 ≤ value ∧ value < 0x8000000000000000 then some (.integer value) else none

/-- Reads the digits after a base prefix. -/
def based (base : Nat) (isDigit : Char → Bool) (text : List Char) : Option (Value × List Char) :=
  match digits isDigit (text.length + 1) text with
  | none => none
  | some (digits, rest) => (integerOf false (valueOf base digits)).map (·, rest)

/-- Whether the character is an octal digit. -/
def isOctal (c : Char) : Bool := '0' ≤ c && c ≤ '7'

/-- Whether the character is a binary digit. -/
def isBinary (c : Char) : Bool := c = '0' || c = '1'

/-- Reads the power of ten of a float. -/
def powerPart (text : List Char) : Option (Int × List Char) :=
  let (down, rest) := sign text
  (digits Char.isDigit (rest.length + 1) rest).map fun (digits, rest) =>
    let power : Int := valueOf 10 digits
    (if down then -power else power, rest)

/-- The float with a significand and a power of ten. A number too large is infinite, which
only a negative one may be. -/
def floatOf (isNegative : Bool) (significand : Nat) (power : Int) : Option Value :=
  match Binary64.ofDecimal significand power with
  | some magnitude => some (.float (.finite isNegative magnitude))
  | none => if isNegative then some (.float (.infinite true)) else none

/-- Reads a number that is no date: its sign and integer digits come first, and a fraction or a
power of ten makes it a float. -/
def decimalNumber (text : List Char) : Option (Value × List Char) :=
  let (isNegative, unsigned) := sign text
  match decimalDigits unsigned with
  | none => none
  | some (whole, rest) =>
      match rest with
      | '.' :: after =>
          match digits Char.isDigit (after.length + 1) after with
          | none => none
          | some (fraction, rest) =>
              let significand := valueOf 10 (whole ++ fraction)
              match rest with
              | 'e' :: rest | 'E' :: rest =>
                  match powerPart rest with
                  | none => none
                  | some (power, rest) =>
                      (floatOf isNegative significand (power - fraction.length)).map (·, rest)
              | _ => (floatOf isNegative significand (-fraction.length)).map (·, rest)
      | 'e' :: rest | 'E' :: rest =>
          match powerPart rest with
          | none => none
          | some (power, rest) => (floatOf isNegative (valueOf 10 whole) power).map (·, rest)
      | _ => (integerOf isNegative (valueOf 10 whole)).map (·, rest)

/-- Reads a number that is no date. -/
def number (text : List Char) : Option (Value × List Char) :=
  match text with
  | '0' :: 'x' :: rest => based 16 (fun c => (hexValue? c).isSome) rest
  | '0' :: 'o' :: rest => based 8 isOctal rest
  | '0' :: 'b' :: rest => based 2 isBinary rest
  | _ =>
      let (isNegative, unsigned) := sign text
      match unsigned with
      | 'i' :: 'n' :: 'f' :: rest => some (.float (.infinite isNegative), rest)
      | 'n' :: 'a' :: 'n' :: rest => some (.float .notANumber, rest)
      | _ => decimalNumber text

/-! ## Dates and times -/

/-- Reads exactly `count` decimal digits. -/
def fixedDigits (count : Nat) (text : List Char) : Option (Nat × List Char) :=
  let digits := text.take count
  if digits.length = count ∧ digits.all Char.isDigit then
    some (valueOf 10 digits, text.drop count)
  else none

/-- Reads one given character. -/
def char (expected : Char) : List Char → Option (List Char)
  | c :: rest => if c = expected then some rest else none
  | [] => none

/-- Reads two digits whose value lies between two bounds. -/
def twoDigits (low high : Nat) (text : List Char) : Option (Nat × List Char) :=
  match fixedDigits 2 text with
  | some (value, rest) => if low ≤ value ∧ value ≤ high then some (value, rest) else none
  | none => none

/-- The number of days of a month. -/
def daysOf (year month : Nat) : Nat :=
  if month = 2 then
    if year % 4 = 0 ∧ (year % 100 ≠ 0 ∨ year % 400 = 0) then 29 else 28
  else if month = 4 ∨ month = 6 ∨ month = 9 ∨ month = 11 then 30
  else 31

/-- Reads a date. -/
def date (text : List Char) : Option (List Char) := do
  let (year, rest) ← fixedDigits 4 text
  let rest ← char '-' rest
  let (month, rest) ← twoDigits 1 12 rest
  let rest ← char '-' rest
  let (_, rest) ← twoDigits 1 (daysOf year month) rest
  some rest

/-- Reads a time of day, with a fraction of a second or without. -/
def time (text : List Char) : Option (List Char) := do
  let (_, rest) ← twoDigits 0 23 text
  let rest ← char ':' rest
  let (_, rest) ← twoDigits 0 59 rest
  let rest ← char ':' rest
  let (_, rest) ← twoDigits 0 60 rest
  match rest with
  | '.' :: fraction =>
      if fraction.head?.any Char.isDigit then some (fraction.dropWhile Char.isDigit) else none
  | _ => some rest

/-- The characters left after an offset from universal time, if there is one. -/
def skipOffset (text : List Char) : Option (List Char) :=
  match text with
  | 'Z' :: rest | 'z' :: rest => some rest
  | '+' :: rest | '-' :: rest => do
      let (_, rest) ← twoDigits 0 23 rest
      let rest ← char ':' rest
      let (_, rest) ← twoDigits 0 59 rest
      some rest
  | _ => some text

/-- Reads a date, a time, or both. -/
def datetime (text : List Char) : Option (Value × List Char) :=
  match date text with
  | some rest =>
      let dateAlone := some (Value.datetime, rest)
      match rest with
      | c :: after =>
          if c = 'T' ∨ c = 't' ∨ c = ' ' then
            match time after with
            | some rest => (skipOffset rest).map (Value.datetime, ·)
            | none => dateAlone
          else dateAlone
      | [] => dateAlone
  | none => (time text).map (Value.datetime, ·)

end HealthWatch.Toml
