import HealthWatch.Mismatch

/-! # Faults of JSON documents

Readers work on the characters that are left of a document. A `Fault` therefore says where
it was found by counting the bytes that were not read; `Fault.locate` turns the count into
a line and a column once the whole document is at hand.
-/

namespace HealthWatch.Json

/-- Why a document is refused. -/
inductive Cause
  | endOfValue
  | endOfString
  | endOfList
  | endOfObject
  | expectedValue
  | expectedWord
  | expectedColon
  | expectedListSeparator
  | expectedObjectSeparator
  | keyNotString
  | trailingComma
  | trailingCharacters
  | invalidEscape
  | invalidNumber
  | numberOutOfRange
  | loneSurrogate
  | unfinishedSurrogate
  | controlCharacter
  | tooDeep
  /-- The document is well formed so far and does not hold the expected record. -/
  | mismatch (detail : Mismatch)
  deriving DecidableEq, Repr

/-- A cause in words. -/
def Cause.message : Cause → String
  | endOfValue => "EOF while parsing a value"
  | endOfString => "EOF while parsing a string"
  | endOfList => "EOF while parsing a list"
  | endOfObject => "EOF while parsing an object"
  | expectedValue => "expected value"
  | expectedWord => "expected ident"
  | expectedColon => "expected `:`"
  | expectedListSeparator => "expected `,` or `]`"
  | expectedObjectSeparator => "expected `,` or `\x7d`"
  | keyNotString => "key must be a string"
  | trailingComma => "trailing comma"
  | trailingCharacters => "trailing characters"
  | invalidEscape => "invalid escape"
  | invalidNumber => "invalid number"
  | numberOutOfRange => "number out of range"
  | loneSurrogate => "lone leading surrogate in hex escape"
  | unfinishedSurrogate => "unexpected end of hex escape"
  | controlCharacter => "control character (\\u0000-\\u001F) found while parsing a string"
  | tooDeep => "recursion limit exceeded"
  | mismatch detail => detail.message

/-- The number of bytes of a text. -/
def width (text : List Char) : Nat := text.foldl (fun sum c => sum + c.utf8Size) 0

/-- A refusal, with the number of bytes of the document that were not read. -/
structure Fault where
  cause : Cause
  unread : Nat
  deriving DecidableEq, Repr

/-- A refusal found before the characters left. -/
def Fault.here (cause : Cause) (text : List Char) : Fault := ⟨cause, width text⟩

/-- A refusal of the first byte left, if there is one. -/
def Fault.peek (cause : Cause) (text : List Char) : Fault := ⟨cause, width text - 1⟩

/-- Whether the fault is that of a well-formed document with the wrong content. -/
def Fault.isMismatch (fault : Fault) : Bool :=
  match fault.cause with
  | .mismatch _ => true
  | _ => false

/-- A refusal at a line, counted from one, and a column, the number of bytes of that line
before it. -/
structure Error where
  cause : Cause
  line : Nat
  column : Nat
  deriving DecidableEq, Repr

/-- An error in words. -/
def Error.message (error : Error) : String :=
  error.cause.message ++ " at line " ++ toString error.line ++ " column " ++ toString error.column

/-- The line and the column reached after `offset` more bytes, from the ones given. -/
def position (line column : Nat) : Nat → List Char → Nat × Nat
  | _, [] => (line, column)
  | offset, c :: rest =>
      if offset < c.utf8Size then (line, column + offset)
      else if c = '\n' then position (line + 1) 0 (offset - c.utf8Size) rest
      else position line (column + c.utf8Size) (offset - c.utf8Size) rest

/-- A fault placed in its document. -/
def Fault.locate (document : List Char) (fault : Fault) : Error :=
  let place := position 1 0 (width document - fault.unread) document
  ⟨fault.cause, place.1, place.2⟩

/-- A reader takes a value off the front of the characters left. -/
abbrev Reader (α : Type) := List Char → Except Fault (α × List Char)

end HealthWatch.Json
