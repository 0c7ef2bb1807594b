import HealthWatch.Json.Ignored
import HealthWatch.Json.Sequence

/-! # Records in JSON documents

A `Record` names the fields that a document has to give and what each may hold. It is read
from an object, whose members come in any order, or from a list of the values in the order
of the fields. The members are read one after the other, so the first fault of a document is
the one that is told. A record that is `closed` refuses members it does not know; any other
passes over them.
-/

namespace HealthWatch.Json

/-- What a field holds. -/
inductive Kind
  /-- A text. -/
  | text
  /-- A list of texts. -/
  | texts
  /-- A whole number between two bounds, with the name of that range of numbers. -/
  | integer (name : String) (low high : Int)
  deriving DecidableEq, Repr

/-- A signed number of 32 bits. -/
abbrev Kind.int32 : Kind := .integer "i32" (-0x80000000) 0x7FFFFFFF

/-- A signed number of 64 bits. -/
abbrev Kind.int64 : Kind := .integer "i64" (-0x8000000000000000) 0x7FFFFFFFFFFFFFFF

/-- The type of a field's value. -/
abbrev Kind.Data : Kind → Type
  | .text => String
  | .texts => List String
  | .integer _ _ _ => Int

/-- A whole number of a document, if it is one. -/
def Number.integer? : Number → Option Int
  | .natural value => some value
  | .negative value => some (-value)
  | .float _ _ => none

/-- Reads a text. -/
def readText (text : List Char) : Except Fault (String × List Char) :=
  match skipBlanks text with
  | '"' :: rest => stringBody [] rest
  | other => .error (refuse "a string" other)

/-- Reads a list of texts. -/
def readTexts (text : List Char) : Except Fault (List String × List Char) :=
  match skipBlanks text with
  | '[' :: rest => elements readText (rest.length + 1) true [] rest
  | other => .error (refuse "a sequence" other)

/-- Reads a whole number between two bounds. -/
def readInteger (name : String) (low high : Int) (text : List Char) :
    Except Fault (Int × List Char) :=
  match skipBlanks text with
  | [] => .error (.here .endOfValue [])
  | c :: rest =>
      if startsNumber c then
        match number (c :: rest) with
        | .error fault => .error fault
        | .ok (value, rest) =>
            match value.integer? with
            | some whole =>
                if low ≤ whole ∧ whole ≤ high then .ok (whole, rest)
                else .error (.here (.mismatch (.wrongValue (.integer whole) name)) rest)
            | none => .error (.here (.mismatch (.wrongType value.found name)) rest)
      else .error (refuse name (c :: rest))

/-- Reads the value of a field. -/
def Kind.read : (kind : Kind) → Reader kind.Data
  | .text => readText
  | .texts => readTexts
  | .integer name low high => readInteger name low high

/-- The fields of a record, in order. -/
abbrev Fields := List (String × Kind)

/-- A value for every field. -/
@[reducible] def Fields.Filled : Fields → Type
  | [] => Unit
  | field :: rest => field.2.Data × Fields.Filled rest

/-- A value for some of the fields. -/
@[reducible] def Fields.Partial : Fields → Type
  | [] => Unit
  | field :: rest => Option field.2.Data × Fields.Partial rest

/-- A form of record. -/
structure Record where
  /-- What a document that holds no such record fails to be. -/
  name : String
  fields : Fields
  /-- Whether members that are not fields are refused. -/
  closed : Bool

namespace Fields

/-- The names of the fields. -/
def names (fields : Fields) : List String := fields.map Prod.fst

/-- No field has a value yet. -/
def unfilled : (fields : Fields) → fields.Partial
  | [] => ()
  | _ :: rest => (none, unfilled rest)

/-- All fields with their values, or the name of the first that has none. -/
def complete : (fields : Fields) → fields.Partial → Except String fields.Filled
  | [], _ => .ok ()
  | field :: rest, (value, values) =>
      match value with
      | none => .error field.1
      | some value =>
          match complete rest values with
          | .ok values => .ok (value, values)
          | .error name => .error name

/-- Reads the member `key`, whose value follows in the text. `other` deals with a key that is
no field. -/
def readMember (other : Except Fault (List Char)) :
    (fields : Fields) → fields.Partial → String → List Char →
      Except Fault (fields.Partial × List Char)
  | [], _, _, _ =>
      match other with
      | .ok rest => .ok ((), rest)
      | .error fault => .error fault
  | field :: rest, (value, values), key, text =>
      if key = field.1 then
        match value with
        | some _ => .error (.here (.mismatch (.duplicateField key)) (closeObject text))
        | none =>
            match colon text with
            | .error fault => .error fault
            | .ok text =>
                match field.2.read text with
                | .ok (value, text) => .ok ((some value, values), text)
                | .error fault => .error fault
      else
        match readMember other rest values key text with
        | .ok (values, text) => .ok ((value, values), text)
        | .error fault => .error fault

/-- Reads the values of the fields in their order, from a list whose opening bracket has been
read. `index` counts those already read, and `short` is the fault of a list that ends
early. -/
def readList (short : Nat → Mismatch) :
    (fields : Fields) → Nat → List Char → Except Fault (fields.Filled × List Char)
  | [], _, text =>
      match endList text with
      | .ok rest => .ok ((), rest)
      | .error fault => .error fault
  | field :: more, index, text =>
      let one (text : List Char) : Except Fault (Filled (field :: more) × List Char) :=
        match field.2.read text with
        | .error fault => .error fault
        | .ok (value, rest) =>
            match readList short more (index + 1) rest with
            | .ok (values, rest) => .ok ((value, values), rest)
            | .error fault => .error fault
      match skipBlanks text with
      | [] => .error (.here .endOfList [])
      | ']' :: rest => .error (.here (.mismatch (short index)) (closeList (']' :: rest)))
      | c :: rest =>
          if index = 0 then one (c :: rest)
          else if c = ',' then
            match skipBlanks rest with
            | [] => .error (.here .endOfValue [])
            | ']' :: rest => .error (.peek .trailingComma (']' :: rest))
            | next => one next
          else .error (.peek .expectedListSeparator (c :: rest))

end Fields

namespace Record

/-- What becomes of a key that is no field: it is refused, or its value is passed over. -/
def otherMember (record : Record) (key : String) (text : List Char) : Except Fault (List Char) :=
  if record.closed then
    .error (.here (.mismatch (.unknownField key record.fields.names)) (closeObject text))
  else
    match colon text with
    | .ok rest => skipValue rest
    | .error fault => .error fault

/-- Reads a record. -/
def read (record : Record) (text : List Char) : Except Fault (record.fields.Filled × List Char) :=
  match skipBlanks text with
  | '[' :: rest =>
      let short (length : Nat) : Mismatch :=
        .wrongLength length
          (record.name ++ " with " ++ toString record.fields.length ++ " elements")
      record.fields.readList short 0 rest
  | '\x7b' :: rest =>
      let member (values : record.fields.Partial) (key : String) (text : List Char) :
          Except Fault (record.fields.Partial × List Char) :=
        record.fields.readMember (record.otherMember key text) values key text
      match members member (rest.length + 1) true record.fields.unfilled rest with
      | .error fault => .error fault
      | .ok (values, rest) =>
          match record.fields.complete values with
          | .ok filled => .ok (filled, rest)
          | .error name => .error (.here (.mismatch (.missingField name)) rest)
  | other => .error (refuse record.name other)

/-- The record that a whole document holds. -/
def ofText (record : Record) (text : String) : Except Error record.fields.Filled :=
  document record.read text

end Record

end HealthWatch.Json
