import HealthWatch.Text.Quoted

/-! # Data of the wrong form

A document can be well formed and still not hold the record that was asked for. A
`Mismatch` names what stood where, whatever the format of the document.
-/

namespace HealthWatch

/-- The kind of value that stood where another was expected. -/
inductive Found
  | null
  | boolean (value : Bool)
  | integer (value : Int)
  /-- A number with a fraction or a power of ten, by its text. -/
  | float (text : String)
  | text (value : String)
  | sequence
  | map
  deriving DecidableEq, Repr

/-- A found value in words. -/
def Found.words : Found → String
  | null => "null"
  | boolean value => "boolean `" ++ (if value then "true" else "false") ++ "`"
  | integer value => "integer `" ++ toString value ++ "`"
  | float digits => "floating point `" ++ digits ++ "`"
  | text value => "string " ++ Text.quote value
  | sequence => "sequence"
  | map => "map"

/-- How a document fails to hold the expected record. -/
inductive Mismatch
  /-- A value of another type. -/
  | wrongType (found : Found) (expected : String)
  /-- A value of the right type outside the expected range. -/
  | wrongValue (found : Found) (expected : String)
  /-- A list with too few elements. -/
  | wrongLength (length : Nat) (expected : String)
  /-- A member that the record does not have. -/
  | unknownField (name : String) (known : List String)
  /-- A field that no member gives. -/
  | missingField (name : String)
  /-- A field that two members give. -/
  | duplicateField (name : String)
  deriving DecidableEq, Repr

namespace Mismatch

/-- The names a record knows, in words. -/
def knownWords : List String → String
  | [] => "there are no fields"
  | [only] => "expected `" ++ only ++ "`"
  | [first, second] => "expected `" ++ first ++ "` or `" ++ second ++ "`"
  | names => "expected one of " ++ ", ".intercalate (names.map fun name => "`" ++ name ++ "`")

/-- A mismatch in words. -/
def message : Mismatch → String
  | wrongType found expected => "invalid type: " ++ found.words ++ ", expected " ++ expected
  | wrongValue found expected => "invalid value: " ++ found.words ++ ", expected " ++ expected
  | wrongLength length expected =>
      "invalid length " ++ toString length ++ ", expected " ++ expected
  | unknownField name known => "unknown field `" ++ name ++ "`, " ++ knownWords known
  | missingField name => "missing field `" ++ name ++ "`"
  | duplicateField name => "duplicate field `" ++ name ++ "`"

end Mismatch

end HealthWatch
