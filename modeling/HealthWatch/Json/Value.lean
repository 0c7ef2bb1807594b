import HealthWatch.Json.Sequence

/-! # JSON values

A document read for its own sake becomes a `Value`. Brackets and braces may be nested 127
deep. Of two members with one key the last counts.
-/

namespace HealthWatch.Json

/-- The value of a document. -/
inductive Value
  | null
  | boolean (value : Bool)
  | number (value : Number)
  | string (value : String)
  | list (elements : List Value)
  | object (members : List (String × Value))

namespace Value

/-- The deepest nesting of brackets and braces. -/
def maxDepth : Nat := 127

/-- Reads a value whose brackets and braces are nested at most `depth` deep. -/
def read : Nat → Reader Value
  | depth, text =>
      let named (letters : List Char) (value : Value) (rest : List Char) :
          Except Fault (Value × List Char) :=
        match word letters rest with
        | .ok rest => .ok (value, rest)
        | .error fault => .error fault
      match skipBlanks text with
      | [] => .error (.here .endOfValue [])
      | 'n' :: rest => named ['u', 'l', 'l'] .null rest
      | 't' :: rest => named ['r', 'u', 'e'] (.boolean true) rest
      | 'f' :: rest => named ['a', 'l', 's', 'e'] (.boolean false) rest
      | '"' :: rest =>
          match stringBody [] rest with
          | .ok (value, rest) => .ok (.string value, rest)
          | .error fault => .error fault
      | '[' :: rest =>
          match depth with
          | 0 => .error (.peek .tooDeep ('[' :: rest))
          | depth + 1 =>
              match elements (read depth) (rest.length + 1) true [] rest with
              | .ok (values, rest) => .ok (.list values, rest)
              | .error fault => .error fault
      | '\x7b' :: rest =>
          match depth with
          | 0 => .error (.peek .tooDeep ('\x7b' :: rest))
          | depth + 1 =>
              let member (gathered : List (String × Value)) (key : String) (text : List Char) :
                  Except Fault (List (String × Value) × List Char) :=
                match colon text with
                | .ok rest =>
                    match read depth rest with
                    | .ok (value, rest) => .ok ((key, value) :: gathered, rest)
                    | .error fault => .error fault
                | .error fault => .error fault
              match members member (rest.length + 1) true [] rest with
              | .ok (gathered, rest) => .ok (.object gathered.reverse, rest)
              | .error fault => .error fault
      | c :: rest =>
          if startsNumber c then
            match Json.number (c :: rest) with
            | .ok (value, rest) => .ok (.number value, rest)
            | .error fault => .error fault
          else .error (.peek .expectedValue (c :: rest))

/-- The value of a whole document. -/
def ofText (text : String) : Except Error Value := document (read maxDepth) text

/-- The member of an object under a key: the last one with that key. -/
def last? (members : List (String × Value)) (key : String) : Option Value :=
  members.foldl (fun found member => if member.1 = key then some member.2 else found) none

end Value

end HealthWatch.Json
