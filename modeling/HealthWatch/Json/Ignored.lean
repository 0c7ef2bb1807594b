import HealthWatch.Json.Sequence

/-! # Values that are skipped

A member that a record does not want is passed over without being decoded: its strings need
no paired surrogates, its numbers may be of any size, and it may be nested to any depth.
-/

namespace HealthWatch.Json.Ignored

/-- Passes over what follows a backslash. -/
def escape : List Char → Except Fault (List Char)
  | [] => .error (.here .endOfString [])
  | c :: rest =>
      if c = 'u' then
        match hexEscape rest with
        | .ok (_, rest) => .ok rest
        | .error fault => .error fault
      else if c = '"' ∨ c = '\\' ∨ c = '/' ∨ c = 'b' ∨ c = 'f' ∨ c = 'n' ∨ c = 'r' ∨ c = 't' then
        .ok rest
      else .error (.peek .invalidEscape (c :: rest))

/-- Skipping an escape takes characters away, so skipping a text comes to an end. -/
theorem length_of_escape {text rest : List Char} (read : escape text = .ok rest) :
    rest.length < text.length := by
  unfold escape at read
  split at read
  · cases read
  · split at read
    · split at read
      · rename_i unit
        have := Json.length_of_hexEscape unit
        cases read
        simp only [List.length_cons]
        omega
      · cases read
    · split at read
      · cases read
        simp
      · cases read

/-- Passes over a string whose opening quote has been read. -/
def string : List Char → Except Fault (List Char)
  | [] => .error (.here .endOfString [])
  | '"' :: rest => .ok rest
  | '\\' :: rest =>
      match _step : escape rest with
      | .ok rest => string rest
      | .error fault => .error fault
  | c :: rest => if c < ' ' then .error (.here .controlCharacter (c :: rest)) else string rest
  termination_by text => text.length
  decreasing_by
    · have := length_of_escape _step
      simp only [List.length_cons]
      omega
    · simp

/-- Passes over the power of ten that follows the letter `e`. -/
def powerPart (text : List Char) : Except Fault (List Char) :=
  let digits := match text with
    | '+' :: rest | '-' :: rest => rest
    | _ => text
  if digits.head?.any Char.isDigit then .ok (digits.dropWhile Char.isDigit)
  else .error (.peek .invalidNumber digits)

/-- Passes over what follows a decimal point. -/
def fractionPart (text : List Char) : Except Fault (List Char) :=
  if text.head?.any Char.isDigit then
    match text.dropWhile Char.isDigit with
    | 'e' :: rest | 'E' :: rest => powerPart rest
    | rest => .ok rest
  else .error (.peek .invalidNumber text)

/-- Passes over what follows the digits that a number begins with. -/
def afterDigits : List Char → Except Fault (List Char)
  | '.' :: rest => fractionPart rest
  | 'e' :: rest | 'E' :: rest => powerPart rest
  | rest => .ok rest

/-- Passes over a number without its sign. -/
def unsigned (text : List Char) : Except Fault (List Char) :=
  match text with
  | [] => .error (.here .invalidNumber [])
  | c :: rest =>
      if !c.isDigit then .error (.peek .invalidNumber text)
      else
        let after := if c = '0' then rest else text.dropWhile Char.isDigit
        if c = '0' && after.head?.any Char.isDigit then .error (.peek .invalidNumber after)
        else afterDigits after

/-- Passes over the elements of a list, the opening bracket having been read. -/
def elements (element : List Char → Except Fault (List Char)) :
    Nat → Bool → List Char → Except Fault (List Char)
  | 0, _, _ => .error (.here .endOfList [])
  | fuel + 1, first, text =>
      let one (text : List Char) : Except Fault (List Char) :=
        match element text with
        | .ok rest => elements element fuel false rest
        | .error fault => .error fault
      match skipBlanks text with
      | [] => .error (.here .endOfList [])
      | ']' :: rest => .ok rest
      | c :: rest =>
          if first then one (c :: rest)
          else if c = ',' then one rest
          else .error (.peek .expectedListSeparator (c :: rest))

/-- Passes over the members of an object, the opening brace having been read. -/
def members (element : List Char → Except Fault (List Char)) :
    Nat → Bool → List Char → Except Fault (List Char)
  | 0, _, _ => .error (.here .endOfObject [])
  | fuel + 1, first, text =>
      let one (text : List Char) : Except Fault (List Char) :=
        match skipBlanks text with
        | [] => .error (.here .endOfObject [])
        | '"' :: rest =>
            match string rest with
            | .ok rest =>
                match colon rest with
                | .ok rest =>
                    match element rest with
                    | .ok rest => members element fuel false rest
                    | .error fault => .error fault
                | .error fault => .error fault
            | .error fault => .error fault
        | other => .error (.peek .keyNotString other)
      match skipBlanks text with
      | [] => .error (.here .endOfObject [])
      | '\x7d' :: rest => .ok rest
      | c :: rest =>
          if first then one (c :: rest)
          else if c = ',' then one rest
          else .error (.peek .expectedObjectSeparator (c :: rest))

/-- Passes over a value. `fuel` bounds its depth. -/
def value : Nat → List Char → Except Fault (List Char)
  | 0, _ => .error (.here .endOfValue [])
  | fuel + 1, text =>
      match skipBlanks text with
      | [] => .error (.here .endOfValue [])
      | 'n' :: rest => word ['u', 'l', 'l'] rest
      | 't' :: rest => word ['r', 'u', 'e'] rest
      | 'f' :: rest => word ['a', 'l', 's', 'e'] rest
      | '"' :: rest => string rest
      | '-' :: rest => unsigned rest
      | '[' :: rest => elements (value fuel) (rest.length + 1) true rest
      | '\x7b' :: rest => members (value fuel) (rest.length + 1) true rest
      | c :: rest =>
          if c.isDigit then unsigned (c :: rest) else .error (.peek .expectedValue (c :: rest))

end HealthWatch.Json.Ignored

namespace HealthWatch.Json

/-- Passes over the value that comes next. -/
def skipValue (text : List Char) : Except Fault (List Char) :=
  Ignored.value (text.length + 1) text

end HealthWatch.Json
