import HealthWatch.Json.Lexeme

/-! # Lists and objects

What stands between the brackets of a list and the braces of an object, for any reader of
the elements and of the members. Commas stand between entries and nowhere else.
-/

namespace HealthWatch.Json

/-- Reads the elements of a list and its closing bracket, the opening one having been read.
`read` holds the elements so far, last first, and `fuel` bounds their number. -/
def elements {α : Type} (element : Reader α) : Nat → Bool → List α → Reader (List α)
  | 0, _, _, _ => .error (.here .endOfList [])
  | fuel + 1, first, read, text =>
      let one (text : List Char) : Except Fault (List α × List Char) :=
        match element text with
        | .ok (value, rest) => elements element fuel false (value :: read) rest
        | .error fault => .error fault
      match skipBlanks text with
      | [] => .error (.here .endOfList [])
      | ']' :: rest => .ok (read.reverse, rest)
      | c :: rest =>
          if first then one (c :: rest)
          else if c = ',' then
            match skipBlanks rest with
            | [] => .error (.here .endOfValue [])
            | ']' :: rest => .error (.peek .trailingComma (']' :: rest))
            | next => one next
          else .error (.peek .expectedListSeparator (c :: rest))

/-- Reads the members of an object and its closing brace, the opening one having been read.
`member` takes what has been gathered so far, a key, and the text after the key. -/
def members {σ : Type} (member : σ → String → List Char → Except Fault (σ × List Char)) :
    Nat → Bool → σ → Reader σ
  | 0, _, _, _ => .error (.here .endOfObject [])
  | fuel + 1, first, gathered, text =>
      let one (text : List Char) : Except Fault (σ × List Char) :=
        match stringBody [] text with
        | .ok (key, rest) =>
            match member gathered key rest with
            | .ok (gathered, rest) => members member fuel false gathered rest
            | .error fault => .error fault
        | .error fault => .error fault
      match skipBlanks text with
      | [] => .error (.here .endOfObject [])
      | '\x7d' :: rest => .ok (gathered, rest)
      | c :: rest =>
          if first then
            if c = '"' then one rest else .error (.peek .keyNotString (c :: rest))
          else if c = ',' then
            match skipBlanks rest with
            | [] => .error (.here .endOfValue [])
            | '"' :: rest => one rest
            | '\x7d' :: rest => .error (.peek .trailingComma ('\x7d' :: rest))
            | other => .error (.peek .keyNotString other)
          else .error (.peek .expectedObjectSeparator (c :: rest))

/-- What is left once an object that is given up has been closed: the blanks, and the brace
if it comes next. -/
def closeObject (text : List Char) : List Char :=
  match skipBlanks text with
  | '\x7d' :: rest => rest
  | other => other

/-- What is left once a list that is given up has been closed: the blanks, and the bracket if
it comes next, or a comma and the blanks after it. -/
def closeList (text : List Char) : List Char :=
  match skipBlanks text with
  | ']' :: rest => rest
  | ',' :: rest => skipBlanks rest
  | other => other

/-- Reads the closing bracket of a list from which nothing more is wanted. -/
def endList (text : List Char) : Except Fault (List Char) :=
  match skipBlanks text with
  | [] => .error (.here .endOfList [])
  | ']' :: rest => .ok rest
  | ',' :: rest =>
      match skipBlanks rest with
      | ']' :: rest => .error (.peek .trailingComma (']' :: rest))
      | other => .error (.peek .trailingCharacters other)
  | other => .error (.peek .trailingCharacters other)

/-- Reads a whole document: one value, with blanks around it. -/
def document {α : Type} (value : Reader α) (text : String) : Except Error α :=
  let chars := text.toList
  match value chars with
  | .error fault => .error (fault.locate chars)
  | .ok (result, rest) =>
      match skipBlanks rest with
      | [] => .ok result
      | other => .error ((Fault.peek .trailingCharacters other).locate chars)

end HealthWatch.Json
