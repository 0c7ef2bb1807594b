/-! # Writing JSON

`encodeText` writes a text as a JSON string. The double quote, the backslash and the
characters below the space are escaped and every other character is written as it is, so
that what is written holds no line end.
-/

namespace HealthWatch.Json

/-- A lower-case hexadecimal digit. -/
def hexDigit (value : Nat) : Char := Nat.digitChar value

/-- One character inside a JSON string. -/
def encodeChar (c : Char) : List Char :=
  if c = '"' then ['\\', '"']
  else if c = '\\' then ['\\', '\\']
  else if c = '\x08' then ['\\', 'b']
  else if c = '\t' then ['\\', 't']
  else if c = '\n' then ['\\', 'n']
  else if c = '\x0c' then ['\\', 'f']
  else if c = '\r' then ['\\', 'r']
  else if c < ' ' then
    ['\\', 'u', '0', '0', hexDigit (c.toNat / 16), hexDigit (c.toNat % 16)]
  else [c]

/-- The characters of a JSON string, quotes included. -/
def encodeChars (text : List Char) : List Char := '"' :: text.flatMap encodeChar ++ ['"']

/-- A text as a JSON string. -/
def encodeText (text : String) : String := String.ofList (encodeChars text.toList)

end HealthWatch.Json
