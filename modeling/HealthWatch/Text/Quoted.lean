import HealthWatch.Text.Plain

/-! # Quoted text

`Quoted.encode` writes a text between double quotes so that it stays on one line and reads
back: quotes and backslashes are escaped, control characters have short names or their code
point in braces, and so does every character that the table `plain` does not show as it is.
Nothing here depends on which characters the table holds.
-/

namespace HealthWatch.Text

/-- The code point of a character in lower-case hexadecimal. -/
def hexOf (c : Char) : List Char := Nat.toDigits 16 c.toNat

namespace Quoted

/-- One character inside quotes. -/
def encodeChar (plain : Char → Bool) (c : Char) : List Char :=
  if c = '\x00' then ['\\', '0']
  else if c = '\t' then ['\\', 't']
  else if c = '\r' then ['\\', 'r']
  else if c = '\n' then ['\\', 'n']
  else if c = '"' then ['\\', '"']
  else if c = '\\' then ['\\', '\\']
  else if plain c then [c]
  else ['\\', 'u', '\x7b'] ++ hexOf c ++ ['\x7d']

/-- A text between double quotes. -/
def encode (plain : Char → Bool) (text : List Char) : List Char :=
  '"' :: text.flatMap (encodeChar plain) ++ ['"']

/-- Several texts in brackets, each between double quotes, with commas between them. -/
def encodeAll (plain : Char → Bool) (texts : List (List Char)) : List Char :=
  '[' :: List.intercalate [',', ' '] (texts.map (encode plain)) ++ [']']

end Quoted

/-- A text in quotes, with the characters that `isPlain` shows as they are. -/
def quote (text : String) : String :=
  String.ofList (Quoted.encode isPlain text.toList)

/-- Several texts in quotes, in brackets. -/
def quoteAll (texts : List String) : String :=
  String.ofList (Quoted.encodeAll isPlain (texts.map String.toList))

end HealthWatch.Text
