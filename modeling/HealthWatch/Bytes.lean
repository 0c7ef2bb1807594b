/-! # Byte strings

Arguments, paths and file contents are byte strings; text is the part of them that is
well-formed UTF-8. `Bytes.text?` reads a byte string as text, and `Bytes.display` shows
any byte string, with one replacement character for each ill-formed run.
-/

namespace HealthWatch

/-- A string of bytes that need not be text. -/
abbrev Bytes := List UInt8

/-- The UTF-8 bytes of a text. -/
def Bytes.ofText (text : String) : Bytes := text.toUTF8.toList

namespace Bytes

/-- The text whose UTF-8 form the bytes are, if there is one. -/
def text? (bytes : Bytes) : Option String := String.fromUTF8? ⟨bytes.toArray⟩

/-- What a byte announces when it begins a character: how many bytes follow, and the
bounds of the first of them. -/
def leadOf (byte : UInt8) : Option (Nat × UInt8 × UInt8) :=
  if byte < 0x80 then some (0, 0, 0)
  else if byte < 0xC2 then none
  else if byte < 0xE0 then some (1, 0x80, 0xBF)
  else if byte = 0xE0 then some (2, 0xA0, 0xBF)
  else if byte = 0xED then some (2, 0x80, 0x9F)
  else if byte < 0xF0 then some (2, 0x80, 0xBF)
  else if byte = 0xF0 then some (3, 0x90, 0xBF)
  else if byte < 0xF4 then some (3, 0x80, 0xBF)
  else if byte = 0xF4 then some (3, 0x80, 0x8F)
  else none

/-- How many of the bytes belong to the character begun by `lead`: the bytes taken stop
at the first one that cannot continue it. -/
def continuation : Nat → UInt8 → UInt8 → Bytes → Nat
  | count + 1, low, high, byte :: rest =>
      if low ≤ byte ∧ byte ≤ high then continuation count 0x80 0xBF rest + 1 else 0
  | _, _, _, _ => 0

/-- The bytes split into maximal runs, each the bytes of one character or one ill-formed
run that is as long as it can be. `fuel` bounds the number of runs. -/
def runs : Nat → Bytes → List Bytes
  | fuel + 1, byte :: rest =>
      let taken := match leadOf byte with
        | some (count, low, high) => continuation count low high rest
        | none => 0
      (byte :: rest.take taken) :: runs fuel (rest.drop taken)
  | _, _ => []

/-- The bytes as text, each ill-formed run shown as the replacement character. -/
def display (bytes : Bytes) : String :=
  String.join ((runs bytes.length bytes).map fun run => (text? run).getD "\uFFFD")

end Bytes

end HealthWatch
