import HealthWatch.Binary64.Basic

/-! # Decimal text of binary64 numbers

`Binary64.shortest` finds the fewest decimal digits that read back as the number, and of
those the nearest. A `DecimalStyle` says for which exponents the digits are written around
a decimal point and for which with an explicit power of ten.
-/

namespace HealthWatch

/-- A decimal number: `digits` is its significand without trailing zeros, and `exponent` the
power of ten of its first digit. -/
structure Decimal where
  digits : List Char
  exponent : Int
  deriving DecidableEq, Repr

namespace Binary64

/-- The power of ten of the first digit of a positive quotient. -/
def logTen (numerator denominator : Nat) : Int :=
  if denominator ≤ numerator then
    ((Nat.toDigits 10 (numerator / denominator)).length : Int) - 1
  else
    -(Nat.toDigits 10 ((denominator + numerator - 1) / numerator - 1)).length

/-- Whether a quotient reads back as the number: it lies between the points half way to the
neighbours of the number, which belong to it when its mantissa is even. -/
def readsBack (number : Binary64) (numerator denominator : Nat) : Bool :=
  let quarter := scale 1 4 (-number.exponent)
  let below : Nat :=
    if number.mantissa = 0x10000000000000 ∧ minExponent < number.exponent then 4 * number.mantissa - 1
    else 4 * number.mantissa - 2
  let above : Nat := 4 * number.mantissa + 2
  let low := below * quarter.1 * denominator
  let high := above * quarter.1 * denominator
  let point := numerator * quarter.2
  if number.mantissa % 2 = 0 then low ≤ point && point ≤ high
  else low < point && point < high

/-- `digits * 10 ^ power` as a quotient. -/
def decimalRatio (digits : Nat) (power : Int) : Nat × Nat :=
  if 0 ≤ power then (digits * Nat.pow 10 power.natAbs, 1) else (digits, Nat.pow 10 power.natAbs)

/-- The nearest decimal with `count` digits that reads back as the number, if any does. -/
def withDigits (number : Binary64) (count : Nat) : Option (Nat × Int) :=
  let (numerator, denominator) := number.toRatio
  let power := logTen numerator denominator - count + 1
  let step := decimalRatio 1 power
  let below := numerator * step.2 / (denominator * step.1)
  let lowOk := let ratio := decimalRatio below power; number.readsBack ratio.1 ratio.2
  let highOk := let ratio := decimalRatio (below + 1) power; number.readsBack ratio.1 ratio.2
  let nearer := roundDiv (numerator * step.2) (denominator * step.1)
  if lowOk && highOk then some (nearer, power)
  else if lowOk then some (below, power)
  else if highOk then some (below + 1, power)
  else none

/-- The fewest digits that read back as the number, and of those the nearest. -/
def shortest (number : Binary64) : Decimal :=
  if number.mantissa = 0 then ⟨['0'], 0⟩
  else
    match (List.range 17).findSome? fun count => number.withDigits (count + 1) with
    | some (value, power) =>
        let digits := Nat.toDigits 10 value
        ⟨(digits.reverse.dropWhile (· = '0')).reverse, power + digits.length - 1⟩
    | none => ⟨['0'], 0⟩

end Binary64

/-- How the digits of a number are laid out. -/
structure DecimalStyle where
  /-- Whether a number whose first digit has this power of ten is written around a point. -/
  positional : Int → Bool

namespace Decimal

/-- The digits around a decimal point, at least one on each side. -/
def positionalText (number : Decimal) : List Char :=
  if number.exponent < 0 then
    ['0', '.'] ++ List.replicate (number.exponent.natAbs - 1) '0' ++ number.digits
  else
    let whole := number.exponent.natAbs + 1
    let padded := number.digits ++ List.replicate (whole - number.digits.length) '0'
    let fraction := padded.drop whole
    padded.take whole ++ '.' :: (if fraction.isEmpty then ['0'] else fraction)

/-- The digits with a point after the first and a signed power of ten. -/
def scientificText (number : Decimal) : List Char :=
  let significand := match number.digits with
    | first :: second :: rest => first :: '.' :: second :: rest
    | digits => digits
  let sign := if number.exponent < 0 then '-' else '+'
  significand ++ 'e' :: sign :: Nat.toDigits 10 number.exponent.natAbs

/-- The text of a decimal in a style. -/
def text (style : DecimalStyle) (number : Decimal) : List Char :=
  if style.positional number.exponent then number.positionalText else number.scientificText

end Decimal

/-- The text of a number with a sign in a style. -/
def Binary64.text (style : DecimalStyle) (negative : Bool) (number : Binary64) : String :=
  String.ofList ((if negative then ['-'] else []) ++ number.shortest.text style)

end HealthWatch
