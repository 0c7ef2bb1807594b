/-! # Binary64 magnitudes

A `Binary64` is the magnitude of a finite IEEE 754 double: a mantissa below 2^53 times a
power of two. `Binary64.ofRatio` rounds a quotient of naturals to the nearest one, a tie
going to the even mantissa, and products and quotients are rounded once, as the hardware
does. All arithmetic is on naturals, so statements about rounding need no floating point.
-/

namespace HealthWatch

/-- The magnitude `mantissa * 2 ^ exponent`. -/
structure Binary64 where
  mantissa : Nat
  exponent : Int
  deriving DecidableEq, Repr

namespace Binary64

/-- The smallest exponent, that of the subnormal numbers. -/
def minExponent : Int := -1074

/-- The largest exponent of a finite number with a full mantissa. -/
def maxExponent : Int := 971

/-- The quotient rounded to the nearest natural, a tie going to the even one. -/
def roundDiv (numerator denominator : Nat) : Nat :=
  let quotient := numerator / denominator
  let rest := 2 * (numerator % denominator)
  if rest < denominator then quotient
  else if denominator < rest then quotient + 1
  else if quotient % 2 = 0 then quotient else quotient + 1

/-- `numerator * 2 ^ (-shift)` over `denominator`, as a numerator and a denominator. -/
def scale (numerator denominator : Nat) (shift : Int) : Nat × Nat :=
  if shift ≤ 0 then (numerator * Nat.pow 2 shift.natAbs, denominator)
  else (numerator, denominator * Nat.pow 2 shift.natAbs)

/-- The integer part of the binary logarithm of a positive quotient. -/
def logRatio (numerator denominator : Nat) : Int :=
  let guess : Int := numerator.log2 - denominator.log2
  let scaled := scale numerator denominator guess
  if scaled.2 ≤ scaled.1 then guess else guess - 1

/-- The number nearest to a quotient, or nothing when it is too large to be finite. -/
def ofRatio (numerator denominator : Nat) : Option Binary64 :=
  if numerator = 0 then some ⟨0, minExponent⟩
  else
    let exponent := max (logRatio numerator denominator - 52) minExponent
    let scaled := scale numerator denominator exponent
    let mantissa := roundDiv scaled.1 scaled.2
    let rounded : Binary64 :=
      if mantissa < 0x20000000000000 then ⟨mantissa, exponent⟩ else ⟨mantissa / 2, exponent + 1⟩
    if rounded.exponent ≤ maxExponent then some rounded else none

/-- A number as a quotient of naturals. -/
def toRatio (number : Binary64) : Nat × Nat :=
  scale number.mantissa 1 (-number.exponent)

/-- The number nearest to a natural. -/
def ofNat (value : Nat) : Option Binary64 := ofRatio value 1

/-- The rounded product of two numbers. -/
def mul (left right : Binary64) : Option Binary64 :=
  ofRatio (left.toRatio.1 * right.toRatio.1) (left.toRatio.2 * right.toRatio.2)

/-- The rounded quotient of two numbers. -/
def div (left right : Binary64) : Option Binary64 :=
  ofRatio (left.toRatio.1 * right.toRatio.2) (left.toRatio.2 * right.toRatio.1)

/-- The number nearest to a power of ten. -/
def powTen (power : Nat) : Option Binary64 := ofNat (Nat.pow 10 power)

/-- `significand * 10 ^ exponent`, correctly rounded. Exponents that leave no doubt about the
answer are not computed. -/
def ofDecimal (significand : Nat) (exponent : Int) : Option Binary64 :=
  if significand = 0 then some ⟨0, minExponent⟩
  else
    let size : Int := (Nat.toDigits 10 significand).length + exponent
    if 400 < size then none
    else if size < -400 then some ⟨0, minExponent⟩
    else if 0 ≤ exponent then ofRatio (significand * Nat.pow 10 exponent.natAbs) 1
    else ofRatio significand (Nat.pow 10 exponent.natAbs)

end Binary64

end HealthWatch
