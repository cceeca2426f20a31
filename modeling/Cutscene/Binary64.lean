/-!
# Binary floating-point numbers

A `Binary64` is a number of the IEEE 754 format with 64 bits, held as its bit pattern, so that
everything said about one is said in exact arithmetic. A pattern is a sign bit above a
*magnitude* of 63 bits; magnitudes below that of infinity are the finite numbers in ascending
order, those above it are not numbers.

The conversions from decimal notation and the operations round to the nearest number and, of
two equally near ones, to the one with the even magnitude.
-/

namespace Cutscene

/-- A number of the 64-bit binary format, held as its bit pattern. -/
structure Binary64 where
  bits : UInt64
deriving DecidableEq, Inhabited

namespace Binary64

/-! ### Classes of patterns -/

/-- The pattern of the sign alone, `2 ^ 63`. -/
def signBit : Nat := 0x8000000000000000

/-- The numbers between a power of two and the next, `2 ^ 52`. -/
def binade : Nat := 0x10000000000000

/-- The pattern without its sign. -/
def magnitude (x : Binary64) : Nat := x.bits.toNat % signBit

/-- The sign bit, which zero has too. -/
def negative (x : Binary64) : Bool := decide (signBit ≤ x.bits.toNat)

/-- The magnitude of infinity. -/
def infinity : Nat := 2047 * binade

/-- The number with the given sign and magnitude. -/
def ofMagnitude (negative : Bool) (magnitude : Nat) : Binary64 :=
  ⟨UInt64.ofNat (magnitude + if negative then signBit else 0)⟩

/-- Neither infinite nor a pattern that stands for no number. -/
def isFinite (x : Binary64) : Bool := decide (x.magnitude < infinity)

/-- A pattern that stands for no number. -/
def isNaN (x : Binary64) : Bool := decide (infinity < x.magnitude)

/-- Greater than zero. -/
def isPositive (x : Binary64) : Bool :=
  !x.negative && decide (0 < x.magnitude) && decide (x.magnitude ≤ infinity)

/-- Equality of the numbers: the two zeros are equal, and what is no number equals nothing. -/
def sameNumber (x y : Binary64) : Bool :=
  !x.isNaN && !y.isNaN && (decide (x = y) || decide (x.magnitude = 0 ∧ y.magnitude = 0))

/-- A finite number, less its sign, as a whole number times a power of two. -/
def scaled (x : Binary64) : Nat × Int :=
  if x.magnitude < binade then (x.magnitude, -1074)
  else (binade + x.magnitude % binade, (x.magnitude / binade : Nat) - 1075)

/-! ### Rounding -/

/-- The whole number nearest to a quotient, a half going to the even neighbour. -/
def roundQuotient (num den : Nat) : Nat :=
  let quotient := num / den
  let rest := num % den
  if 2 * rest < den then quotient
  else if den < 2 * rest then quotient + 1
  else quotient + quotient % 2

/-- A numerator and a denominator multiplied out by a power of two. -/
def shiftRatio (num den : Nat) (power : Int) : Nat × Nat :=
  if 0 ≤ power then (num <<< power.toNat, den) else (num, den <<< (-power).toNat)

/-- The greatest power of two that a positive quotient reaches. -/
def floorLog2 (num den : Nat) : Int :=
  let estimate : Int := (Nat.log2 num : Int) - Nat.log2 den
  let (n, d) := shiftRatio num den (-estimate)
  if d ≤ n then estimate else estimate - 1

/-- The magnitude nearest to a quotient. It is that of infinity or more exactly when the
quotient rounds past the greatest finite number. -/
def magnitudeOfRatio (num den : Nat) : Nat :=
  if num = 0 then 0
  else
    let unit := max (floorLog2 num den - 52) (-1074)
    let (n, d) := shiftRatio num den (-unit)
    (unit + 1074).toNat * binade + roundQuotient n d

/-- The number of decimal digits of a positive number. -/
def decimalLength (n : Nat) : Nat := (Nat.toDigits 10 n).length

/-- The number nearest to `digits · 10 ^ exponent`, or `none` where that is past the greatest
finite number. The two early answers keep far exponents from being multiplied out. -/
def ofDecimal? (negative : Bool) (digits : Nat) (exponent : Int) : Option Binary64 :=
  let places : Int := decimalLength digits + exponent
  if digits = 0 ∨ places < -330 then some (ofMagnitude negative 0)
  else if 310 < places then none
  else
    let magnitude :=
      if 0 ≤ exponent then magnitudeOfRatio (digits * Nat.pow 10 exponent.toNat) 1
      else magnitudeOfRatio digits (Nat.pow 10 (-exponent).toNat)
    if magnitude < infinity then some (ofMagnitude negative magnitude) else none

/-- The number nearest to a quotient, or infinity past the greatest finite number. -/
def ofRatio (negative : Bool) (num den : Nat) : Binary64 :=
  ofMagnitude negative (min infinity (magnitudeOfRatio num den))

/-- The number nearest to a whole number. -/
def ofInt (n : Int) : Binary64 := ofRatio (decide (n < 0)) n.natAbs 1

/-! ### Products and quotients -/

/-- A finite number, less its sign, as a quotient of whole numbers. -/
def ratio (x : Binary64) : Nat × Nat := shiftRatio x.scaled.1 1 x.scaled.2

/-- The number nearest to the product of two finite numbers. -/
def mul (x y : Binary64) : Binary64 :=
  ofRatio (x.negative != y.negative) (x.ratio.1 * y.ratio.1) (x.ratio.2 * y.ratio.2)

/-- The number nearest to the quotient of two finite numbers, of which the second is not
zero. -/
def div (x y : Binary64) : Binary64 :=
  ofRatio (x.negative != y.negative) (x.ratio.1 * y.ratio.2) (x.ratio.2 * y.ratio.1)

/-- The greatest power of ten among the finite numbers. -/
def maxPower : Nat := 308

/-- The number nearest to a power of ten. -/
def powerOfTen (n : Nat) : Binary64 := ofRatio false (Nat.pow 10 n) 1

/-- A number of at most 64 bits times a power of ten, which is a number itself, so that the
product is rounded twice. A power of ten that is too small for a number is taken in two steps.
There is no answer past the greatest finite number. -/
def timesPowerOfTen? (x : Binary64) (exponent : Int) : Option Binary64 :=
  let places := exponent.natAbs
  if x.magnitude = 0 then some x
  else if 0 ≤ exponent then
    if places ≤ maxPower then some (x.mul (powerOfTen places)) |>.filter isFinite else none
  else if places ≤ maxPower then some (x.div (powerOfTen places))
  else if places ≤ 2 * maxPower then
    some ((x.div (powerOfTen maxPower)).div (powerOfTen (places - maxPower)))
  else some (ofMagnitude x.negative 0)

/-- A tenth is the quotient of one and ten. -/
example : (ofInt 1).timesPowerOfTen? (-1) = some ⟨0x3FB999999999999A⟩ := by decide +kernel

/-- The two roundings need not lead to the nearest number, which is one up here. -/
example : (ofInt 588081255591747756).timesPowerOfTen? (-15) = some ⟨0x408260A66954E963⟩ := by
  decide +kernel

end Binary64

end Cutscene
