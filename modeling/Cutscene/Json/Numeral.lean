import Cutscene.Json.Basic

/-!
# Numerals

How numbers are written in JSON: an optional minus sign, digits without a leading zero, an
optional fraction and an optional exponent. A numeral without fraction and exponent stands for
a whole number as long as 64 bits hold it, with or without a sign.

Every other numeral stands for a binary number, among them `-0`, which is the negative zero.
The binary number is a product: that of the numeral's digits, as many as 64 bits hold as one
number, and of a power of ten. A numeral past the greatest finite number stands for nothing.
-/

namespace Cutscene

/-- A number as written: the digits before and behind the point, the exponent, and whether it
has neither fraction nor exponent. -/
structure Numeral where
  negative : Bool
  front : List Char
  fraction : List Char
  exponent : Int
  whole : Bool
deriving DecidableEq

namespace Numeral

/-- A character that occurs in numerals. No other character that may follow a numeral does. -/
def isPart (c : Char) : Bool :=
  c.isDigit || c == '-' || c == '+' || c == '.' || c == 'e' || c == 'E'

/-- The number that a row of decimal digits writes. -/
def natOfDigits (digits : List Char) : Nat := Nat.ofDigitChars 10 digits 0

/-- The exponent at the end of a numeral; nothing at all is the exponent 0. -/
def exponent? : List Char → Option Int
  | [] => some 0
  | mark :: rest =>
    if mark = 'e' ∨ mark = 'E' then
      let (negative, digits) := match rest with
        | '-' :: digits => (true, digits)
        | '+' :: digits => (false, digits)
        | digits => (false, digits)
      if digits ≠ [] ∧ digits.all Char.isDigit then
        some (if negative then -(natOfDigits digits : Int) else natOfDigits digits)
      else none
    else none

/-- Reads digits without a leading zero, an optional fraction and an optional exponent. -/
def unsigned? (negative : Bool) (text : List Char) : Option Numeral :=
  let front := text.takeWhile Char.isDigit
  let rest := text.dropWhile Char.isDigit
  if front = [] ∨ (front.head? = some '0' ∧ front ≠ ['0']) then none
  else match rest with
    | '.' :: rest =>
      let fraction := rest.takeWhile Char.isDigit
      if fraction = [] then none
      else (exponent? (rest.dropWhile Char.isDigit)).map fun e =>
        ⟨negative, front, fraction, e, false⟩
    | rest => (exponent? rest).map fun e => ⟨negative, front, [], e, rest.isEmpty⟩

/-- Reads a whole text as a numeral. -/
def ofChars? : List Char → Option Numeral
  | '-' :: text => unsigned? true text
  | text => unsigned? false text

/-- The whole number, if the numeral stands for one. -/
def int? (n : Numeral) : Option Int :=
  let digits := natOfDigits n.front
  if n.whole then
    if n.negative then
      if 0 < digits ∧ Int64.minValue.toInt ≤ -digits then some (-digits) else none
    else if digits < UInt64.size then some digits else none
  else none

/-- Goes on with a number by decimal digits, as long as 64 bits hold it. The answer tells also
how many digits are left over. -/
def extend (n : Nat) : List Char → Nat × Nat
  | [] => (n, 0)
  | c :: rest =>
    let next := 10 * n + (c.toNat - '0'.toNat)
    if next < UInt64.size then extend next rest else (n, rest.length + 1)

/-- The number that the digits make, and the exponent of the power of ten that goes with it.
Digits before the point that are left over count as zeros, those behind it not at all. -/
def scientific (n : Numeral) : Nat × Int :=
  let (digits, missing) := extend 0 n.front
  let (digits, unused) := extend digits n.fraction
  (digits, n.exponent + missing - (n.fraction.length - unused))

/-- The value that a numeral stands for. -/
def value (n : Numeral) : Json :=
  match n.int? with
  | some i => .int i
  | none =>
    let (digits, exponent) := n.scientific
    match (Binary64.ofInt digits).timesPowerOfTen? exponent with
    | some x => .float (.ofMagnitude n.negative x.magnitude)
    | none => .unreadable

end Numeral

end Cutscene
