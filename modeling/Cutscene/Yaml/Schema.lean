import Cutscene.Hex
import Cutscene.Json.Numeral
import Cutscene.Yaml.Value

/-!
# The core schema

What the text of a plain scalar means: nothing, a truth value, a number, or else itself.

Whole numbers are decimal, without zeros in front, or have a mark for another base. A whole
number that 64 bits hold, with or without a sign, is one; of the greater ones those that 128
bits hold are unreadable, and the ones beyond are taken for the nearest binary number, if they
are decimal. A number past the greatest finite one is a mere text.
-/

namespace Cutscene

namespace Yaml

namespace Schema

/-! ### Words -/

/-- The words for nothing. -/
def isNullWord (s : String) : Bool := s == "null" || s == "Null" || s == "NULL" || s == "~"

/-- The words for truth values. -/
def bool? (s : String) : Option Bool :=
  if s == "true" || s == "True" || s == "TRUE" then some true
  else if s == "false" || s == "False" || s == "FALSE" then some false
  else none

/-! ### Whole numbers -/

/-- The number that a row of digits of a base writes. There is a digit at least. -/
def digits? (base : Nat) (digits : List Char) : Option Nat :=
  if digits.isEmpty then none
  else digits.foldlM (fun n c => (Hex.value? c).bind fun d =>
    if d < base then some (base * n + d) else none) 0

/-- Digits after a zero, which make a text of them rather than a number. -/
def hasLeadingZero (digits : List Char) : Bool :=
  digits.length > 1 && digits.head? == some '0' && digits.all Char.isDigit

/-- A whole number without a sign. -/
def unsigned? : List Char → Option Nat
  | '0' :: 'x' :: rest => digits? 16 rest
  | '0' :: 'o' :: rest => digits? 8 rest
  | '0' :: 'b' :: rest => digits? 2 rest
  | digits => if hasLeadingZero digits then none else digits? 10 digits

/-- A whole number that has no minus sign. -/
def nat? : List Char → Option Nat
  | '+' :: rest => unsigned? rest
  | text => unsigned? text

/-- A whole number: whether it has a minus sign, and the number behind the sign. -/
def signed? : List Char → Option (Bool × Nat)
  | '-' :: rest => (unsigned? rest).map (true, ·)
  | text => (nat? text).map (false, ·)

/-- A whole number. -/
def int? (text : List Char) : Option Int :=
  (signed? text).map fun (negative, n) => if negative then -n else n

/-- How far whole numbers without a fraction and an exponent are kept as such. -/
inductive Extent where
  | word
  | doubleWord
  | beyond
deriving DecidableEq

/-- The words that hold a number. Behind a minus sign there is one bit less. -/
def extent (negative : Bool) (n : Nat) : Extent :=
  if if negative then n ≤ Int64.minValue.toInt.natAbs else n < UInt64.size then .word
  else if if negative then n ≤ 0x80000000000000000000000000000000
    else n < 0x100000000000000000000000000000000 then .doubleWord
  else .beyond

/-! ### Binary numbers -/

/-- A number that is not a number. -/
def notANumber : Binary64 := .ofMagnitude false (Binary64.infinity + 1)

/-- The number nearest to digits with an optional point among them and an optional exponent,
if it is finite. -/
def decimal? (negative : Bool) (text : List Char) : Option Binary64 :=
  let front := text.takeWhile Char.isDigit
  let rest := text.dropWhile Char.isDigit
  let (fraction, rest) := match rest with
    | '.' :: rest => (rest.takeWhile Char.isDigit, rest.dropWhile Char.isDigit)
    | rest => ([], rest)
  if front.isEmpty && fraction.isEmpty then none
  else
    (Numeral.exponent? rest).bind fun e =>
      Binary64.ofDecimal? negative (Numeral.natOfDigits (front ++ fraction))
        (e - fraction.length)

/-- The words for infinity. -/
def isInfinityWord (s : List Char) : Bool :=
  s == ['.', 'i', 'n', 'f'] || s == ['.', 'I', 'n', 'f'] || s == ['.', 'I', 'N', 'F']

/-- The words for what is not a number. -/
def isNaNWord (s : List Char) : Bool :=
  s == ['.', 'n', 'a', 'n'] || s == ['.', 'N', 'a', 'N'] || s == ['.', 'N', 'A', 'N']

/-- A number with an optional sign, or one of the words. -/
def float? (text : List Char) : Option Binary64 :=
  let (negative, body) := match text with
    | '-' :: rest => (true, rest)
    | '+' :: rest => (false, rest)
    | rest => (false, rest)
  if isInfinityWord body then some (.ofMagnitude negative Binary64.infinity)
  else if isNaNWord text then some notANumber
  else decimal? negative body

/-! ### Values -/

/-- What a whole number means. -/
def wholeValue (negative : Bool) (n : Nat) : Value := if negative then .negative n else .nat n

/-- What a text means that is a whole number, as far as it can be read. -/
def intValue? (text : List Char) : Option Value :=
  (signed? text).bind fun (negative, n) =>
    if extent negative n = .word then some (wholeValue negative n) else none

/-- What a plain text means. -/
def plainValue? (s : String) : Option Value :=
  let text := s.toList
  let number : Option (Extent × Value) := (signed? text).map fun (negative, n) =>
    (extent negative n, wholeValue negative n)
  if s.isEmpty || isNullWord s then some .null
  else match bool? s, number with
    | some b, _ => some (.bool b)
    | none, some (.word, n) => some n
    | none, some (.doubleWord, _) => none
    | none, _ =>
      let unsignedText := match text with
        | '-' :: rest | '+' :: rest => rest
        | rest => rest
      match if hasLeadingZero unsignedText then none else float? text with
      | some x => some (.float x)
      | none => some (.string s)

end Schema

end Yaml

end Cutscene
