import Cutscene.Hex
import Cutscene.Document

/-!
# Universally unique identifiers

Runs, sessions and events are told apart by identifiers of 128 bits. They are written in
groups of 8, 4, 4, 4 and 12 lower-case hexadecimal digits between hyphens. When read, the
digits may be of either case, and the groups may stand without hyphens, inside braces, or
behind `urn:uuid:`, whose letters may be of either case, too.
-/

namespace Cutscene

/-- An identifier of 128 bits. -/
structure Uuid where
  bits : BitVec 128
deriving DecidableEq, Inhabited

namespace Uuid

/-- The lengths of the groups of digits. -/
def groups : List Nat := [8, 4, 4, 4, 12]

/-- Puts hyphens between the groups of a row of digits. -/
def hyphenate : List Nat → List Char → List Char
  | [], _ => []
  | [_], digits => digits
  | n :: rest, digits => digits.take n ++ '-' :: hyphenate rest (digits.drop n)

/-- Takes the hyphens out that stand between the groups. -/
def unhyphenate? : List Nat → List Char → Option (List Char)
  | [], digits => if digits = [] then some [] else none
  | [n], digits => if digits.length = n then some digits else none
  | n :: rest, digits =>
    match digits.drop n with
    | '-' :: more => (unhyphenate? rest more).map (digits.take n ++ ·)
    | _ => none

/-- The text of an identifier. -/
def text (u : Uuid) : String :=
  String.ofList (hyphenate groups (Hex.digits 32 u.bits.toNat))

/-- The digits of an identifier, out of any of the ways to write it. -/
def digits? (chars : List Char) : Option (List Char) :=
  if chars.length = 32 then some chars
  else if chars.length = 36 then unhyphenate? groups chars
  else if chars.length = 38 then
    if chars.head? = some '{' ∧ chars.getLast? = some '}' then
      unhyphenate? groups (chars.drop 1).dropLast
    else none
  else if chars.length = 45 ∧ (chars.take 9).map Char.toLower = "urn:uuid:".toList then
    unhyphenate? groups (chars.drop 9)
  else none

/-- Reads an identifier. -/
def ofText? (s : String) : Option Uuid :=
  (digits? s.toList).bind fun digits => (Hex.ofDigits? digits).map fun n => ⟨BitVec.ofNat 128 n⟩

/-- The `n`th of the identifiers that grow out of a random number. The lowest 62 bits count, so
that as many of them are different; the bits above are random, but for those that mark an
identifier as random. -/
def ofRandom (seed n : Nat) : Uuid :=
  ⟨BitVec.ofNat 48 (seed >>> 80) ++ 4#4 ++ BitVec.ofNat 12 (seed >>> 64) ++ 2#2 ++
    BitVec.ofNat 62 (seed + n)⟩

/-- An identifier as a value. -/
def toJson (u : Uuid) : Json := .string u.text

/-- An identifier out of a string. -/
def ofJson? (j : Json) : Option Uuid := j.text?.bind ofText?

end Uuid

end Cutscene
