import Cutscene.Hex

/-!
# Quoted strings

A string stands between quotes. A quote, a backslash and the characters below the space are
written as escapes; everything else stands for itself. `\u` escapes give UTF-16 units, so a
character beyond the first 65536 is escaped as a pair of surrogates. A surrogate without its
partner is well formed and stands for no character: such a string has no text.

`Quoted.scan` finds where a string ends and what it consists of; `Quoted.text?` puts the units
together.
-/

namespace Cutscene

namespace Quoted

/-- What a string consists of: characters that stand for themselves and escaped UTF-16 units. -/
inductive Piece where
  | char (c : Char)
  | unit (value : Nat)
deriving DecidableEq


/-- The number that four hexadecimal digits write. -/
def unit? (a b c d : Char) : Option Nat := do
  let a ← Hex.value? a
  let b ← Hex.value? b
  let c ← Hex.value? c
  let d ← Hex.value? d
  return ((a * 16 + b) * 16 + c) * 16 + d

/-- The character that a one-letter escape stands for. -/
def escaped? : Char → Option Char
  | '"' => some '"'
  | '\\' => some '\\'
  | '/' => some '/'
  | 'b' => some '\x08'
  | 'f' => some '\x0c'
  | 'n' => some '\n'
  | 'r' => some '\r'
  | 't' => some '\t'
  | _ => none

/-- Reads up to and over the closing quote. The pieces come out in reverse, before `done`. -/
def scan (done : List Piece) : List Char → Option (List Piece × List Char)
  | '"' :: rest => some (done, rest)
  | '\\' :: 'u' :: a :: b :: c :: d :: rest =>
    match unit? a b c d with
    | some n => scan (.unit n :: done) rest
    | none => none
  | '\\' :: e :: rest =>
    match escaped? e with
    | some c => scan (.char c :: done) rest
    | none => none
  | c :: rest => if c < ' ' ∨ c = '\\' then none else scan (.char c :: done) rest
  | [] => none

/-- What a string leaves is shorter than what it was read from. -/
theorem scan_length {done pieces : List Piece} {text rest : List Char}
    (h : scan done text = some (pieces, rest)) : rest.length < text.length := by
  fun_induction scan done text <;> simp_all <;> omega

/-- A unit that opens a pair of surrogates. -/
def isHigh (n : Nat) : Bool := 0xD800 ≤ n && n < 0xDC00

/-- A unit that closes a pair of surrogates. -/
def isLow (n : Nat) : Bool := 0xDC00 ≤ n && n < 0xE000

/-- The character of a pair of surrogates. -/
def ofPair (high low : Nat) : Char :=
  Char.ofNat (0x10000 + (high - 0xD800) * 0x400 + (low - 0xDC00))

/-- The characters that pieces stand for, if every surrogate has its partner beside it. -/
def chars? : List Piece → Option (List Char)
  | [] => some []
  | .char c :: rest => (chars? rest).map (c :: ·)
  | .unit n :: rest =>
    if isHigh n then
      match rest with
      | .unit m :: rest => if isLow m then (chars? rest).map (ofPair n m :: ·) else none
      | _ => none
    else if isLow n then none
    else (chars? rest).map (Char.ofNat n :: ·)

/-- Reads what follows an opening quote: the text of the string, which is missing when a
surrogate lacks its partner, and what stands behind the closing quote. -/
def read? (text : List Char) : Option (Option String × List Char) :=
  (scan [] text).map fun (pieces, rest) => ((chars? pieces.reverse).map String.ofList, rest)

/-- What a string leaves is shorter than what it was read from. -/
theorem read?_length {text rest : List Char} {s : Option String}
    (h : read? text = some (s, rest)) : rest.length < text.length := by
  obtain ⟨⟨pieces, rest'⟩, hs, he⟩ := Option.map_eq_some_iff.1 h
  cases he
  exact scan_length hs

/-! ### Writing -/

/-- How a character is written inside a string. -/
def escape (c : Char) : List Char :=
  if c = '"' then ['\\', '"']
  else if c = '\\' then ['\\', '\\']
  else if c = '\x08' then ['\\', 'b']
  else if c = '\x0c' then ['\\', 'f']
  else if c = '\n' then ['\\', 'n']
  else if c = '\r' then ['\\', 'r']
  else if c = '\t' then ['\\', 't']
  else if c < ' ' then ['\\', 'u', '0', '0', Hex.lower (c.toNat / 16), Hex.lower (c.toNat % 16)]
  else [c]

/-- A string between quotes. -/
def write (s : String) : List Char :=
  '"' :: s.toList.flatMap escape ++ ['"']

end Quoted

end Cutscene
