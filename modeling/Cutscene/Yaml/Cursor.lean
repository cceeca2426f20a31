import Cutscene.Weight

/-!
# A place in a text with lines

YAML tells structure from columns. A `Cursor` is a place in a text: what comes next, and how
many bytes, lines and characters of the line have gone before.

A carriage return and a line feed together are one line break. A line break stands for a line
feed in the text that surrounds it, except for the two separators of Unicode, which stand for
themselves.
-/

namespace Cutscene

namespace Yaml

/-! ### Characters -/

/-- A space or a tab. -/
def isBlank (c : Char) : Bool := c == ' ' || c == '\t'

/-- A character that ends a line. -/
def isBreak (c : Char) : Bool :=
  c == '\n' || c == '\r' || c == '\u0085' || c == '\u2028' || c == '\u2029'

/-- What a line break stands for. -/
def breakText (c : Char) : Char := if c == '\u2028' || c == '\u2029' then c else '\n'

/-- A character of names. -/
def isNameChar (c : Char) : Bool := c.isAlphanum || c == '_' || c == '-'

/-- A character that may occur in a text at all. -/
def isAllowed (c : Char) : Bool :=
  let n := c.toNat
  n == 0x09 || n == 0x0A || n == 0x0D || (0x20 ≤ n && n ≤ 0x7E) || n == 0x85 ||
    (0xA0 ≤ n && n ≤ 0xD7FF) || (0xE000 ≤ n && n ≤ 0xFFFD) || 0x10000 ≤ n

/-- The mark that may stand at the beginning of a line. -/
def orderMark : Char := '\uFEFF'

/-- A text begins with a blank or a line break, or is at its end. -/
def endsWord : List Char → Bool
  | [] => true
  | c :: _ => isBlank c || isBreak c

/-- A text begins with the mark between two documents. -/
def startsWithMark (mark : Char) : List Char → Bool
  | a :: b :: c :: rest => a == mark && b == mark && c == mark && endsWord rest
  | _ => false

/-! ### Places -/

/-- The bytes that characters take. -/
def sizeInBytes (chars : List Char) : Nat := weigh Char.utf8Size chars

/-- A place in a text. -/
structure Cursor where
  rest : List Char
  index : Nat := 0
  line : Nat := 0
  column : Nat := 0
deriving DecidableEq

namespace Cursor

/-- Goes past some characters of one line. -/
def skip (n : Nat) (c : Cursor) : Cursor :=
  { c with
    rest := c.rest.drop n
    index := c.index + sizeInBytes (c.rest.take n)
    column := c.column + n }

/-- Goes past the `n` characters of a line break. -/
def newLine (n : Nat) (c : Cursor) : Cursor :=
  { rest := c.rest.drop n
    index := c.index + sizeInBytes (c.rest.take n)
    line := c.line + 1
    column := 0 }

/-- The characters up to the first one that lacks a property, and the place behind them. -/
def span (p : Char → Bool) (c : Cursor) : List Char × Cursor :=
  let taken := c.rest.takeWhile p
  (taken, c.skip taken.length)

/-- The place behind the characters with a property. -/
def skipWhile (p : Char → Bool) (c : Cursor) : Cursor := (c.span p).2

/-- The next character has a property. -/
def at? (p : Char → Bool) (c : Cursor) : Bool := c.rest.head?.any p

/-- Nothing comes next. -/
def atEnd (c : Cursor) : Bool := c.rest.isEmpty

/-- The line or the text ends here. -/
def atLineEnd (c : Cursor) : Bool := c.rest.head?.all isBreak

/-- A mark between two documents comes next. -/
def atDocumentMark (c : Cursor) : Bool :=
  c.column == 0 && (startsWithMark '-' c.rest || startsWithMark '.' c.rest)

/-- What the line break at a place stands for, and the beginning of the next line. -/
def lineBreak? (c : Cursor) : Option (Char × Cursor) :=
  match c.rest with
  | [] => none
  | '\r' :: '\n' :: _ => some ('\n', c.newLine 2)
  | b :: _ => if isBreak b then some (breakText b, c.newLine 1) else none

/-- Goes past blanks and a comment to the end of the line, and past the line break. -/
def finishLine? (c : Cursor) : Option Cursor :=
  let c := c.skipWhile isBlank
  let c := if c.at? (· == '#') then c.skipWhile fun d => !isBreak d else c
  match c.lineBreak? with
  | some (_, next) => some next
  | none => if c.atEnd then some c else none

/-- A line break takes something away. -/
theorem lineBreak?_length {c next : Cursor} {b : Char} (h : c.lineBreak? = some (b, next)) :
    next.rest.length < c.rest.length := by
  unfold lineBreak? at h
  split at h
  · simp at h
  · next heq =>
    obtain ⟨_, rfl⟩ : _ ∧ _ := by simpa using h
    simp only [newLine, heq, List.drop_succ_cons, List.drop_zero, List.length_cons]
    omega
  · next heq =>
    split at h
    · obtain ⟨_, rfl⟩ : _ ∧ _ := by simpa using h
      simp [newLine, heq]
    · simp at h

end Cursor

end Yaml

end Cutscene
