import Cutscene.Hex
import Cutscene.Yaml.Gap

/-!
# Scalars

A scalar is a text. It is written in one of five styles: plain, between single or double
quotes, or as a block of lines that are kept (literal) or joined (folded). The style stays with
the text, since only a plain `true` is a truth value.

Each reader takes the place where a scalar begins and gives its text and the place behind it.
No loop runs longer than the whole text has characters; the readers are told a number above
that.
-/

namespace Cutscene

namespace Yaml

/-- How a scalar is written. -/
inductive Style where
  | plain
  | quoted
  | literal
  | folded
deriving DecidableEq

/-! ### Plain scalars -/

/-- The brackets and the comma of flow collections. -/
def isFlowMark (c : Char) : Bool := c == ',' || c == '[' || c == ']' || c == '{' || c == '}'

/-- Characters that begin something other than a plain scalar. -/
def isIndicator (c : Char) : Bool :=
  isFlowMark c || c == '-' || c == '?' || c == ':' || c == '#' || c == '&' || c == '*' ||
    c == '!' || c == '|' || c == '>' || c == '\'' || c == '"' || c == '%' || c == '@' || c == '\x60'

namespace Plain

/-- A plain scalar begins here. -/
def begins (inFlow : Bool) : List Char → Bool
  | [] => false
  | c :: rest =>
    !(isBlank c || isBreak c || isIndicator c) ||
      (c == '-' && !rest.head?.any isBlank) ||
      (!inFlow && (c == '?' || c == ':') && !endsWord rest)

/-- The characters of a word, up to a blank or an indicator that ends it. Within brackets a
colon may not touch one of them. -/
def word? (inFlow : Bool) : List Char → Option (List Char)
  | [] => some []
  | c :: rest =>
    if isBlank c || isBreak c then some []
    else if inFlow && c == ':' && rest.head?.any (fun d => isFlowMark d || d == '?') then none
    else if (c == ':' && endsWord rest) || (inFlow && isFlowMark c) then some []
    else (word? inFlow rest).map (c :: ·)

/-- Goes on with a scalar, whose text so far, in reverse, is followed by a gap. The answer
tells also whether the scalar is followed by the end of a line. -/
def continue? (inFlow : Bool) (margin : Nat) :
    Nat → List Char → Gap → Cursor → Option (List Char × Bool × Cursor)
  | 0, _, _, _ => none
  | fuel + 1, done, gap, c =>
    if c.atDocumentMark || c.at? (· == '#') then some (done.reverse, gap.isBroken, c)
    else
      (word? inFlow c.rest).bind fun word =>
        let next := c.skip word.length
        let (done, gap) :=
          if word.isEmpty then (done, gap)
          else (word.reverse ++ gap.text.reverse ++ done, Gap.nothing)
        if next.at? fun d => isBlank d || isBreak d then
          (gap.read? margin next).bind fun (gap, next) =>
            if !inFlow && next.column < margin then some (done.reverse, gap.isBroken, next)
            else continue? inFlow margin fuel done gap next
        else some (done.reverse, gap.isBroken, next)

/-- Reads a plain scalar. -/
def read? (size : Nat) (inFlow : Bool) (margin : Nat) (c : Cursor) :
    Option (List Char × Bool × Cursor) :=
  continue? inFlow margin size [] Gap.nothing c

end Plain

/-! ### Quoted scalars -/

namespace Escape

/-- The character that a one-letter escape stands for. -/
def letter? : Char → Option Char
  | '0' => some '\x00'
  | 'a' => some '\x07'
  | 'b' => some '\x08'
  | 't' => some '\t'
  | '\t' => some '\t'
  | 'n' => some '\n'
  | 'v' => some '\x0B'
  | 'f' => some '\x0C'
  | 'r' => some '\r'
  | 'e' => some '\x1B'
  | ' ' => some ' '
  | '"' => some '"'
  | '/' => some '/'
  | '\\' => some '\\'
  | 'N' => some '\u0085'
  | '_' => some '\u00A0'
  | 'L' => some '\u2028'
  | 'P' => some '\u2029'
  | _ => none

/-- How many digits follow the letter of a numeric escape. -/
def digitCount? : Char → Option Nat
  | 'x' => some 2
  | 'u' => some 4
  | 'U' => some 8
  | _ => none

/-- The character with a number, if there is one. -/
def ofCode? (n : Nat) : Option Char := if n.isValidChar then some (Char.ofNat n) else none

/-- The character that an escape stands for, and the number of characters behind the backslash
that write it. -/
def read? : List Char → Option (Char × Nat)
  | [] => none
  | c :: rest =>
    match digitCount? c with
    | some count =>
      if (rest.take count).length = count then
        ((Hex.ofDigits? (rest.take count)).bind ofCode?).map (·, count + 1)
      else none
    | none => (letter? c).map (·, 1)

end Escape

namespace Quoted

/-- Goes on with a quoted scalar, whose text so far is given in reverse, to its closing quote.
A quote is written twice between single quotes; between double quotes there are escapes, also
of a line break. -/
def continue? (quote : Char) : Nat → List Char → Cursor → Option (List Char × Cursor)
  | 0, _, _ => none
  | fuel + 1, done, c =>
    let overGap (gap : Gap) (c : Cursor) :=
      (gap.read? 0 c).bind fun (gap, next) =>
        if next.atDocumentMark then none
        else continue? quote fuel (gap.text.reverse ++ done) next
    match c.rest with
    | [] => none
    | d :: rest =>
      if isBlank d || isBreak d then overGap Gap.nothing c
      else if d == quote then
        if quote == '\'' && rest.head? == some '\'' then
          continue? quote fuel ('\'' :: done) (c.skip 2)
        else some (done.reverse, c.skip 1)
      else if quote == '"' && d == '\\' then
        match (c.skip 1).lineBreak? with
        | some (_, next) => overGap (.breaks none []) next
        | none =>
          (Escape.read? rest).bind fun (e, count) =>
            continue? quote fuel (e :: done) (c.skip (count + 1))
      else continue? quote fuel (d :: done) (c.skip 1)

/-- Reads a scalar between quotes. -/
def read? (size : Nat) (quote : Char) (c : Cursor) : Option (List Char × Cursor) :=
  continue? quote size [] (c.skip 1)

end Quoted

/-! ### Blocks of lines -/

namespace Block

/-- What becomes of the line breaks at the end of a block. -/
inductive Chomp where
  | strip
  | clip
  | keep
deriving DecidableEq

/-- The sign for what becomes of the line breaks at the end. -/
def chomp? : List Char → Option Chomp
  | '-' :: _ => some .strip
  | '+' :: _ => some .keep
  | _ => none

/-- The digit for how far a block is indented; it may not be zero. -/
def increment? : List Char → Option (Option Nat)
  | c :: _ =>
    if c.isDigit then if c == '0' then none else some (some (c.toNat - '0'.toNat))
    else some none
  | [] => some none

/-- The sign and the digit behind the mark of a block, in either order. -/
def header? (c : Cursor) : Option (Chomp × Option Nat × Cursor) :=
  match chomp? c.rest with
  | some chomp =>
    (increment? (c.skip 1).rest).map fun increment =>
      (chomp, increment, c.skip (if increment.isSome then 2 else 1))
  | none =>
    (increment? c.rest).map fun increment =>
      if increment.isSome then
        match chomp? (c.skip 1).rest with
        | some chomp => (chomp, increment, c.skip 2)
        | none => (.clip, increment, c.skip 1)
      else (.clip, none, c)

/-- Goes past the spaces left of a column; without a column, past all of them. -/
def skipIndent (column : Option Nat) (c : Cursor) : Cursor :=
  let spaces := c.rest.takeWhile (· == ' ')
  match column with
  | none => c.skip spaces.length
  | some column => c.skip (min spaces.length (column - c.column))

/-- The line breaks up to the next line that is not empty, the place in that line where the
block's text begins, and the greatest column reached. A tab may not stand left of the block. -/
def emptyLines? (indent : Option Nat) :
    Nat → List Char → Nat → Cursor → Option (List Char × Nat × Cursor)
  | 0, _, _, _ => none
  | fuel + 1, breaks, reached, c =>
    let c := skipIndent indent c
    let reached := max reached c.column
    if indent.all (c.column < ·) && c.at? (· == '\t') then none
    else match c.lineBreak? with
      | some (b, next) => emptyLines? indent fuel (b :: breaks) reached next
      | none => some (breaks.reverse, reached, c)

/-- What joins a line to the text before it: the line break that ended that text and the ones
of the empty lines between. In a folded block a single line feed becomes a space, unless one of
the lines begins with a blank. -/
def join (folded : Bool) (first : Option Char) (empty : List Char) : List Char :=
  if folded && first == some '\n' then
    if empty.isEmpty then [' '] else empty
  else first.toList ++ empty

/-- Goes on with the lines of a block, whose text so far is given in reverse. -/
def lines? (size : Nat) (folded : Bool) (chomp : Chomp) (indent : Nat) :
    Nat → List Char → Bool → Option Char → List Char → Cursor → Option (List Char × Cursor)
  | 0, _, _, _, _, _ => none
  | fuel + 1, done, afterBlank, first, empty, c =>
    if c.column == indent && !c.atEnd then
      let blank := c.at? isBlank
      let gap := join (folded && !afterBlank && !blank) first empty
      let (line, c) := c.span fun d => !isBreak d
      let (first, next) := match c.lineBreak? with
        | some (b, next) => (some b, next)
        | none => (none, c)
      (emptyLines? (some indent) size [] 0 next).bind fun (empty, _, next) =>
        lines? size folded chomp indent fuel (line.reverse ++ gap.reverse ++ done) blank first
          empty next
    else
      let tail := match chomp with
        | .strip => []
        | .clip => first.toList
        | .keep => first.toList ++ empty
      some (done.reverse ++ tail, c)

/-- Reads a block of lines inside a collection whose column is given, if there is one. Where
no digit tells it, the first line that is not empty tells how far the block is indented. -/
def read? (size : Nat) (folded : Bool) (outer : Option Nat) (c : Cursor) :
    Option (List Char × Cursor) := do
  let (chomp, increment, c) ← header? (c.skip 1)
  let c ← c.finishLine?
  let given := increment.map fun n => outer.getD 0 + n
  let (empty, reached, c) ← emptyLines? given size [] 0 c
  let indent := given.getD (max reached (max (outer.elim 0 (· + 1)) 1))
  lines? size folded chomp indent size [] false none empty c

end Block

end Yaml

end Cutscene
