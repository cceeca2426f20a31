import Cutscene.Yaml.Token

/-!
# Layout

Outside brackets it is indentation that opens and closes collections: an item or a key further
to the right than the innermost open collection opens one, and whatever stands further to the
left closes it.

A key is known only by the colon behind it. So each thing that could be a key is remembered
until the colon comes, or until it no longer can: the colon has to stand on the same line,
within 1024 bytes. When it comes, the token for the key, and the one for the collection
that the key opens, take their places before the remembered thing. A thing that stands where
only a key can stand must have its colon.

`tokensOf?` takes a text apart from its beginning to its end.
-/

namespace Cutscene

namespace Yaml

/-- Something that may turn out to be a key: where it begins in the text and among the tokens,
and whether it has to be one. -/
structure PossibleKey where
  start : Cursor
  place : Nat
  required : Bool

namespace PossibleKey

/-- Keys take no more bytes than this. -/
def lengthLimit : Nat := 1024

/-- A colon can no longer be reached. -/
def isStale (c : Cursor) (key : PossibleKey) : Bool :=
  key.start.line < c.line || key.start.index + lengthLimit < c.index

end PossibleKey

/-- What has been read of a text whose characters are fewer than `size`: the tokens, the columns
of the open collections, innermost first, what may turn out to be a key here and in each of the
brackets around, and whether a key may stand here. -/
structure Layout where
  size : Nat
  cursor : Cursor
  tokens : Array Token := #[]
  columns : List Nat := []
  possible : Option PossibleKey := none
  around : List (Option PossibleKey) := []
  keyAllowed : Bool := true

namespace Layout

/-- Between brackets. -/
def inFlow (s : Layout) : Bool := !s.around.isEmpty

/-- The first column that lies inside the innermost collection. -/
def margin (s : Layout) : Nat := s.columns.head?.elim 0 (· + 1)

/-- Adds a token. -/
def push (token : Token) (s : Layout) : Layout := { s with tokens := s.tokens.push token }

/-- Goes past `n` characters and adds a token. -/
def take (n : Nat) (token : Token) (s : Layout) : Layout :=
  { s with cursor := s.cursor.skip n, tokens := s.tokens.push token }

/-! ### Possible keys -/

/-- Forgets a remembered thing if it can no longer be a key. -/
def refresh? (c : Cursor) : Option PossibleKey → Option (Option PossibleKey)
  | none => some none
  | some key =>
    if key.isStale c then if key.required then none else some none else some (some key)

/-- Forgets all things that can no longer be keys. -/
def forgetStale? (s : Layout) : Option Layout := do
  let possible ← refresh? s.cursor s.possible
  let around ← s.around.mapM (refresh? s.cursor)
  return { s with possible, around }

/-- Forgets what might have been a key, unless it has to be one. -/
def forget? (s : Layout) : Option Layout :=
  if s.possible.any (·.required) then none else some { s with possible := none }

/-- Remembers what begins here, if a key may stand here. -/
def remember? (s : Layout) : Option Layout :=
  if s.keyAllowed then
    s.forget?.map fun s =>
      { s with
        possible := some
          { start := s.cursor
            place := s.tokens.size
            required := !s.inFlow && s.columns.head? == some s.cursor.column } }
  else some s

/-! ### Indentation -/

/-- Opens a collection at a column further to the right than the innermost one. Its token takes
the given place. -/
def indent (column place : Nat) (token : Token) (s : Layout) : Layout :=
  if !s.inFlow && s.columns.all (· < column) then
    { s with columns := column :: s.columns, tokens := s.tokens.insertIdxIfInBounds place token }
  else s

/-- Opens a collection here. -/
def indentHere (token : Token) (s : Layout) : Layout :=
  s.indent s.cursor.column s.tokens.size token

/-- Closes the collections that fail a test on their columns. -/
def closeWhile (outside : Nat → Bool) (s : Layout) : Layout :=
  if s.inFlow then s
  else
    let closed := s.columns.takeWhile outside
    { s with
      columns := s.columns.drop closed.length
      tokens := closed.foldl (fun tokens _ => tokens.push .blockEnd) s.tokens }

/-- Closes the collections to the right of a place. -/
def closeRightOf (column : Nat) (s : Layout) : Layout := s.closeWhile (column < ·)

/-- Closes all collections. -/
def closeAll (s : Layout) : Layout := s.closeWhile fun _ => true

/-! ### Between tokens -/

/-- Goes on to the next token, past blanks, comments and line breaks. Where a key may stand a
tab may not. Outside brackets a key may stand on a new line. A mark of the byte order that
begins a line is passed over, but takes a column. -/
def skipGap : Nat → Layout → Layout
  | 0, s => s
  | fuel + 1, s =>
    let c := s.cursor
    let c := if c.column == 0 && c.at? (· == orderMark) then c.skip 1 else c
    let tabs := s.inFlow || !s.keyAllowed
    let c := c.skipWhile fun d => d == ' ' || (tabs && d == '\t')
    let c := if c.at? (· == '#') then c.skipWhile fun d => !isBreak d else c
    match c.lineBreak? with
    | some (_, next) =>
      skipGap fuel { s with cursor := next, keyAllowed := s.keyAllowed || !s.inFlow }
    | none => { s with cursor := c }

/-! ### Tokens -/

/-- A directive or a mark between documents, which close everything. -/
def outermost? (s : Layout) (advance : Layout → Option Layout) : Option Layout :=
  s.closeAll.forget?.bind fun s => advance { s with keyAllowed := false }

/-- A directive. -/
def directive? (s : Layout) : Option Layout :=
  s.outermost? fun s =>
    (Directive.read? s.size s.cursor).map fun (directive, next) =>
      { s with cursor := next }.push (.directive directive)

/-- An opening bracket. -/
def openFlow? (token : Token) (s : Layout) : Option Layout :=
  s.remember?.map fun s =>
    { s with possible := none, around := s.possible :: s.around, keyAllowed := true }.take 1 token

/-- A closing bracket. -/
def closeFlow? (token : Token) (s : Layout) : Option Layout :=
  s.forget?.map fun s =>
    { s with
      possible := s.around.head?.getD s.possible
      around := s.around.tail
      keyAllowed := false }.take 1 token

/-- A comma between brackets. -/
def comma? (s : Layout) : Option Layout :=
  s.forget?.map fun s => { s with keyAllowed := true }.take 1 .comma

/-- A sign that opens a collection of its own here. -/
def open? (collection : Token) (s : Layout) : Option Layout :=
  if s.inFlow then some s
  else if s.keyAllowed then some (s.indentHere collection)
  else none

/-- The sign of an item. -/
def item? (s : Layout) : Option Layout := do
  let s ← s.open? .blockSequence
  let s ← s.forget?
  return { s with keyAllowed := true }.take 1 .item

/-- The sign of a key. -/
def key? (s : Layout) : Option Layout := do
  let s ← s.open? .blockMapping
  let s ← s.forget?
  return { s with keyAllowed := !s.inFlow }.take 1 .key

/-- The colon before a value. What was remembered is a key now. -/
def value? (s : Layout) : Option Layout :=
  match s.possible with
  | some key =>
    let s := { s with tokens := s.tokens.insertIdxIfInBounds key.place .key }
    let s := s.indent key.start.column key.place .blockMapping
    some ({ s with possible := none, keyAllowed := false }.take 1 .value)
  | none =>
    (s.open? .blockMapping).map fun s => { s with keyAllowed := !s.inFlow }.take 1 .value

/-- Something that may be a key, or belong to one. -/
def remembered? (s : Layout) (read : Cursor → Option (Token × Cursor)) : Option Layout :=
  s.remember?.bind fun s =>
    (read s.cursor).map fun (token, next) =>
      { s with cursor := next, keyAllowed := false }.push token

/-- A plain scalar. At the end of a line a key may follow it. -/
def plain? (s : Layout) : Option Layout :=
  s.remember?.bind fun s =>
    (Plain.read? s.size s.inFlow s.margin s.cursor).map fun (text, atLineEnd, next) =>
      { s with cursor := next, keyAllowed := atLineEnd }.push (.scalar text .plain)

/-- A block of lines. -/
def block? (folded : Bool) (s : Layout) : Option Layout :=
  s.forget?.bind fun s =>
    (Block.read? s.size folded s.columns.head? s.cursor).map fun (text, next) =>
      { s with cursor := next, keyAllowed := true }.push
        (.scalar text (if folded then .folded else .literal))

/-- The end of the text. -/
def finish? (s : Layout) : Option (Array Token) := s.closeAll.forget?.map Layout.tokens

/-- Reads the token that begins with a character. -/
def next? (s : Layout) (first : Char) (rest : List Char) : Option Layout :=
  if s.cursor.column == 0 && first == '%' then s.directive?
  else if s.cursor.column == 0 && startsWithMark '-' (first :: rest) then
    s.outermost? fun s => some (s.take 3 .documentStart)
  else if s.cursor.column == 0 && startsWithMark '.' (first :: rest) then
    s.outermost? fun s => some (s.take 3 .documentEnd)
  else if first == '[' then s.openFlow? .openSequence
  else if first == '{' then s.openFlow? .openMapping
  else if first == ']' then s.closeFlow? .closeSequence
  else if first == '}' then s.closeFlow? .closeMapping
  else if first == ',' then s.comma?
  else if first == '-' && endsWord rest then s.item?
  else if first == '?' && (s.inFlow || endsWord rest) then s.key?
  else if first == ':' && (s.inFlow || endsWord rest) then s.value?
  else if first == '*' then
    s.remembered? fun c => (Anchor.read? c).map fun (name, next) => (.alias name, next)
  else if first == '&' then
    s.remembered? fun c => (Anchor.read? c).map fun (name, next) => (.anchor name, next)
  else if first == '!' then
    s.remembered? fun c => (TagText.read? s.size s.inFlow c).map fun (tag, next) => (.tag tag, next)
  else if first == '|' && !s.inFlow then s.block? false
  else if first == '>' && !s.inFlow then s.block? true
  else if first == '\'' || first == '"' then
    s.remembered? fun c =>
      (Quoted.read? s.size first c).map fun (text, next) => (.scalar text .quoted, next)
  else if Plain.begins s.inFlow (first :: rest) then s.plain?
  else none

/-- Takes the rest of a text apart. Every token but the last takes a character at least. -/
def scan? : Nat → Layout → Option (Array Token)
  | 0, _ => none
  | fuel + 1, s => do
    let s ← (s.skipGap s.size).forgetStale?
    let s := s.closeRightOf s.cursor.column
    match s.cursor.rest with
    | [] => s.finish?
    | first :: rest =>
      let s ← s.next? first rest
      scan? fuel s

end Layout

/-- The tokens of a text. -/
def tokensOf? (text : List Char) : Option (Array Token) :=
  let size := text.length + 1
  if text.all isAllowed then Layout.scan? size { size, cursor := { rest := text } } else none

end Yaml

end Cutscene
