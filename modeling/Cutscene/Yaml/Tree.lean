import Cutscene.Yaml.Layout

/-!
# Trees

A `Tree` is a document as it is written: scalars, sequences, mappings, and aliases for what has
an anchor. A missing key or value is an empty plain scalar.

An anchor is a place in a table. A new name takes the first place that no name has taken yet,
and so does a name that is given again, which then leaves its former place: places are counted
by the names in use. An alias stands for whatever has its name's place in the whole document,
the last of these if there are several.

The readers take what they need from the tokens that are left. Each of them takes at least one
token or leaves it to a reader that does, so that twice as many calls as there are tokens are
enough.
-/

namespace Cutscene

namespace Yaml

/-- What stands before a node: a place in the table of anchors and a tag. -/
structure Properties where
  anchor : Option Nat := none
  tag : Option TagBytes := none
deriving DecidableEq

/-- A document as it is written. -/
inductive Tree where
  | scalar (properties : Properties) (text : List Char) (style : Style)
  | sequence (properties : Properties) (items : List Tree)
  | mapping (properties : Properties) (entries : List (Tree × Tree))
  | alias (place : Nat)

/-- The tokens that are left, the places of the names of anchors, and what the shorthands of
tags stand for. -/
structure Source where
  tokens : List Token
  names : List (List Char × Nat) := []
  handles : List (List Char × TagBytes) := []

/-- Reads from the tokens that are left. -/
abbrev Reader (α : Type) := StateT Source Option α

namespace Reader

/-- The next token, which stays. -/
def peek : Reader (Option Token) := do return (← get).tokens.head?

/-- Leaves out the next token. -/
def skip : Reader Unit := modify fun s => { s with tokens := s.tokens.tail }

/-- The next token is one out of a list, and stays. -/
def nextIsOneOf (tokens : List Token) : Reader Bool := do
  return (← peek).any fun token => tokens.contains token

/-- Leaves out the next token if it is a given one. -/
def accept (token : Token) : Reader Bool := do
  let found ← nextIsOneOf [token]
  if found then skip
  return found

/-- What comes first in a collection needs no comma, everything after it does. -/
def separated (first : Bool) : Reader Bool := if first then return true else accept .comma

/-! ### Properties -/

/-- Gives a name a place. -/
def define (name : List Char) : Reader Nat := do
  let s ← get
  let place := s.names.length
  set { s with names := (name, place) :: s.names.filter fun entry => entry.1 != name }
  return place

/-- The place of a name. -/
def place (name : List Char) : Reader Nat := do (← get).names.lookup name

/-- The tag that a shorthand and a suffix stand for. -/
def resolve (tag : TagText) : Reader TagBytes := do
  if tag.handle.isEmpty then return tag.suffix
  else
    let tagPrefix ← (← get).handles.lookup tag.handle
    return tagPrefix ++ tag.suffix

/-- An anchor, if one comes next. -/
def anchor : Reader (Option Nat) := do
  match ← peek with
  | some (.anchor name) =>
    skip
    return some (← define name)
  | _ => return none

/-- A tag, if one comes next. -/
def tag : Reader (Option TagBytes) := do
  match ← peek with
  | some (.tag tag) =>
    skip
    return some (← resolve tag)
  | _ => return none

/-- An anchor and a tag, in either order, as far as they are there. -/
def properties : Reader Properties := do
  let first ← anchor
  let tag ← tag
  let last ← if first.isNone && tag.isSome then anchor else pure none
  return { anchor := first.or last, tag }

/-! ### Nodes -/

/-- A scalar that is not there. -/
def empty : Tree := .scalar {} [] .plain

/-- A node of which nothing but its properties is there. -/
def lacking (properties : Properties) : Reader Tree :=
  if properties.anchor.isSome || properties.tag.isSome then return .scalar properties [] .plain
  else failure

mutual

/-- Reads a node. Where `block` holds it may be a collection given by indentation, and where
`aligned` holds a sequence whose items stand at the column of the key before them. -/
def node : Nat → (block aligned : Bool) → Reader Tree
  | 0, _, _ => failure
  | fuel + 1, block, aligned => do
    match ← peek with
    | some (.alias name) =>
      skip
      return .alias (← place name)
    | _ =>
      let properties ← properties
      match ← peek with
      | some .item =>
        if aligned then return .sequence properties (← alignedItems fuel)
        else lacking properties
      | some (.scalar text style) =>
        skip
        return .scalar properties text style
      | some .openSequence =>
        skip
        return .sequence properties (← flowItems fuel true)
      | some .openMapping =>
        skip
        return .mapping properties (← flowEntries fuel true)
      | some .blockSequence =>
        if block then
          skip
          return .sequence properties (← blockItems fuel)
        else lacking properties
      | some .blockMapping =>
        if block then
          skip
          return .mapping properties (← blockEntries fuel)
        else lacking properties
      | _ => lacking properties

/-- A node, or an empty one if one out of a list of tokens comes next. -/
def nodeUnless : Nat → List Token → (block aligned : Bool) → Reader Tree
  | 0, _, _, _ => failure
  | fuel + 1, ends, block, aligned => do
    if ← nextIsOneOf ends then return empty else node fuel block aligned

/-- A value, if the sign for it comes next. -/
def valueUnless : Nat → List Token → (block aligned : Bool) → Reader Tree
  | 0, _, _, _ => failure
  | fuel + 1, ends, block, aligned => do
    if ← accept .value then nodeUnless fuel ends block aligned else return empty

/-- The items of a sequence given by indentation. -/
def blockItems : Nat → Reader (List Tree)
  | 0 => failure
  | fuel + 1 => do
    if ← accept .item then
      let item ← nodeUnless fuel [.item, .blockEnd] true false
      return item :: (← blockItems fuel)
    else if ← accept .blockEnd then return []
    else failure

/-- The items of a sequence at the column of a key. Whatever else comes ends it. -/
def alignedItems : Nat → Reader (List Tree)
  | 0 => failure
  | fuel + 1 => do
    if ← accept .item then
      let item ← nodeUnless fuel [.item, .key, .value, .blockEnd] true false
      return item :: (← alignedItems fuel)
    else return []

/-- The entries of a mapping given by indentation. -/
def blockEntries : Nat → Reader (List (Tree × Tree))
  | 0 => failure
  | fuel + 1 => do
    if ← accept .key then
      let key ← nodeUnless fuel [.key, .value, .blockEnd] true true
      let value ← valueUnless fuel [.key, .value, .blockEnd] true true
      return (key, value) :: (← blockEntries fuel)
    else if ← accept .blockEnd then return []
    else failure

/-- The items of a sequence between brackets. An item may be a mapping of a single entry. -/
def flowItems : Nat → (first : Bool) → Reader (List Tree)
  | 0, _ => failure
  | fuel + 1, first => do
    if ← accept .closeSequence then return []
    else if ← separated first then
      if ← accept .key then
        let entry ← flowPair fuel
        return .mapping {} [entry] :: (← flowItems fuel false)
      else if ← accept .closeSequence then return []
      else
        let item ← node fuel false false
        return item :: (← flowItems fuel false)
    else failure

/-- The only entry of a mapping among the items of a sequence. Where its key is missing, the
token that stands in its place is passed over. -/
def flowPair : Nat → Reader (Tree × Tree)
  | 0 => failure
  | fuel + 1 => do
    let missing ← nextIsOneOf [.value, .comma, .closeSequence]
    if missing then skip
    let key ← if missing then pure empty else node fuel false false
    let value ← valueUnless fuel [.comma, .closeSequence] false false
    return (key, value)

/-- The entries of a mapping between brackets. -/
def flowEntries : Nat → (first : Bool) → Reader (List (Tree × Tree))
  | 0, _ => failure
  | fuel + 1, first => do
    if ← accept .closeMapping then return []
    else if ← separated first then
      if ← accept .key then
        let key ← nodeUnless fuel [.value, .comma, .closeMapping] false false
        let value ← valueUnless fuel [.comma, .closeMapping] false false
        return (key, value) :: (← flowEntries fuel false)
      else if ← accept .closeMapping then return []
      else
        let key ← node fuel false false
        return (key, empty) :: (← flowEntries fuel false)
    else failure

end

/-! ### Documents -/

/-- What shorthands stand for everywhere. -/
def standardHandles : List (List Char × TagBytes) :=
  [(['!'], .ofChars ['!']), (['!', '!'], .ofChars "tag:yaml.org,2002:".toList)]

/-- The directives at the beginning: at most one version, of which there are two, and one
meaning for each shorthand. -/
def directives : Nat → (versions : Nat) → Reader Unit
  | 0, _ => failure
  | fuel + 1, versions => do
    match ← peek with
    | some (.directive (.version major minor)) =>
      skip
      if versions = 0 ∧ major = 1 ∧ (minor = 1 ∨ minor = 2) then directives fuel 1 else failure
    | some (.directive (.tag handle tagPrefix)) =>
      skip
      let s ← get
      if (s.handles.lookup handle).isSome then failure
      else
        set { s with handles := s.handles ++ [(handle, tagPrefix)] }
        directives fuel versions
    | _ => modify fun s => { s with handles := s.handles ++ standardHandles }

/-- Passes over the marks at the end of a document. -/
def skipEnds : Nat → Reader Unit
  | 0 => failure
  | fuel + 1 => do if ← accept .documentEnd then skipEnds fuel

/-- What stands behind the mark that opens a document. -/
def content (fuel : Nat) : Reader Tree := do
  match ← peek with
  | none | some .documentStart | some .documentEnd | some (.directive _) => return empty
  | some _ => node fuel true false

/-- Reads a text of at most one document. A text without a document is an empty one. -/
def document (fuel : Nat) : Reader Tree := do
  if (← peek).isNone then return empty
  else
    let directed := (← peek).any Token.isDirective
    directives fuel 0
    let marked ← accept .documentStart
    if directed && !marked then failure
    else
      let tree ← if marked then content fuel else node fuel true false
      skipEnds fuel
      if (← peek).isNone then return tree else failure

end Reader

namespace Tree

/-- Reads a text of at most one document. -/
def ofChars? (text : List Char) : Option Tree := do
  let tokens ← tokensOf? text
  let tokens := tokens.toList
  ((Reader.document (4 * tokens.length + 4)).run { tokens }).map Prod.fst

end Tree

end Yaml

end Cutscene
