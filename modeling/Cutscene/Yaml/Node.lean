import Cutscene.Document
import Cutscene.Yaml.Tree

/-!
# Nodes

A `Node` is a document with every alias replaced by what it stands for, as far as its shape
asks for: the members of a record that are no fields of it are left empty, and nothing in them
counts. Collections nest to a depth of 128, and in a document of `n` parts at most `100 · n`
aliases are replaced. A document that goes beyond that cannot be read; nor can one that asks
for a collection that holds itself.
-/

namespace Cutscene

namespace Yaml

/-- A document without aliases. -/
inductive Node where
  | scalar (text : String) (style : Style) (tag : Option TagBytes)
  | sequence (items : List Node) (tag : Option TagBytes)
  | mapping (entries : List (Node × Node)) (tag : Option TagBytes)
deriving Inhabited

namespace Node

/-- The text of a scalar. -/
def text? : Node → Option String
  | scalar text _ _ => some text
  | sequence .. | mapping .. => none

/-- A scalar that is not there. -/
def empty : Node := scalar "" .plain none

end Node

namespace Tree

mutual

/-- The parts of a tree, the beginning and the end of a collection counting apart. -/
def size : Tree → Nat
  | scalar .. | .alias _ => 1
  | sequence _ items => sizeOfItems items + 2
  | mapping _ entries => sizeOfEntries entries + 2

/-- The parts of some items. -/
def sizeOfItems : List Tree → Nat
  | [] => 0
  | item :: rest => item.size + sizeOfItems rest

/-- The parts of some entries. -/
def sizeOfEntries : List (Tree × Tree) → Nat
  | [] => 0
  | (key, value) :: rest => key.size + value.size + sizeOfEntries rest

end

/-- What has an anchor, with its place in the table of anchors. -/
abbrev Table := List (Nat × Tree)

/-- The place of a tree that has an anchor. -/
def entry (properties : Properties) (t : Tree) : Table :=
  properties.anchor.toList.map (·, t)

mutual

/-- What has an anchor in a tree, in the order in which it begins. -/
def anchored : Tree → Table
  | .alias _ => []
  | .scalar properties text style => entry properties (.scalar properties text style)
  | .sequence properties items =>
    entry properties (.sequence properties items) ++ anchoredItems items
  | .mapping properties entries =>
    entry properties (.mapping properties entries) ++ anchoredEntries entries

/-- What has an anchor in some items. -/
def anchoredItems : List Tree → Table
  | [] => []
  | item :: rest => item.anchored ++ anchoredItems rest

/-- What has an anchor in some entries. -/
def anchoredEntries : List (Tree × Tree) → Table
  | [] => []
  | (key, value) :: rest => key.anchored ++ value.anchored ++ anchoredEntries rest

end

/-- Replaces aliases, as long as there are some left to replace. -/
abbrev Replacing := StateT Nat Option

/-- What an alias stands for. Anything else stands for itself. -/
def target (table : Table) : Tree → Replacing Tree
  | .alias place => do
    match ← get with
    | 0 => failure
    | left + 1 =>
      set left
      table.lookup place
  | t => return t

/-- The text that a node gives as the name of a member. -/
def nameOf (key : Node) : String := key.text?.getD ""

/-- Replaces the aliases in a tree of a given shape, in which collections may nest to a given
depth. -/
def toNode (table : Table) : (depth : Nat) → Shape → Tree → Replacing Node
  | 0, _, t => do
    match ← target table t with
    | .scalar properties text style => return .scalar (.ofList text) style properties.tag
    | _ => failure
  | depth + 1, shape, t => do
    match ← target table t with
    | .scalar properties text style => return .scalar (.ofList text) style properties.tag
    | .sequence properties items =>
      let items ← items.mapM (toNode table depth shape.item)
      return .sequence items properties.tag
    | .mapping properties entries =>
      let entries ← entries.mapM fun (key, value) => do
        let key ← toNode table depth .whole key
        let value ← match shape.member? (nameOf key) with
          | some shape => toNode table depth shape value
          | none => pure .empty
        return (key, value)
      return .mapping entries properties.tag
    | .alias _ => failure

end Tree

namespace Node

/-- Collections nest to this depth. -/
def depthLimit : Nat := 128

/-- The aliases that may be replaced for each part of a document. -/
def aliasesPerPart : Nat := 100

/-- A document of a given shape with its aliases replaced. -/
def ofTree? (shape : Shape) (t : Tree) : Option Node :=
  ((t.toNode t.anchored.reverse depthLimit shape).run (aliasesPerPart * t.size)).map Prod.fst

/-- Reads a text of at most one document of a given shape. -/
def ofText? (shape : Shape) (text : String) : Option Node :=
  (Tree.ofChars? text.toList).bind (ofTree? shape)

end Node

end Yaml

end Cutscene
