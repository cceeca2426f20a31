import Cutscene.Yaml.Node
import Cutscene.Yaml.Schema

/-!
# YAML as a document

A record is a mapping whose keys are scalars. Where a text is asked for, the text of any scalar
will do; a truth value or a number has to be plain, or a literal block with the tag for it. An
empty plain scalar is also an empty record, an empty map and an empty list.

All of a value with several forms takes its meaning from the core schema, or from its tags, but
for the name of the form, for which the text of any scalar will do. Tags of an application have
no meaning.
-/

namespace Cutscene

namespace Yaml

/-! ### Tags -/

namespace TagBytes

/-- A tag for a type of the core schema. -/
def ofType (type : List Char) : TagBytes := ofChars ("tag:yaml.org,2002:".toList ++ type)

/-- The tag of truth values. -/
def bool : TagBytes := ofType ['b', 'o', 'o', 'l']

/-- The tag of whole numbers. -/
def int : TagBytes := ofType ['i', 'n', 't']

/-- The tag of binary numbers. -/
def float : TagBytes := ofType ['f', 'l', 'o', 'a', 't']

/-- The tag of nothing. -/
def null : TagBytes := ofType ['n', 'u', 'l', 'l']

/-- Begins with an exclamation mark. -/
def isMarked (tag : TagBytes) : Bool := tag.head? == some (UInt8.ofNat '!'.toNat)

/-- The tag of an application, which has to be a text. -/
def isLocal (tag : TagBytes) : Bool := tag.isMarked && (String.fromUTF8? ⟨tag.toArray⟩).isSome

end TagBytes

namespace Node

/-! ### Scalars -/

/-- Nothing at all, which may also stand for something empty. -/
def isEmptyPlain : Node → Bool
  | scalar text style _ => text.isEmpty && style = .plain
  | sequence .. | mapping .. => false

/-- The text of a scalar whose text has a meaning: a plain one, or a literal block with the tag
of that meaning. -/
def meaningful? (meaning : TagBytes) : Node → Option String
  | scalar text .plain _ => some text
  | scalar text .literal tag => if tag = some meaning then some text else none
  | _ => none

/-- A truth value. -/
def bool? (n : Node) : Option Bool := (n.meaningful? .bool).bind Schema.bool?

/-- A whole number. -/
def int? (n : Node) : Option Int := (n.meaningful? .int).bind fun s => Schema.int? s.toList

/-- A whole number without a minus sign. -/
def nat? (n : Node) : Option Nat := (n.meaningful? .int).bind fun s => Schema.nat? s.toList

/-- Nothing, or a node. What has the tag of nothing has to be nothing. -/
def present? : Node → Option (Option Node)
  | scalar text .plain tag =>
    if tag = some .null then if Schema.isNullWord text then some none else none
    else if tag.isNone && (text.isEmpty || Schema.isNullWord text) then some none
    else some (some (.scalar text .plain tag))
  | n => some (some n)

/-! ### Collections -/

/-- The items of a sequence. -/
def items? : Node → Option (List Node)
  | sequence items _ => some items
  | n => if n.isEmptyPlain then some [] else none

/-- The entries of a mapping whose keys are scalars. -/
def entries? : Node → Option (List (String × Node))
  | mapping entries _ => entries.mapM fun (key, value) => key.text?.map (·, value)
  | n => if n.isEmptyPlain then some [] else none

/-- The fields of a mapping. -/
def fields? (names : List String) (n : Node) : Option (List (String × Node)) :=
  n.entries?.bind (Document.ofMembers? names)

instance : Document Node where
  fields? := fields?
  items? := items?
  entries? := entries?
  text? := text?
  bool? := bool?
  int? := int?
  nat? := nat?
  present? := present?

/-! ### Values -/

/-- What a scalar means without a tag: plain, the schema tells; otherwise its text. -/
def untaggedValue? (text : String) (style : Style) : Option Value :=
  if style = .plain then Schema.plainValue? text else some (.string text)

/-- What a scalar means. A tag that is marked as one of an application, but is no text, counts
as no tag at all. -/
def scalarValue? (text : String) (style : Style) : Option TagBytes → Option Value
  | none => untaggedValue? text style
  | some tag =>
    if tag.isLocal then none
    else if tag.isMarked then untaggedValue? text style
    else if tag = .bool then (Schema.bool? text).map .bool
    else if tag = .int then Schema.intValue? text.toList
    else if tag = .float then (Schema.float? text.toList).map .float
    else if tag = .null then if Schema.isNullWord text then some .null else none
    else some (.string text)

mutual

/-- The value that a node stands for, if all of it has a meaning. -/
def value? : Node → Option Value
  | scalar text style tag => scalarValue? text style tag
  | sequence items tag =>
    if tag.any TagBytes.isLocal then none else (valuesOfItems? items).map .sequence
  | mapping entries tag =>
    if tag.any TagBytes.isLocal then none else (valuesOfEntries? entries).map .mapping

/-- The values of some items. -/
def valuesOfItems? : List Node → Option (List Value)
  | [] => some []
  | item :: rest =>
    match item.value?, valuesOfItems? rest with
    | some value, some values => some (value :: values)
    | _, _ => none

/-- The values of some entries. -/
def valuesOfEntries? : List (Node × Node) → Option (List (Value × Value))
  | [] => some []
  | (key, item) :: rest =>
    match key.value?, item.value?, valuesOfEntries? rest with
    | some key, some value, some values => some ((key, value) :: values)
    | _, _, _ => none

end

/-- The names of forms among some entries, and the values of the other entries. -/
def split? (tag : String) : List (Node × Node) → Option (List String × List (Value × Value))
  | [] => some ([], [])
  | (key, item) :: rest => do
    let key ← key.value?
    let (forms, body) ← split? tag rest
    if key.text? = some tag then return ((← item.text?) :: forms, body)
    else return (forms, (key, ← item.value?) :: body)

/-- The form and the body of a mapping that names its form once, or of a sequence that begins
with its form. -/
def tagged? (tag : String) : Node → Option (String × Value)
  | mapping entries properties =>
    if properties.any TagBytes.isLocal then none
    else match split? tag entries with
      | some ([form], body) => some (form, .mapping body)
      | _ => none
  | sequence (form :: rest) properties => do
    if properties.any TagBytes.isLocal then none
    else return (← form.text?, .sequence (← valuesOfItems? rest))
  | _ => none

instance : Tagged Node Value where
  tagged? := tagged?

end Node

end Yaml

end Cutscene
