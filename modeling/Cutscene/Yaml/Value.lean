import Cutscene.Json.Tagged

/-!
# Values

What a part of a YAML document stands for once the meaning of its scalars is known: a value as
in JSON, but for the names in a mapping, which may be any values. A whole number with a minus
sign is kept apart from one without, since `-0` is no number of a place.

As a body, a mapping may name a field by its text, or give its place in the list of fields. So
may a mapping that stands for a word. Where names have to be texts other ones are refused, and
what is not a finite number counts as nothing.
-/

namespace Cutscene

namespace Yaml

/-- What a part of a document stands for. -/
inductive Value where
  | null
  | bool (value : Bool)
  | nat (value : Nat)
  | negative (value : Nat)
  | float (value : Binary64)
  | string (value : String)
  | sequence (items : List Value)
  | mapping (entries : List (Value × Value))
deriving Inhabited

namespace Value

/-- The text of a string. -/
def text? : Value → Option String
  | string s => some s
  | _ => none

/-- A truth value. -/
def bool? : Value → Option Bool
  | bool b => some b
  | _ => none

/-- A whole number. -/
def int? : Value → Option Int
  | nat n => some n
  | negative n => some (-n)
  | _ => none

/-- A whole number that is not below zero. -/
def nat? (v : Value) : Option Nat :=
  v.int?.bind fun n => if 0 ≤ n then some n.toNat else none

/-- Nothing at all. -/
def isNull : Value → Bool
  | null => true
  | _ => false

/-- Nothing, or a value. -/
def present? (v : Value) : Option (Option Value) := some (if v.isNull then none else some v)

/-- The items of a sequence. -/
def items? : Value → Option (List Value)
  | sequence items => some items
  | _ => none

/-- The entries of a mapping from texts. -/
def entries? : Value → Option (List (String × Value))
  | mapping entries => entries.mapM fun (key, value) => key.text?.map (·, value)
  | _ => none

/-- One of some names, given by itself or by its place. A place beyond them is that of no
name. -/
def name? (names : List String) : Value → Option (Option String)
  | string s => some (some s)
  | nat n => some names[n]?
  | _ => none

/-- The fields of a mapping, or of a sequence of the fields in order. -/
def fields? (names : List String) : Value → Option (List (String × Value))
  | mapping entries => do
    let members ← entries.mapM fun (key, value) =>
      (key.name? names).map fun name => name.map (·, value)
    Document.ofMembers? names (members.filterMap id)
  | sequence items => Document.ofItems? names items
  | _ => none

/-- A form without fields passes over members, but does not take items. -/
def isFieldless : Value → Bool
  | sequence [] | mapping _ => true
  | _ => false

/-- Nothing as the value of a word's entry. -/
def isNothing : Value → Bool
  | null | mapping [] => true
  | _ => false

/-- A word out of a list: a text, or a mapping of the word to nothing. -/
def word? (words : List String) : Value → Option String
  | string s => some s
  | mapping [(key, value)] => if value.isNothing then (key.name? words).join else none
  | _ => none

mutual

/-- The value in JSON, if its names are texts. -/
def toJson? : Value → Option Json
  | null => some .null
  | bool b => some (.bool b)
  | nat n => some (.int n)
  | negative n => some (.int (-n))
  | float x => some (.float x)
  | string s => some (.string s)
  | sequence items => (toJsonItems? items).map .array
  | mapping entries => (toJsonMembers? entries).map .object

/-- The items of a sequence in JSON. -/
def toJsonItems? : List Value → Option (List Json)
  | [] => some []
  | item :: rest =>
    match item.toJson?, toJsonItems? rest with
    | some item, some items => some (item :: items)
    | _, _ => none

/-- The entries of a mapping in JSON. -/
def toJsonMembers? : List (Value × Value) → Option (List (String × Json))
  | [] => some []
  | (key, item) :: rest =>
    match key.text?, item.toJson?, toJsonMembers? rest with
    | some name, some item, some members => some ((name, item) :: members)
    | _, _, _ => none

end

instance : Body Value where
  fields? := fields?
  items? := items?
  entries? := entries?
  text? := text?
  bool? := bool?
  int? := int?
  nat? := nat?
  present? := present?
  isFieldless := isFieldless
  word? := word?
  json? v := v.toJson?.map Json.canonical

end Value

end Yaml

end Cutscene
