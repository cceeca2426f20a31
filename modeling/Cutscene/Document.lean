import Cutscene.Json.Basic

/-!
# Reading records from documents

Scenes and progress records are read from documents of more than one notation. A notation says
what counts as a record, a list or a text in it (`Document`); what records there are and which
of their fields may be missing is said once, in terms of these.

A record is read through the list of its fields' names. Members of other names are passed over
without being looked at. A field that is given twice makes the record unreadable. A `Shape`
tells beforehand which parts of a document will be looked at.

A value with several forms (`Tagged`) is another matter: all of it has to be readable, and what
its form asks for is then read from its *body* (`Body`).
-/

namespace Cutscene

/-- A notation in which records are written down. -/
class Document (δ : Type) where
  /-- The fields of a record, out of the names that it may have. -/
  fields? : List String → δ → Option (List (String × δ))
  /-- The items of a list. -/
  items? : δ → Option (List δ)
  /-- The entries of a map, in the order in which they are written. -/
  entries? : δ → Option (List (String × δ))
  /-- A text. -/
  text? : δ → Option String
  /-- A truth value. -/
  bool? : δ → Option Bool
  /-- A whole number. -/
  int? : δ → Option Int
  /-- A whole number without a minus sign. -/
  nat? : δ → Option Nat
  /-- What stands where something may be left out: nothing, or a document. -/
  present? : δ → Option (Option δ)

/-- A notation of bodies, which are all readable. -/
class Body (β : Type) extends Document β where
  /-- A form without fields passes over members, but does not take items. -/
  isFieldless : β → Bool
  /-- A word out of a list. -/
  word? : List String → β → Option String
  /-- Any value in canonical form. -/
  json? : β → Option Json

/-- A notation of values with several forms: the form that the member of a given name tells,
and the body, which is the value less that member. -/
class Tagged (δ : Type) (β : outParam Type) where
  tagged? : String → δ → Option (String × β)

/-- The parts of a document that are looked at. -/
inductive Shape where
  | whole
  | record (fields : List (String × Shape))
  | list (item : Shape)

namespace Shape

/-- The names of the fields of a record. -/
def names : Shape → List String
  | record fields => fields.map Prod.fst
  | whole | list _ => []

/-- The shape of a member. A member that is no field of a record has none. -/
def member? (name : String) : Shape → Option Shape
  | record fields => fields.lookup name
  | whole | list _ => some whole

/-- The shape of an item. -/
def item : Shape → Shape
  | list item => item
  | whole | record _ => whole

end Shape

namespace Document

variable {δ α : Type}

/-! ### Records -/

/-- The members with known names, none of which may occur twice. -/
def ofMembers? (names : List String) (members : List (String × δ)) :
    Option (List (String × δ)) :=
  let known := members.filter fun member => names.contains member.1
  if (known.map Prod.fst).Nodup then some known else none

/-- Fields given without names, in the order of the names. The last ones may be missing. -/
def ofItems? (names : List String) (items : List δ) : Option (List (String × δ)) :=
  if items.length ≤ names.length then some (names.zip items) else none

/-- A field that has to be there. -/
def required (fields : List (String × δ)) (name : String) (read : δ → Option α) : Option α :=
  (fields.lookup name).bind read

/-- A field with a value that stands when it is missing. -/
def defaulted (fields : List (String × δ)) (name : String) (default : α)
    (read : δ → Option α) : Option α :=
  match fields.lookup name with
  | none => some default
  | some document => read document

variable [Document δ]

/-- A field that may be missing or hold nothing. -/
def optional (fields : List (String × δ)) (name : String) (read : δ → Option α) :
    Option (Option α) :=
  match fields.lookup name with
  | none => some none
  | some document =>
    match present? document with
    | none => none
    | some none => some none
    | some (some document) => (read document).map some

/-! ### Lists, maps and numbers -/

/-- A list of readable items. -/
def list? (read : δ → Option α) (document : δ) : Option (List α) :=
  (items? document).bind fun items => items.mapM read

/-- A map of readable values. -/
def map? (read : δ → Option α) (document : δ) : Option (NameMap α) :=
  (entries? document).bind fun entries => NameMap.ofEntries? read entries

/-- A set of names. -/
def set? (document : δ) : Option NameSet :=
  (list? text? document).map fun names => Std.ExtTreeSet.ofList names

/-- A whole number of 64 bits with a sign. -/
def int64? (document : δ) : Option Int64 :=
  (int? document).bind fun n =>
    if Int64.minValue.toInt ≤ n ∧ n ≤ Int64.maxValue.toInt then some (Int64.ofInt n) else none

/-- A whole number of 32 bits with a sign. -/
def int32? (document : δ) : Option Int32 :=
  (int? document).bind fun n =>
    if Int32.minValue.toInt ≤ n ∧ n ≤ Int32.maxValue.toInt then some (Int32.ofInt n) else none

/-- A whole number below a bound. -/
def natBelow? (bound : Nat) (document : δ) : Option Nat :=
  (nat? document).filter (· < bound)

/-- A whole number of 32 bits without a sign. -/
def uint32? (document : δ) : Option UInt32 :=
  (natBelow? UInt32.size document).map UInt32.ofNat

/-- A whole number of 64 bits without a sign. -/
def uint64? (document : δ) : Option UInt64 :=
  (natBelow? UInt64.size document).map UInt64.ofNat

end Document

/-! ### JSON as a document -/

namespace Json

/-- A record is an object, or an array of its fields in order. -/
def fields? (names : List String) : Json → Option (List (String × Json))
  | .object members => Document.ofMembers? names members
  | .array items => Document.ofItems? names items
  | _ => none

/-- The items of an array. -/
def items? : Json → Option (List Json)
  | .array items => some items
  | _ => none

/-- The members of an object. -/
def entries? : Json → Option (List (String × Json))
  | .object members => some members
  | _ => none

/-- The text of a string. -/
def text? : Json → Option String
  | .string s => some s
  | _ => none

/-- A truth value. -/
def bool? : Json → Option Bool
  | .bool b => some b
  | _ => none

/-- A number without fraction and exponent. -/
def int? : Json → Option Int
  | .int n => some n
  | _ => none

/-- A number without fraction, exponent and minus sign. -/
def nat? : Json → Option Nat
  | .int n => if 0 ≤ n then some n.toNat else none
  | _ => none

/-- Any number. -/
def number? : Json → Option Binary64
  | .int n => some (Binary64.ofInt n)
  | .float x => some x
  | _ => none

/-- Nothing, or a value. -/
def present? (j : Json) : Option (Option Json) := some (if j = .null then none else some j)

instance : Document Json where
  fields? := fields?
  items? := items?
  entries? := entries?
  text? := text?
  bool? := bool?
  int? := int?
  nat? := nat?
  present? := present?

end Json

end Cutscene
