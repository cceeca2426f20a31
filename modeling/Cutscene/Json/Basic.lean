import Cutscene.Binary64
import Cutscene.Names

/-!
# JSON values

A `Json` is a value as it stands in a text: an object keeps its members in the order in which
they were written, and may name one member twice.

A text can be well formed and still hold a part that stands for no value: a number beyond the
greatest one, a string with half of a surrogate pair, or a container nested too deeply. Such a
part is `Json.unreadable`. It does no harm where nobody asks for it, and makes everything fail
that does (`Json.Sound`).

An opaque value, which is kept and passed on without being looked at, is kept in its
*canonical* form: every object lists its members by name, each once, the last one written
counting. What is not a finite number counts as nothing.
-/

namespace Cutscene

/-- A value as it stands in a text. -/
inductive Json where
  | null
  | bool (value : Bool)
  | int (value : Int)
  | float (value : Binary64)
  | string (value : String)
  | array (items : List Json)
  | object (members : List (String × Json))
  | unreadable
deriving Inhabited

namespace Json

/-! ### Equality -/

mutual

/-- Decides equality of values. -/
def decEq : (a b : Json) → Decidable (a = b)
  | .null, .null => isTrue rfl
  | .bool a, .bool b => if h : a = b then isTrue (by rw [h]) else isFalse (by simp [h])
  | .int a, .int b => if h : a = b then isTrue (by rw [h]) else isFalse (by simp [h])
  | .float a, .float b => if h : a = b then isTrue (by rw [h]) else isFalse (by simp [h])
  | .string a, .string b => if h : a = b then isTrue (by rw [h]) else isFalse (by simp [h])
  | .array a, .array b =>
    match decEqItems a b with
    | isTrue h => isTrue (by rw [h])
    | isFalse h => isFalse (by simp [h])
  | .object a, .object b =>
    match decEqMembers a b with
    | isTrue h => isTrue (by rw [h])
    | isFalse h => isFalse (by simp [h])
  | .unreadable, .unreadable => isTrue rfl
  | .null, .bool _ | .null, .int _ | .null, .float _ | .null, .string _ | .null, .array _
  | .null, .object _ | .null, .unreadable
  | .bool _, .null | .bool _, .int _ | .bool _, .float _ | .bool _, .string _
  | .bool _, .array _ | .bool _, .object _ | .bool _, .unreadable
  | .int _, .null | .int _, .bool _ | .int _, .float _ | .int _, .string _ | .int _, .array _
  | .int _, .object _ | .int _, .unreadable
  | .float _, .null | .float _, .bool _ | .float _, .int _ | .float _, .string _
  | .float _, .array _ | .float _, .object _ | .float _, .unreadable
  | .string _, .null | .string _, .bool _ | .string _, .int _ | .string _, .float _
  | .string _, .array _ | .string _, .object _ | .string _, .unreadable
  | .array _, .null | .array _, .bool _ | .array _, .int _ | .array _, .float _
  | .array _, .string _ | .array _, .object _ | .array _, .unreadable
  | .object _, .null | .object _, .bool _ | .object _, .int _ | .object _, .float _
  | .object _, .string _ | .object _, .array _ | .object _, .unreadable
  | .unreadable, .null | .unreadable, .bool _ | .unreadable, .int _ | .unreadable, .float _
  | .unreadable, .string _ | .unreadable, .array _ | .unreadable, .object _ =>
    isFalse (by simp)

/-- Decides equality of the items of two arrays. -/
def decEqItems : (a b : List Json) → Decidable (a = b)
  | [], [] => isTrue rfl
  | [], _ :: _ => isFalse (by simp)
  | _ :: _, [] => isFalse (by simp)
  | x :: xs, y :: ys =>
    match decEq x y, decEqItems xs ys with
    | isTrue h, isTrue hs => isTrue (by rw [h, hs])
    | isFalse h, _ => isFalse (by simp [h])
    | _, isFalse hs => isFalse (by simp [hs])

/-- Decides equality of the members of two objects. -/
def decEqMembers : (a b : List (String × Json)) → Decidable (a = b)
  | [], [] => isTrue rfl
  | [], _ :: _ => isFalse (by simp)
  | _ :: _, [] => isFalse (by simp)
  | (k, x) :: xs, (l, y) :: ys =>
    if hk : k = l then
      match decEq x y, decEqMembers xs ys with
      | isTrue h, isTrue hs => isTrue (by rw [hk, h, hs])
      | isFalse h, _ => isFalse (by simp [h])
      | _, isFalse hs => isFalse (by simp [hs])
    else isFalse (by simp [hk])

end

instance : DecidableEq Json := decEq

/-! ### Sound values -/

mutual

/-- Every part of the value can be read. -/
def isSound : Json → Bool
  | .unreadable => false
  | .array items => areSoundItems items
  | .object members => areSoundMembers members
  | .null | .bool _ | .int _ | .float _ | .string _ => true

/-- Every item can be read. -/
def areSoundItems : List Json → Bool
  | [] => true
  | item :: rest => item.isSound && areSoundItems rest

/-- Every member can be read. -/
def areSoundMembers : List (String × Json) → Bool
  | [] => true
  | (_, value) :: rest => value.isSound && areSoundMembers rest

end

/-- Every part of the value can be read. -/
def Sound (j : Json) : Prop := j.isSound = true

instance (j : Json) : Decidable j.Sound := inferInstanceAs (Decidable (_ = true))

/-! ### Canonical values -/

mutual

/-- The value with every object's members listed by name, each once, the last one counting,
and with nothing in the place of numbers that are not finite. -/
def canonical : Json → Json
  | .array items => .array (canonicalItems items)
  | .object members => .object (NameMap.ofEntries (canonicalMembers members)).toList
  | .null => .null
  | .bool b => .bool b
  | .int n => .int n
  | .float x => if x.isFinite then .float x else .null
  | .string s => .string s
  | .unreadable => .unreadable

/-- The items of an array in canonical form. -/
def canonicalItems : List Json → List Json
  | [] => []
  | item :: rest => item.canonical :: canonicalItems rest

/-- The members of an object with their values in canonical form. -/
def canonicalMembers : List (String × Json) → List (String × Json)
  | [] => []
  | (name, value) :: rest => (name, value.canonical) :: canonicalMembers rest

end

/-! ### Building values -/

/-- An object with the members that are there. -/
def ofMembers (members : List (Option (String × Json))) : Json :=
  .object (members.filterMap id)

/-- A member that is always written. -/
def field (name : String) (value : Json) : Option (String × Json) :=
  some (name, value)

/-- A member that is written when there is something to write. -/
def optionalField {α : Type} (name : String) (write : α → Json) (value : Option α) :
    Option (String × Json) :=
  value.map fun v => (name, write v)

/-- A member that is left out when its default stands. -/
def fieldUnless (skipped : Bool) (name : String) (value : Json) : Option (String × Json) :=
  if skipped then none else some (name, value)

/-- Something or `null`. -/
def orNull {α : Type} (write : α → Json) (value : Option α) : Json :=
  value.elim .null write

/-- A map as an object, listed by name. -/
def ofMap {α : Type} (write : α → Json) (map : NameMap α) : Json :=
  .object (map.toList.map fun (name, value) => (name, write value))

/-- A whole number of 64 bits. -/
def ofInt64 (n : Int64) : Json := .int n.toInt

/-- A list of names. -/
def ofNames (names : List String) : Json :=
  .array (names.map .string)

end Json

end Cutscene
