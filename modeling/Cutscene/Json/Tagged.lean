import Cutscene.Document

/-!
# Tagged values and words

A value with several forms is an object whose *tag* member names the form, at whatever place
it stands; the other members are the fields of the form. It may also be an array of the form's
name and its fields in order. All of it has to be readable, whatever the form asks for.

A tagged value that stands inside another one may give the place of its form in the list of
forms instead of the form's name.

A value out of a fixed list of words is a string, or an object with the word as its only name
and nothing as its value.

Bodies that are read from JSON are JSON.
-/

namespace Cutscene

namespace Json

/-- Whether a value stands on its own or inside a tagged value. -/
inductive Place where
  | outside
  | insideTagged
deriving DecidableEq

/-- The forms that may be given by their place in the list of forms. -/
def Place.numbered : Place → List String → List String
  | .outside, _ => []
  | .insideTagged, forms => forms

/-- The form that a tag names, or gives the number of. -/
def formName? (numbered : List String) : Json → Option String
  | .string s => some s
  | .int n => if 0 ≤ n then numbered[n.toNat]? else none
  | _ => none

/-- The form of a tagged value and the value less its tag. -/
def tagged? (tag : String) (numbered : List String) (j : Json) : Option (String × Json) :=
  if j.Sound then
    match j with
    | .object members =>
      match members.filter (·.1 = tag) with
      | [(_, form)] =>
        (formName? numbered form).map (·, .object (members.filter (·.1 ≠ tag)))
      | _ => none
    | .array (form :: rest) => (formName? numbered form).map (·, .array rest)
    | _ => none
  else none

/-- A form without fields passes over members, but does not take items. -/
def isFieldless : Json → Bool
  | .array [] | .object _ => true
  | _ => false

/-- Nothing as the value of a word's member. Inside a tagged value an empty object will do. -/
def isNothing (place : Place) : Json → Bool
  | .null => true
  | .object [] => place = .insideTagged
  | _ => false

/-- A word out of a fixed list. -/
def word? (place : Place) : Json → Option String
  | .string s => some s
  | .object [(s, value)] => if isNothing place value then some s else none
  | _ => none

instance : Body Json where
  isFieldless := isFieldless
  word? _ := word? .insideTagged
  json? j := some j.canonical

instance : Tagged Json Json where
  tagged? tag := tagged? tag []

/-- A tagged value with the members that are there. -/
def tagged (tag form : String) (members : List (Option (String × Json))) : Json :=
  ofMembers (field tag (.string form) :: members)

end Json

namespace Body

/-- A form without fields, out of its body. -/
def fieldless? {α β : Type} [Body β] (value : α) (body : β) : Option α :=
  if isFieldless body then some value else none

end Body

end Cutscene
