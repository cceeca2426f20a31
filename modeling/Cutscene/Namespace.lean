import Cutscene.Blank
import Cutscene.Document

/-!
# Namespaces

Progress is kept apart for each user. The progress of a user who is not known, or whose id is
blank, belongs to one shared anonymous namespace.
-/

namespace Cutscene

/-- The key under which progress is kept. -/
structure Namespace where
  key : String
deriving DecidableEq, Inhabited

namespace Namespace

/-- The namespace of unknown users. -/
def anonymous : Namespace := ⟨"anonymous"⟩

/-- The namespace of a user's id, blanks around which do not count. -/
def ofUser (id : String) : Namespace :=
  let trimmed := Blank.trim id
  if trimmed = "" then anonymous else ⟨trimmed⟩

/-- The namespace of a user who may be unknown. -/
def ofUser? (id : Option String) : Namespace := id.elim anonymous ofUser

/-- The namespace of unknown users. -/
def isAnonymous (ns : Namespace) : Bool := ns = anonymous

/-- A namespace as a value. -/
def toJson (ns : Namespace) : Json := .string ns.key

/-- A namespace out of a string, taken as it is. -/
def ofJson? (j : Json) : Option Namespace := j.text?.map Namespace.mk

end Namespace

end Cutscene
