import Cutscene.Rect
import Cutscene.Run.State
import Cutscene.Step

/-!
# Snapshots

Everything a host needs in order to show where a run stands. A host is only told about a
snapshot that looks different from the one before it. Two snapshots look the same if they agree
in everything, where the numbers of a highlight's rectangle are compared as numbers.
-/

namespace Cutscene

/-- A choice as it is shown. -/
structure ChoicePrompt where
  prompt : Option String
  options : List String
deriving DecidableEq

/-- Something that is pointed at, with its place once that is known. -/
structure Highlight where
  anchor : String
  maskInput : Bool
  rect : Option Rect
deriving DecidableEq

/-- A hint as it is shown. -/
structure Hint where
  text : String
  anchor : Option String
deriving DecidableEq

/-- A character as it is shown. -/
structure Portrait where
  expression : Option String
  position : Option String
deriving DecidableEq

/-- Everything that is shown. -/
structure Snapshot where
  scene : Option String := none
  run : Option Uuid := none
  state : RunState := .idle
  dialogue : Option Dialogue := none
  choice : Option ChoicePrompt := none
  highlight : Option Highlight := none
  hint : Option Hint := none
  inputMasked : Bool := false
  background : Option String := none
  portraits : NameMap Portrait := ∅
  overlay : Option String := none
  music : Option String := none
  sound : Option String := none
  ticket : Option Ticket := none
deriving DecidableEq

namespace ChoicePrompt

/-- A choice as a record. -/
def toJson (c : ChoicePrompt) : Json :=
  .ofMembers [Json.optionalField "prompt" .string c.prompt,
    Json.field "options" (.ofNames c.options)]

end ChoicePrompt

namespace Highlight

/-- The same anchor, mask and place, the places compared as numbers. -/
def looksLike (a b : Highlight) : Bool :=
  decide (a.anchor = b.anchor ∧ a.maskInput = b.maskInput) &&
    match a.rect, b.rect with
    | none, none => true
    | some r, some s => r.sameNumbers s
    | _, _ => false

/-- A highlight as a record. -/
def toJson (h : Highlight) : Json :=
  .object [("anchorId", .string h.anchor), ("maskInput", .bool h.maskInput),
    ("rect", .orNull Rect.toJson h.rect)]

end Highlight

namespace Hint

/-- A hint as a record. -/
def toJson (h : Hint) : Json :=
  .ofMembers [Json.field "text" (.string h.text),
    Json.optionalField "anchorId" .string h.anchor]

end Hint

namespace Portrait

/-- A character as a record. -/
def toJson (p : Portrait) : Json :=
  .ofMembers [Json.optionalField "expression" .string p.expression,
    Json.optionalField "position" .string p.position]

end Portrait

namespace Snapshot

/-- Nothing that is shown tells the snapshots apart. -/
def looksLike (a b : Snapshot) : Bool :=
  decide ({ a with highlight := none } = { b with highlight := none }) &&
    match a.highlight, b.highlight with
    | none, none => true
    | some h, some k => h.looksLike k
    | _, _ => false

/-- A snapshot as a record, with all of its fields. -/
def toJson (s : Snapshot) : Json :=
  .object [
    ("sceneId", .orNull .string s.scene),
    ("runId", .orNull Uuid.toJson s.run),
    ("state", s.state.toJson),
    ("dialogue", .orNull Dialogue.toJson s.dialogue),
    ("choice", .orNull ChoicePrompt.toJson s.choice),
    ("highlight", .orNull Highlight.toJson s.highlight),
    ("hint", .orNull Hint.toJson s.hint),
    ("inputMasked", .bool s.inputMasked),
    ("background", .orNull .string s.background),
    ("portraits", .ofMap Portrait.toJson s.portraits),
    ("overlay", .orNull .string s.overlay),
    ("music", .orNull .string s.music),
    ("sound", .orNull .string s.sound),
    ("resumeTicket", .orNull Ticket.toJson s.ticket)]

end Snapshot

end Cutscene
