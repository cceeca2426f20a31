import Cutscene.Condition
import Cutscene.Step
import Cutscene.Trigger

/-!
# Scenes

A scene has an id, the triggers that may start it, the condition on progress under which they
do, and its steps. Among several scenes that an event could start, the priority decides.
-/

namespace Cutscene

/-- A scene. -/
structure Scene where
  id : String
  version : UInt32 := 1
  title : String := ""
  description : String := ""
  triggers : List Trigger := []
  condition : Option Condition := none
  steps : List Step := []
  priority : Int32 := 0
  assets : NameMap String := ∅
deriving DecidableEq

namespace Scene

/-- One of the scene's triggers responds to an event. -/
def respondsTo (s : Scene) (e : GameEvent) : Bool := s.triggers.any (·.responds e)

/-- The scene's condition holds, if it has one. -/
def conditionHolds (s : Scene) (p : Progress) : Bool := s.condition.all (·.holds p)

/-- The place of the first label of a name among some steps. -/
def findLabel? (steps : List Step) (name : String) : Option Nat :=
  steps.findIdx? (· = .label name)

/-- Notes where a step stands, if it is a label and no label of its name has been noted before. -/
def noteLabel (table : NameMap Nat) : Step × Nat → NameMap Nat
  | (.label name, index) => table.insertIfNew name index
  | _ => table

/-- The table of the places of labels, made in one pass over the steps. In it is found what
`findLabel?` finds (`Scene.getElem?_labelTable`), without going through the steps again. -/
def labelTable (steps : List Step) : NameMap Nat := steps.zipIdx.foldl noteLabel ∅

/-! ### Records -/

/-- A scene as a record. -/
def toJson (s : Scene) : Json :=
  .ofMembers [
    Json.field "id" (.string s.id),
    Json.field "version" (.int s.version.toNat),
    Json.fieldUnless (s.title = "") "title" (.string s.title),
    Json.fieldUnless (s.description = "") "description" (.string s.description),
    Json.field "triggers" (.array (s.triggers.map Trigger.toJson)),
    Json.optionalField "condition" Condition.toJson s.condition,
    Json.field "steps" (.array (s.steps.map Step.toJson)),
    Json.field "priority" (.int s.priority.toInt),
    Json.fieldUnless s.assets.isEmpty "assets" (.ofMap .string s.assets)]

/-- The parts of a scene. -/
def shape : Shape :=
  .record [("id", .whole), ("version", .whole), ("title", .whole), ("description", .whole),
    ("triggers", .whole), ("condition", Condition.shape), ("steps", .whole),
    ("priority", .whole), ("assets", .whole)]

/-- A scene out of a record. -/
def read? {δ β : Type} [Document δ] [Tagged δ β] [Body β] (document : δ) : Option Scene := do
  let fields ← Document.fields? shape.names document
  let id ← Document.required fields "id" Document.text?
  let version ← Document.defaulted fields "version" 1 Document.uint32?
  let title ← Document.defaulted fields "title" "" Document.text?
  let description ← Document.defaulted fields "description" "" Document.text?
  let triggers ← Document.defaulted fields "triggers" [] (Document.list? Trigger.read?)
  let condition ← Document.optional fields "condition" Condition.read?
  let steps ← Document.defaulted fields "steps" [] (Document.list? Step.read?)
  let priority ← Document.defaulted fields "priority" 0 Document.int32?
  let assets ← Document.defaulted fields "assets" ∅ (Document.map? Document.text?)
  return { id, version, title, description, triggers, condition, steps, priority, assets }

end Scene

end Cutscene
