import Cutscene.Uuid
import Cutscene.Json.Tagged

/-!
# States of a run

A run executes steps, waits for the player or the host, or has ended. While it waits it has a
ticket, which tells this suspension apart from all others: a late answer to an earlier one
cannot be mistaken for an answer to this one.
-/

namespace Cutscene

/-! ### Tickets -/

/-- What identifies one suspension, or one request for geometry, of one run. -/
structure Ticket where
  run : Uuid
  step : Nat
  number : Nat
deriving DecidableEq

namespace Ticket

/-- A ticket as a record. -/
def toJson (t : Ticket) : Json :=
  .object [("runId", t.run.toJson), ("stepIndex", .int t.step), ("seq", .int t.number)]

/-- A ticket out of a record. -/
def ofJson? (j : Json) : Option Ticket := do
  let fields ← j.fields? ["runId", "stepIndex", "seq"]
  let run ← Document.required fields "runId" Uuid.ofJson?
  let step ← Document.required fields "stepIndex" (Document.natBelow? UInt64.size)
  let number ← Document.required fields "seq" (Document.natBelow? UInt64.size)
  return { run, step, number }

end Ticket

/-! ### Reasons to end -/

/-- How a run ended. -/
inductive EndReason where
  | completed
  | interrupted
deriving DecidableEq

namespace EndReason

/-- The word for a reason. -/
def word : EndReason → String
  | completed => "completed"
  | interrupted => "interrupted"

/-- The reason that a word stands for. -/
def ofWord? : String → Option EndReason
  | "completed" => some completed
  | "interrupted" => some interrupted
  | _ => none

/-- A reason as a value. -/
def toJson (r : EndReason) : Json := .string r.word

/-- A reason out of a value. -/
def ofJson? (place : Json.Place) (j : Json) : Option EndReason :=
  (j.word? place).bind ofWord?

end EndReason

/-! ### Waits -/

/-- What a suspended run waits for, other than a choice. -/
inductive Wait where
  | acknowledgement
  | timer (ms : UInt64)
  | flag (name : String) (value : Bool)
deriving DecidableEq

namespace Wait

/-- The forms of waits. -/
def forms : List String := ["acknowledgement", "timer", "flag"]

/-- A wait as a value. -/
def toJson : Wait → Json
  | acknowledgement => .tagged "for" "acknowledgement" []
  | timer ms => .tagged "for" "timer" [Json.field "ms" (.int ms.toNat)]
  | flag name value =>
    .tagged "for" "flag" [Json.field "flag" (.string name), Json.field "value" (.bool value)]

/-- The wait of a given form with the given fields. -/
def ofBody? (form : String) (body : Json) : Option Wait :=
  match form with
  | "acknowledgement" => Body.fieldless? acknowledgement body
  | "timer" => do
    let fields ← body.fields? ["ms"]
    return .timer (← Document.required fields "ms" Document.uint64?)
  | "flag" => do
    let fields ← body.fields? ["flag", "value"]
    let name ← Document.required fields "flag" Json.text?
    let value ← Document.required fields "value" Json.bool?
    return .flag name value
  | _ => none

/-- A wait out of a value. -/
def ofJson? (place : Json.Place) (j : Json) : Option Wait :=
  (j.tagged? "for" (place.numbered forms)).bind fun (form, body) => ofBody? form body

end Wait

/-! ### States -/

/-- What a run is doing. Before the first run of all, nothing is (`idle`). -/
inductive RunState where
  | idle
  | running
  | waitingForChoice
  | waiting (wait : Wait)
  | ended (reason : EndReason)
deriving DecidableEq

namespace RunState

/-- Neither ended nor idle. -/
def isActive : RunState → Bool
  | running | waitingForChoice | waiting _ => true
  | idle | ended _ => false

/-- A state as a value. -/
def toJson : RunState → Json
  | idle => .tagged "status" "idle" []
  | running => .tagged "status" "running" []
  | waitingForChoice => .tagged "status" "waitingForChoice" []
  | waiting wait => .tagged "status" "waitingForExternal" [Json.field "wait" wait.toJson]
  | ended reason => .tagged "status" "ended" [Json.field "reason" reason.toJson]

/-- The state of a given form with the given fields. -/
def ofBody? (form : String) (body : Json) : Option RunState :=
  match form with
  | "idle" => Body.fieldless? idle body
  | "running" => Body.fieldless? running body
  | "waitingForChoice" => Body.fieldless? waitingForChoice body
  | "waitingForExternal" => do
    let fields ← body.fields? ["wait"]
    return .waiting (← Document.required fields "wait" (Wait.ofJson? .insideTagged))
  | "ended" => do
    let fields ← body.fields? ["reason"]
    return .ended (← Document.required fields "reason" (EndReason.ofJson? .insideTagged))
  | _ => none

/-- A state out of a value. -/
def ofJson? (j : Json) : Option RunState :=
  (j.tagged? "status" []).bind fun (form, body) => ofBody? form body

end RunState

end Cutscene
