import Cutscene.Instant
import Cutscene.Run.Effect

/-!
# Events

What the log of a director records: runs that start and end, flags and counters that change,
and commands that were given to the game. Each event carries a number, a time and the id of the
run or the session that it belongs to.
-/

namespace Cutscene

/-- How a run ended, as it is recorded. -/
structure SceneEnded where
  scene : String
  run : Uuid
  reason : EndReason
  diagnostic : Option String := none
  changedFlags : NameMap Bool := ∅
  changedCounters : NameMap Int64 := ∅
deriving DecidableEq

/-- Something that is recorded. -/
inductive Occurrence where
  | sceneStarted (scene : String) (version : UInt32) (run : Uuid)
  | sceneEnded (ended : SceneEnded)
  | flagChanged (flag : String) (old new : Bool)
  | counterChanged (counter : String) (old new : Int64)
  | commandDispatched (scene : String) (command : HostCommand)
  | commandFailed (scene : String) (command : HostCommand) (error : String)
deriving DecidableEq

/-- What is recorded about an event besides the event itself. -/
structure Metadata where
  id : Uuid
  name : String
  correlation : Uuid
  number : Int
  time : Instant
deriving DecidableEq

/-- An event of the log. -/
structure Event where
  metadata : Metadata
  occurrence : Occurrence
deriving DecidableEq

namespace SceneEnded

/-- How a run ended, as a record. -/
def toJson (e : SceneEnded) : Json :=
  .ofMembers [
    Json.field "sceneId" (.string e.scene),
    Json.field "runId" e.run.toJson,
    Json.field "reason" e.reason.toJson,
    Json.optionalField "diagnostic" .string e.diagnostic,
    Json.fieldUnless e.changedFlags.isEmpty "changedFlags" (.ofMap .bool e.changedFlags),
    Json.fieldUnless e.changedCounters.isEmpty "changedProgress"
      (.ofMap .ofInt64 e.changedCounters)]

/-- How a run ended, out of a record. -/
def ofJson? (j : Json) : Option SceneEnded := do
  let fields ← j.fields? ["sceneId", "runId", "reason", "diagnostic", "changedFlags",
    "changedProgress"]
  let scene ← Document.required fields "sceneId" Json.text?
  let run ← Document.required fields "runId" Uuid.ofJson?
  let reason ← Document.required fields "reason" (EndReason.ofJson? .outside)
  let diagnostic ← Document.optional fields "diagnostic" Json.text?
  let changedFlags ← Document.defaulted fields "changedFlags" ∅ (Document.map? Json.bool?)
  let changedCounters ← Document.defaulted fields "changedProgress" ∅
    (Document.map? Document.int64?)
  return { scene, run, reason, diagnostic, changedFlags, changedCounters }

end SceneEnded

namespace Occurrence

/-- The name under which an event is passed on. -/
def name : Occurrence → String
  | sceneStarted .. => "scenes.scene_started"
  | sceneEnded _ => "scenes.scene_ended"
  | flagChanged .. => "scenes.flag_changed"
  | counterChanged .. => "scenes.progress_changed"
  | commandDispatched .. => "scenes.command_dispatched"
  | commandFailed .. => "scenes.command_failed"

/-- What happened, as an object with one member that is named for it. -/
def toJson : Occurrence → Json
  | sceneStarted scene version run =>
    .object [("SceneStarted", .object [("sceneId", .string scene),
      ("version", .int version.toNat), ("runId", run.toJson)])]
  | sceneEnded ended => .object [("SceneEnded", ended.toJson)]
  | flagChanged flag old new =>
    .object [("FlagChanged", .object [("flag", .string flag), ("old", .bool old),
      ("new", .bool new)])]
  | counterChanged counter old new =>
    .object [("ProgressChanged", .object [("key", .string counter), ("old", .ofInt64 old),
      ("new", .ofInt64 new)])]
  | commandDispatched scene command =>
    .object [("CommandDispatched", .object [("sceneId", .string scene),
      ("command", command.toJson)])]
  | commandFailed scene command error =>
    .object [("CommandFailed", .object [("sceneId", .string scene),
      ("command", command.toJson), ("error", .string error)])]

/-- What happened, out of an object with one member that is named for it. -/
def ofJson? : Json → Option Occurrence
  | .object [("SceneStarted", body)] => do
    let fields ← body.fields? ["sceneId", "version", "runId"]
    let scene ← Document.required fields "sceneId" Json.text?
    let version ← Document.required fields "version" Document.uint32?
    let run ← Document.required fields "runId" Uuid.ofJson?
    return .sceneStarted scene version run
  | .object [("SceneEnded", body)] => (SceneEnded.ofJson? body).map sceneEnded
  | .object [("FlagChanged", body)] => do
    let fields ← body.fields? ["flag", "old", "new"]
    let flag ← Document.required fields "flag" Json.text?
    let old ← Document.required fields "old" Json.bool?
    let new ← Document.required fields "new" Json.bool?
    return .flagChanged flag old new
  | .object [("ProgressChanged", body)] => do
    let fields ← body.fields? ["key", "old", "new"]
    let counter ← Document.required fields "key" Json.text?
    let old ← Document.required fields "old" Document.int64?
    let new ← Document.required fields "new" Document.int64?
    return .counterChanged counter old new
  | .object [("CommandDispatched", body)] => do
    let fields ← body.fields? ["sceneId", "command"]
    let scene ← Document.required fields "sceneId" Json.text?
    let command ← Document.required fields "command" HostCommand.ofJson?
    return .commandDispatched scene command
  | .object [("CommandFailed", body)] => do
    let fields ← body.fields? ["sceneId", "command", "error"]
    let scene ← Document.required fields "sceneId" Json.text?
    let command ← Document.required fields "command" HostCommand.ofJson?
    let error ← Document.required fields "error" Json.text?
    return .commandFailed scene command error
  | _ => none

end Occurrence

namespace Metadata

/-- What is recorded besides an event, as a record. -/
def toJson (m : Metadata) : Json :=
  .object [("eventId", m.id.toJson), ("eventType", .string m.name),
    ("correlationId", m.correlation.toJson), ("sequenceNumber", .int m.number),
    ("occurredAt", m.time.toJson)]

/-- What is recorded besides an event, out of a record. -/
def ofJson? (j : Json) : Option Metadata := do
  let fields ← j.fields? ["eventId", "eventType", "correlationId", "sequenceNumber",
    "occurredAt"]
  let id ← Document.required fields "eventId" Uuid.ofJson?
  let name ← Document.required fields "eventType" Json.text?
  let correlation ← Document.required fields "correlationId" Uuid.ofJson?
  let number ← Document.required fields "sequenceNumber" Document.int64?
  let time ← Document.required fields "occurredAt" Instant.ofJson?
  return { id, name, correlation, number := number.toInt, time }

end Metadata

end Cutscene
