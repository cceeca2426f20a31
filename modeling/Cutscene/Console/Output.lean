import Cutscene.Event
import Cutscene.Json.Printer

/-!
# Output

What a console says, one thing a line, each written as JSON.
-/

namespace Cutscene

/-- Something that a console says. -/
inductive Output where
  /-- What is shown has changed. -/
  | snapshot (snapshot : Snapshot)
  /-- The game is to do something. -/
  | command (command : HostCommand)
  /-- An event has been recorded. -/
  | event (event : Event)
  /-- All of the anchors that were waited for can be measured. -/
  | anchorsReady (anchors : List String)
  /-- The scenes that an event would start, best first. -/
  | eligible (scenes : List String)
  /-- A request could not be met. -/
  | error (message : String)
deriving DecidableEq

namespace Output

/-- What a console says, as a value. -/
def toJson : Output → Json
  | snapshot s => .tagged "kind" "snapshot" [Json.field "snapshot" s.toJson]
  | command c => .tagged "kind" "command" [Json.field "command" c.toJson]
  | event e =>
    .tagged "kind" "event" [
      Json.field "eventType" (.string e.occurrence.name),
      Json.field "metadata" e.metadata.toJson,
      Json.field "payload" e.occurrence.toJson]
  | anchorsReady anchors =>
    .tagged "kind" "anchorsReady" [Json.field "anchorIds" (.ofNames anchors)]
  | eligible scenes => .tagged "kind" "eligible" [Json.field "sceneIds" (.ofNames scenes)]
  | error message => .tagged "kind" "error" [Json.field "message" (.string message)]

/-- What a console says, as a line. -/
def line (out : Output) : String := out.toJson.compact

end Output

end Cutscene
