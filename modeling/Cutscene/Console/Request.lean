import Cutscene.Anchor.Poll
import Cutscene.Json.Reader
import Cutscene.Rect
import Cutscene.Run.State
import Cutscene.Trigger

/-!
# Requests

What can be asked of a console, one request a line, each written as JSON.
-/

namespace Cutscene

/-- A request to a console. -/
inductive Request where
  /-- Something happened in the game. -/
  | event (event : GameEvent)
  /-- Which scenes would an event start? -/
  | peek (event : GameEvent)
  | start (scene : String)
  | choose (option : Nat)
  | acknowledge
  /-- Ends a timed wait: the one of the ticket, or the current one. -/
  | resume (ticket : Option Ticket)
  | setFlag (flag : String) (value : Bool)
  | setCounter (counter : String) (value : Int64)
  | stop
  /-- Something is on the screen, at a place or not laid out yet. -/
  | registerAnchor (anchor : String) (rect : Option Rect)
  | unregisterAnchor (anchor : String)
  /-- Asks to be told once all of the anchors can be measured. -/
  | waitForAnchors (anchors : List String) (options : PollOptions)
deriving DecidableEq

namespace Request

/-- The options of a poll, where what is left out is as usual. -/
def pollOptions? (fields : List (String × Json)) : Option PollOptions := do
  let initialDelay ← Document.optional fields "initialDelayMs" (Document.natBelow? UInt64.size)
  let interval ← Document.optional fields "intervalMs" (Document.natBelow? UInt64.size)
  let maxAttempts ← Document.optional fields "maxAttempts" (Document.natBelow? UInt32.size)
  let usual : PollOptions := {}
  return {
    initialDelay := initialDelay.getD usual.initialDelay
    interval := interval.getD usual.interval
    maxAttempts := maxAttempts.getD usual.maxAttempts }

/-- The request of a given form with the given fields. -/
def ofBody? (form : String) (body : Json) : Option Request :=
  match form with
  | "event" => do
    let fields ← body.fields? ["event"]
    return .event (← Document.required fields "event" (GameEvent.ofJson? .insideTagged))
  | "peek" => do
    let fields ← body.fields? ["event"]
    return .peek (← Document.required fields "event" (GameEvent.ofJson? .insideTagged))
  | "start" => do
    let fields ← body.fields? ["sceneId"]
    return .start (← Document.required fields "sceneId" Json.text?)
  | "choose" => do
    let fields ← body.fields? ["index"]
    return .choose (← Document.required fields "index" (Document.natBelow? UInt64.size))
  | "ack" => Body.fieldless? acknowledge body
  | "resume" => do
    let fields ← body.fields? ["ticket"]
    return .resume (← Document.optional fields "ticket" Ticket.ofJson?)
  | "setFlag" => do
    let fields ← body.fields? ["flag", "value"]
    let flag ← Document.required fields "flag" Json.text?
    let value ← Document.required fields "value" Json.bool?
    return .setFlag flag value
  | "setProgress" => do
    let fields ← body.fields? ["key", "value"]
    let counter ← Document.required fields "key" Json.text?
    let value ← Document.required fields "value" Document.int64?
    return .setCounter counter value
  | "stop" => Body.fieldless? stop body
  | "registerAnchor" => do
    let fields ← body.fields? ["anchorId", "rect"]
    let anchor ← Document.required fields "anchorId" Json.text?
    let rect ← Document.optional fields "rect" Rect.ofJson?
    return .registerAnchor anchor rect
  | "unregisterAnchor" => do
    let fields ← body.fields? ["anchorId"]
    return .unregisterAnchor (← Document.required fields "anchorId" Json.text?)
  | "waitForAnchors" => do
    let fields ← body.fields? ["anchorIds", "initialDelayMs", "intervalMs", "maxAttempts"]
    let anchors ← Document.required fields "anchorIds" (Document.list? Json.text?)
    let options ← pollOptions? fields
    return .waitForAnchors anchors options
  | _ => none

/-- A request out of a value. -/
def ofJson? (j : Json) : Option Request :=
  (j.tagged? "op" []).bind fun (form, body) => ofBody? form body

/-- A request out of a line. -/
def ofLine? (line : String) : Option Request := (Json.ofText? line).bind ofJson?

end Request

end Cutscene
