import Cutscene.Json.Tagged

/-!
# Host commands

What a scene asks the game to do: go to a screen, start a battle, hand out a reward. Parameters
and payloads are the game's own business and are passed on in canonical form.
-/

namespace Cutscene

/-- A command to the game. -/
inductive HostCommand where
  | navigate (screen : String) (params : NameMap Json)
  | battle (chapterId battleId : String)
  | reward (kind : String) (payload : Json)
deriving DecidableEq

namespace HostCommand

/-- The form under which a command is written. -/
def form : HostCommand → String
  | navigate .. => "navigateTo"
  | battle .. => "triggerBattle"
  | reward .. => "triggerReward"

/-- The name of a command's kind in messages. -/
def kind : HostCommand → String
  | navigate .. => "navigate_to"
  | battle .. => "trigger_battle"
  | reward .. => "trigger_reward"

/-- The fields of a command. -/
def members : HostCommand → List (Option (String × Json))
  | navigate screen params =>
    [Json.field "screen" (.string screen),
      Json.fieldUnless params.isEmpty "params" (.ofMap id params)]
  | battle chapterId battleId =>
    [Json.field "chapterId" (.string chapterId), Json.field "battleId" (.string battleId)]
  | reward kind payload => [Json.field "kind" (.string kind), Json.field "payload" payload]

/-- The command of a given form with the given fields. -/
def ofBody? {β : Type} [Body β] (form : String) (body : β) : Option HostCommand :=
  match form with
  | "navigateTo" => do
    let fields ← Document.fields? ["screen", "params"] body
    let screen ← Document.required fields "screen" Document.text?
    let params ← Document.defaulted fields "params" ∅ (Document.map? Body.json?)
    return .navigate screen params
  | "triggerBattle" => do
    let fields ← Document.fields? ["chapterId", "battleId"] body
    let chapterId ← Document.required fields "chapterId" Document.text?
    let battleId ← Document.required fields "battleId" Document.text?
    return .battle chapterId battleId
  | "triggerReward" => do
    let fields ← Document.fields? ["kind", "payload"] body
    let kind ← Document.required fields "kind" Document.text?
    let payload ← Document.defaulted fields "payload" .null Body.json?
    return .reward kind payload
  | _ => none

/-- A command as a value. -/
def toJson (c : HostCommand) : Json := .tagged "command" c.form c.members

/-- A command out of a value. -/
def ofJson? (j : Json) : Option HostCommand :=
  (j.tagged? "command" []).bind fun (form, body) => ofBody? form body

end HostCommand

end Cutscene
