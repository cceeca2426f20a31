import Cutscene.Json.Tagged

/-!
# Game events and triggers

A `GameEvent` is something that happened in the game. A `Trigger` says which events a scene
responds to: those of its own kind whose details are the ones it declares. A detail that a
trigger leaves out may be anything.
-/

namespace Cutscene

/-! ### Battle results -/

/-- How a battle ended. -/
inductive BattleResult where
  | victory
  | defeat
  | draw
deriving DecidableEq

namespace BattleResult

/-- The word for a result. -/
def word : BattleResult → String
  | victory => "victory"
  | defeat => "defeat"
  | draw => "draw"

/-- The result that a word stands for. -/
def ofWord? : String → Option BattleResult
  | "victory" => some victory
  | "defeat" => some defeat
  | "draw" => some draw
  | _ => none

/-- A result as a value. -/
def toJson (r : BattleResult) : Json := .string r.word

/-- The words for results. -/
def words : List String := ["victory", "defeat", "draw"]

/-- A result out of a value. -/
def ofJson? (place : Json.Place) (j : Json) : Option BattleResult :=
  (j.word? place).bind ofWord?

/-- A result out of a body. -/
def read? {β : Type} [Body β] (body : β) : Option BattleResult :=
  (Body.word? words body).bind ofWord?

end BattleResult

/-! ### Events -/

/-- Something that happened in the game. -/
inductive GameEvent where
  | firstLaunch
  | enterScreen (screen : String)
  | battleStart (chapter battle : String)
  | battleEnd (result : BattleResult)
  | battleAction (action : String)
  | storyProgress (chapter battle : String)
  | packOpened (packType : String)
  | achievement (id : String)
  | manual (id : String)
deriving DecidableEq

/-- What a scene responds to. -/
inductive Trigger where
  | firstLaunch
  | enterScreen (screen : String)
  | battleStart (chapter battle : Option String)
  | battleEnd (result : BattleResult)
  | battleAction (action : String)
  | storyProgress (chapter : String) (battle : Option String)
  | packOpened (packType : Option String)
  | achievement (id : String)
  | manual (id : String)
deriving DecidableEq

namespace GameEvent

/-- The kinds of events. -/
def kinds : List String :=
  ["first-launch", "enter-screen", "battle-start", "battle-end", "battle-action",
    "story-progress", "pack-opened", "achievement", "manual"]

/-- The kind of an event. -/
def kind : GameEvent → String
  | firstLaunch => "first-launch"
  | enterScreen _ => "enter-screen"
  | battleStart .. => "battle-start"
  | battleEnd _ => "battle-end"
  | battleAction _ => "battle-action"
  | storyProgress .. => "story-progress"
  | packOpened _ => "pack-opened"
  | achievement _ => "achievement"
  | manual _ => "manual"

/-- The details of an event. -/
def members : GameEvent → List (Option (String × Json))
  | firstLaunch => []
  | enterScreen screen => [Json.field "screen" (.string screen)]
  | battleStart chapter battle =>
    [Json.field "chapter" (.string chapter), Json.field "battle" (.string battle)]
  | battleEnd result => [Json.field "result" result.toJson]
  | battleAction action => [Json.field "action" (.string action)]
  | storyProgress chapter battle =>
    [Json.field "chapter" (.string chapter), Json.field "battle" (.string battle)]
  | packOpened packType => [Json.field "packType" (.string packType)]
  | achievement id => [Json.field "id" (.string id)]
  | manual id => [Json.field "id" (.string id)]

/-- An event as a value. -/
def toJson (e : GameEvent) : Json := .tagged "type" e.kind e.members

/-- The event of a given kind with the given details. -/
def ofBody? (kind : String) (body : Json) : Option GameEvent :=
  match kind with
  | "first-launch" => Body.fieldless? firstLaunch body
  | "enter-screen" => do
    let fields ← body.fields? ["screen"]
    return .enterScreen (← Document.required fields "screen" Json.text?)
  | "battle-start" => do
    let fields ← body.fields? ["chapter", "battle"]
    let chapter ← Document.required fields "chapter" Json.text?
    let battle ← Document.required fields "battle" Json.text?
    return .battleStart chapter battle
  | "battle-end" => do
    let fields ← body.fields? ["result"]
    return .battleEnd (← Document.required fields "result" BattleResult.read?)
  | "battle-action" => do
    let fields ← body.fields? ["action"]
    return .battleAction (← Document.required fields "action" Json.text?)
  | "story-progress" => do
    let fields ← body.fields? ["chapter", "battle"]
    let chapter ← Document.required fields "chapter" Json.text?
    let battle ← Document.required fields "battle" Json.text?
    return .storyProgress chapter battle
  | "pack-opened" => do
    let fields ← body.fields? ["packType"]
    return .packOpened (← Document.required fields "packType" Json.text?)
  | "achievement" => do
    let fields ← body.fields? ["id"]
    return .achievement (← Document.required fields "id" Json.text?)
  | "manual" => do
    let fields ← body.fields? ["id"]
    return .manual (← Document.required fields "id" Json.text?)
  | _ => none

/-- An event out of a value. -/
def ofJson? (place : Json.Place) (j : Json) : Option GameEvent :=
  (j.tagged? "type" (place.numbered kinds)).bind fun (kind, body) => ofBody? kind body

end GameEvent

/-! ### Triggers -/

namespace Trigger

/-- The kind of events that a trigger responds to. -/
def kind : Trigger → String
  | firstLaunch => "first-launch"
  | enterScreen _ => "enter-screen"
  | battleStart .. => "battle-start"
  | battleEnd _ => "battle-end"
  | battleAction _ => "battle-action"
  | storyProgress .. => "story-progress"
  | packOpened _ => "pack-opened"
  | achievement _ => "achievement"
  | manual _ => "manual"

/-- The details that a trigger declares. -/
def members : Trigger → List (Option (String × Json))
  | firstLaunch => []
  | enterScreen screen => [Json.field "screen" (.string screen)]
  | battleStart chapter battle =>
    [Json.optionalField "chapter" .string chapter, Json.optionalField "battle" .string battle]
  | battleEnd result => [Json.field "result" result.toJson]
  | battleAction action => [Json.field "action" (.string action)]
  | storyProgress chapter battle =>
    [Json.field "chapter" (.string chapter), Json.optionalField "battle" .string battle]
  | packOpened packType => [Json.optionalField "packType" .string packType]
  | achievement id => [Json.field "id" (.string id)]
  | manual id => [Json.field "id" (.string id)]

/-- A trigger as a value. -/
def toJson (t : Trigger) : Json := .tagged "type" t.kind t.members

/-- The trigger of a given kind with the given details. -/
def ofBody? {β : Type} [Body β] (kind : String) (body : β) : Option Trigger :=
  match kind with
  | "first-launch" => Body.fieldless? firstLaunch body
  | "enter-screen" => do
    let fields ← Document.fields? ["screen"] body
    return .enterScreen (← Document.required fields "screen" Document.text?)
  | "battle-start" => do
    let fields ← Document.fields? ["chapter", "battle"] body
    let chapter ← Document.optional fields "chapter" Document.text?
    let battle ← Document.optional fields "battle" Document.text?
    return .battleStart chapter battle
  | "battle-end" => do
    let fields ← Document.fields? ["result"] body
    return .battleEnd (← Document.required fields "result" BattleResult.read?)
  | "battle-action" => do
    let fields ← Document.fields? ["action"] body
    return .battleAction (← Document.required fields "action" Document.text?)
  | "story-progress" => do
    let fields ← Document.fields? ["chapter", "battle"] body
    let chapter ← Document.required fields "chapter" Document.text?
    let battle ← Document.optional fields "battle" Document.text?
    return .storyProgress chapter battle
  | "pack-opened" => do
    let fields ← Document.fields? ["packType"] body
    return .packOpened (← Document.optional fields "packType" Document.text?)
  | "achievement" => do
    let fields ← Document.fields? ["id"] body
    return .achievement (← Document.required fields "id" Document.text?)
  | "manual" => do
    let fields ← Document.fields? ["id"] body
    return .manual (← Document.required fields "id" Document.text?)
  | _ => none

/-- A trigger out of a value. -/
def read? {δ β : Type} [Tagged δ β] [Body β] (document : δ) : Option Trigger :=
  (Tagged.tagged? "type" document).bind fun (kind, body) => ofBody? kind body

/-- A declared detail is met by itself, one that is not declared by any. -/
def meets (declared : Option String) (actual : String) : Bool :=
  declared.all (· == actual)

/-- A trigger responds to the events of its kind with the details it declares. -/
def responds : Trigger → GameEvent → Bool
  | firstLaunch, .firstLaunch => true
  | enterScreen screen, .enterScreen actual => screen == actual
  | battleStart chapter battle, .battleStart actualChapter actualBattle =>
    meets chapter actualChapter && meets battle actualBattle
  | battleEnd result, .battleEnd actual => result == actual
  | battleAction action, .battleAction actual => action == actual
  | storyProgress chapter battle, .storyProgress actualChapter actualBattle =>
    chapter == actualChapter && meets battle actualBattle
  | packOpened packType, .packOpened actual => meets packType actual
  | achievement id, .achievement actual => id == actual
  | manual id, .manual actual => id == actual
  | _, _ => false

end Trigger

end Cutscene
