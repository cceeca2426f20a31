import Cutscene.HostCommand

/-!
# Steps

A scene is a flat list of steps. Labels and jumps give it its shape, other steps show
something, wait for something, write progress or give the game a command.
-/

namespace Cutscene

/-- A line that someone says. -/
structure Dialogue where
  speaker : Option String := none
  text : String
  portrait : Option String := none
deriving DecidableEq

namespace Dialogue

/-- The fields of a line. -/
def members (d : Dialogue) : List (Option (String × Json)) :=
  [Json.optionalField "speaker" .string d.speaker, Json.field "text" (.string d.text),
    Json.optionalField "portrait" .string d.portrait]

/-- A line as a record. -/
def toJson (d : Dialogue) : Json := .ofMembers d.members

/-- A line out of a record. -/
def read? {δ : Type} [Document δ] (document : δ) : Option Dialogue := do
  let fields ← Document.fields? ["speaker", "text", "portrait"] document
  let speaker ← Document.optional fields "speaker" Document.text?
  let text ← Document.required fields "text" Document.text?
  let portrait ← Document.optional fields "portrait" Document.text?
  return { speaker, text, portrait }

end Dialogue

/-- One of the options of a choice: where it leads and which flags it writes. -/
structure ChoiceOption where
  label : String
  goto : Option String := none
  setFlags : NameMap Bool := ∅
deriving DecidableEq

namespace ChoiceOption

/-- An option as a record. -/
def toJson (o : ChoiceOption) : Json :=
  .ofMembers [Json.field "label" (.string o.label), Json.optionalField "goto" .string o.goto,
    Json.fieldUnless o.setFlags.isEmpty "setFlags" (.ofMap .bool o.setFlags)]

/-- An option out of a record. -/
def read? {δ : Type} [Document δ] (document : δ) : Option ChoiceOption := do
  let fields ← Document.fields? ["label", "goto", "setFlags"] document
  let label ← Document.required fields "label" Document.text?
  let goto ← Document.optional fields "goto" Document.text?
  let setFlags ← Document.defaulted fields "setFlags" ∅ (Document.map? Document.bool?)
  return { label, goto, setFlags }

end ChoiceOption

/-- A step of a scene. -/
inductive Step where
  /-- A place to jump to. -/
  | label (name : String)
  /-- Jumps to a label. -/
  | goto (label : String)
  /-- Jumps by the value of a flag; a missing label goes on with the next step. -/
  | branch (flag : String) (thenLabel elseLabel : Option String)
  /-- Jumps by whether a counter lies within bounds, either of which may be missing. -/
  | checkCounter (counter : String) (min max : Option Int64) (thenLabel elseLabel : Option String)
  /-- Ends the scene. -/
  | finish
  /-- Shows a line until it is acknowledged. -/
  | say (dialogue : Dialogue)
  /-- Lets the player choose. -/
  | choice (prompt : Option String) (options : List ChoiceOption)
  /-- Waits for some milliseconds. -/
  | wait (ms : UInt64)
  /-- Waits until a flag has a value. -/
  | waitForFlag (flag : String) (value : Bool)
  /-- Points at something on the screen; with a mask nothing else can be used until the
  highlight is acknowledged. -/
  | highlight (anchor : String) (maskInput : Bool)
  /-- Points at nothing any more. -/
  | clearHighlight
  /-- Switches the mask on or off, or over. -/
  | toggleInputMask (enabled : Option Bool)
  /-- Shows a hint. -/
  | hint (text : String) (anchor : Option String)
  /-- Writes a flag. -/
  | setFlag (flag : String) (value : Bool)
  /-- Writes a counter. -/
  | setCounter (counter : String) (value : Int64)
  /-- Adds to a counter. -/
  | addToCounter (counter : String) (amount : Int64)
  /-- Shows a background. -/
  | background (asset : String)
  /-- Shows a character. -/
  | portrait (character : String) (expression position : Option String)
  /-- Hides a character. -/
  | clearPortrait (character : String)
  /-- Shows something above the scene, or nothing any more. -/
  | overlay (asset : Option String)
  /-- Plays music. -/
  | playMusic (track : String)
  /-- Stops the music. -/
  | stopMusic
  /-- Plays a sound once. -/
  | playSound (sound : String)
  /-- Gives the game a command. -/
  | command (command : HostCommand)
deriving DecidableEq

namespace Step

/-- The kind of a step, under which it is written. -/
def kind : Step → String
  | label _ => "label"
  | goto _ => "goto"
  | branch .. => "if"
  | checkCounter .. => "checkProgress"
  | finish => "end"
  | say _ => "say"
  | choice .. => "choice"
  | wait _ => "wait"
  | waitForFlag .. => "waitForFlag"
  | highlight .. => "highlight"
  | clearHighlight => "clearHighlight"
  | toggleInputMask _ => "toggleInputMask"
  | hint .. => "hint"
  | setFlag .. => "setFlag"
  | setCounter .. => "setProgress"
  | addToCounter .. => "incrementProgress"
  | background _ => "background"
  | portrait .. => "portrait"
  | clearPortrait _ => "clearPortrait"
  | overlay _ => "overlay"
  | playMusic _ => "playMusic"
  | stopMusic => "stopMusic"
  | playSound _ => "playSound"
  | command c => c.form

/-- The command that a step gives. -/
def command? : Step → Option HostCommand
  | command c => some c
  | _ => none

/-- The labels that a step may jump to, in the order in which it names them. -/
def jumpTargets : Step → List String
  | goto target => [target]
  | branch _ thenLabel elseLabel | checkCounter _ _ _ thenLabel elseLabel =>
    thenLabel.toList ++ elseLabel.toList
  | choice _ options => options.filterMap ChoiceOption.goto
  | _ => []

/-- A choice that leaves the player without an option. -/
def isEmptyChoice : Step → Bool
  | choice _ [] => true
  | _ => false

/-! ### Records -/

/-- The fields of a step. -/
def members : Step → List (Option (String × Json))
  | label name => [Json.field "name" (.string name)]
  | goto target => [Json.field "label" (.string target)]
  | branch flag thenLabel elseLabel =>
    [Json.field "flag" (.string flag), Json.optionalField "then" .string thenLabel,
      Json.optionalField "else" .string elseLabel]
  | checkCounter counter min max thenLabel elseLabel =>
    [Json.field "key" (.string counter), Json.optionalField "min" Json.ofInt64 min,
      Json.optionalField "max" Json.ofInt64 max, Json.optionalField "then" .string thenLabel,
      Json.optionalField "else" .string elseLabel]
  | finish | clearHighlight | stopMusic => []
  | say dialogue => dialogue.members
  | choice prompt options =>
    [Json.optionalField "prompt" .string prompt,
      Json.field "options" (.array (options.map ChoiceOption.toJson))]
  | wait ms => [Json.field "ms" (.int ms.toNat)]
  | waitForFlag flag value =>
    [Json.field "flag" (.string flag), Json.field "value" (.bool value)]
  | highlight anchor maskInput =>
    [Json.field "anchorId" (.string anchor), Json.field "maskInput" (.bool maskInput)]
  | toggleInputMask enabled => [Json.optionalField "enabled" .bool enabled]
  | hint text anchor =>
    [Json.field "text" (.string text), Json.optionalField "anchorId" .string anchor]
  | setFlag flag value => [Json.field "flag" (.string flag), Json.field "value" (.bool value)]
  | setCounter counter value =>
    [Json.field "key" (.string counter), Json.field "value" (Json.ofInt64 value)]
  | addToCounter counter amount =>
    [Json.field "key" (.string counter), Json.field "by" (Json.ofInt64 amount)]
  | background asset => [Json.field "asset" (.string asset)]
  | portrait character expression position =>
    [Json.field "character" (.string character),
      Json.optionalField "expression" .string expression,
      Json.optionalField "position" .string position]
  | clearPortrait character => [Json.field "character" (.string character)]
  | overlay asset => [Json.optionalField "asset" .string asset]
  | playMusic track => [Json.field "track" (.string track)]
  | playSound sound => [Json.field "sound" (.string sound)]
  | command c => c.members

/-- A step as a value. -/
def toJson (s : Step) : Json := .tagged "type" s.kind s.members

/-- The step of a given kind with the given fields. -/
def ofBody? {β : Type} [Body β] (kind : String) (body : β) : Option Step :=
  match kind with
  | "label" => do
    let fields ← Document.fields? ["name"] body
    return .label (← Document.required fields "name" Document.text?)
  | "goto" => do
    let fields ← Document.fields? ["label"] body
    return .goto (← Document.required fields "label" Document.text?)
  | "if" => do
    let fields ← Document.fields? ["flag", "then", "else"] body
    let flag ← Document.required fields "flag" Document.text?
    let thenLabel ← Document.optional fields "then" Document.text?
    let elseLabel ← Document.optional fields "else" Document.text?
    return .branch flag thenLabel elseLabel
  | "checkProgress" => do
    let fields ← Document.fields? ["key", "min", "max", "then", "else"] body
    let counter ← Document.required fields "key" Document.text?
    let min ← Document.optional fields "min" Document.int64?
    let max ← Document.optional fields "max" Document.int64?
    let thenLabel ← Document.optional fields "then" Document.text?
    let elseLabel ← Document.optional fields "else" Document.text?
    return .checkCounter counter min max thenLabel elseLabel
  | "end" => Body.fieldless? finish body
  | "say" => (Dialogue.read? body).map say
  | "choice" => do
    let fields ← Document.fields? ["prompt", "options"] body
    let prompt ← Document.optional fields "prompt" Document.text?
    let options ← Document.required fields "options" (Document.list? ChoiceOption.read?)
    return .choice prompt options
  | "wait" => do
    let fields ← Document.fields? ["ms"] body
    return .wait (← Document.required fields "ms" Document.uint64?)
  | "waitForFlag" => do
    let fields ← Document.fields? ["flag", "value"] body
    let flag ← Document.required fields "flag" Document.text?
    let value ← Document.defaulted fields "value" true Document.bool?
    return .waitForFlag flag value
  | "highlight" => do
    let fields ← Document.fields? ["anchorId", "maskInput"] body
    let anchor ← Document.required fields "anchorId" Document.text?
    let maskInput ← Document.defaulted fields "maskInput" false Document.bool?
    return .highlight anchor maskInput
  | "clearHighlight" => Body.fieldless? clearHighlight body
  | "toggleInputMask" => do
    let fields ← Document.fields? ["enabled"] body
    return .toggleInputMask (← Document.optional fields "enabled" Document.bool?)
  | "hint" => do
    let fields ← Document.fields? ["text", "anchorId"] body
    let text ← Document.required fields "text" Document.text?
    let anchor ← Document.optional fields "anchorId" Document.text?
    return .hint text anchor
  | "setFlag" => do
    let fields ← Document.fields? ["flag", "value"] body
    let flag ← Document.required fields "flag" Document.text?
    let value ← Document.required fields "value" Document.bool?
    return .setFlag flag value
  | "setProgress" => do
    let fields ← Document.fields? ["key", "value"] body
    let counter ← Document.required fields "key" Document.text?
    let value ← Document.required fields "value" Document.int64?
    return .setCounter counter value
  | "incrementProgress" => do
    let fields ← Document.fields? ["key", "by"] body
    let counter ← Document.required fields "key" Document.text?
    let amount ← Document.defaulted fields "by" 1 Document.int64?
    return .addToCounter counter amount
  | "background" => do
    let fields ← Document.fields? ["asset"] body
    return .background (← Document.required fields "asset" Document.text?)
  | "portrait" => do
    let fields ← Document.fields? ["character", "expression", "position"] body
    let character ← Document.required fields "character" Document.text?
    let expression ← Document.optional fields "expression" Document.text?
    let position ← Document.optional fields "position" Document.text?
    return .portrait character expression position
  | "clearPortrait" => do
    let fields ← Document.fields? ["character"] body
    return .clearPortrait (← Document.required fields "character" Document.text?)
  | "overlay" => do
    let fields ← Document.fields? ["asset"] body
    return .overlay (← Document.optional fields "asset" Document.text?)
  | "playMusic" => do
    let fields ← Document.fields? ["track"] body
    return .playMusic (← Document.required fields "track" Document.text?)
  | "stopMusic" => Body.fieldless? stopMusic body
  | "playSound" => do
    let fields ← Document.fields? ["sound"] body
    return .playSound (← Document.required fields "sound" Document.text?)
  | kind => (HostCommand.ofBody? kind body).map command

/-- A step out of a value. -/
def read? {δ β : Type} [Tagged δ β] [Body β] (document : δ) : Option Step :=
  (Tagged.tagged? "type" document).bind fun (kind, body) => ofBody? kind body

end Step

end Cutscene
