import Cutscene.Anchor
import Cutscene.Event
import Cutscene.Run
import Cutscene.Selection
import Cutscene.Store

/-!
# Directors

A director decides which scene is played, plays it, and keeps the player's progress. It is told
what happens in the game and what the player does; it tells the game what to show and what to
do, and it keeps a log of events from which its progress can be computed again.

At most one scene is played at a time. A scene that starts breaks off the one before it.
Whatever changes progress marks it as unsaved (`dirty`) until a store has taken it.
-/

namespace Cutscene

/-- The identifiers that a director gives out: one for itself, and one for each run and each
event, counted from 0. -/
structure Identities where
  session : Uuid
  run : Nat → Uuid
  event : Nat → Uuid

/-- Identifiers that grow out of three random numbers of 128 bits. -/
def Identities.ofRandom (seed : Nat) : Identities where
  session := .ofRandom seed 0
  run := .ofRandom (seed >>> 128)
  event := .ofRandom (seed >>> 256)

/-- What a director relies on in the game around it, which is in a state of type `σ`. -/
structure Host (σ : Type) where
  ids : Identities
  /-- Gives the game a command, which it may refuse. -/
  dispatch : HostCommand → σ → Except Fault Unit × σ
  /-- Asks for the place of something on the screen. -/
  measure : String → σ → Measurement × σ
  /-- Shows something. -/
  present : Snapshot → σ → σ
  /-- The time of day. -/
  now : σ → Instant × σ

/-- A director and the game around it. -/
structure Director (σ : Type) where
  stage : σ
  roster : Roster := .empty
  progress : Progress := .empty
  ns : Namespace := .anonymous
  /-- There is progress that no store has taken yet. -/
  dirty : Bool := false
  /-- The scene that is played, or the last one that was. -/
  run : Option Run := none
  /-- How many runs have been started. -/
  started : Nat := 0
  /-- The highlights whose place has not been asked for yet. -/
  pending : List (Ticket × String) := []
  /-- How many events have been recorded. The number goes into each event, where there is room for
  63 bits, and it is taken for granted that no director records 2 ^ 63 events. -/
  recorded : Nat := 0
  /-- The events that have not been collected yet. -/
  events : Array Event := #[]

namespace Director

variable {σ : Type}

/-! ### What there is to see -/

/-- The run that has not ended. -/
def activeRun? (d : Director σ) : Option Run := d.run.filter (·.state.isActive)

/-- The id of the scene that is played. -/
def active? (d : Director σ) : Option String := d.activeRun?.map (·.scene.id)

/-- What the run is doing. -/
def state (d : Director σ) : RunState := d.run.elim .idle Run.state

/-- What is shown. -/
def snapshot (d : Director σ) : Snapshot := d.run.elim {} Run.snapshot

/-- The ticket of the current suspension. -/
def ticket? (d : Director σ) : Option Ticket := d.run.bind Run.ticket?

/-- The timed wait that has to be ended, and after how many milliseconds. -/
def timer? (d : Director σ) : Option (Ticket × UInt64) :=
  match d.state with
  | .waiting (.timer ms) => d.ticket?.map (·, ms)
  | _ => none

/-- The scenes that an event would start, best first. -/
def peek (d : Director σ) (e : GameEvent) : List String :=
  (d.roster.eligible e d.progress d.active?).map Scene.id

variable (h : Host σ)

/-- The run that is played, or the session. -/
def correlation (d : Director σ) : Uuid := d.activeRun?.elim h.ids.session Run.id

/-! ### Carrying out effects -/

/-- Reads the time. -/
def time (d : Director σ) : Instant × Director σ :=
  let (time, stage) := h.now d.stage
  (time, { d with stage })

/-- Shows something. -/
def present (d : Director σ) (s : Snapshot) : Director σ :=
  { d with stage := h.present s d.stage }

/-- Records an event. -/
def record (d : Director σ) (correlation : Uuid) (occurrence : Occurrence) : Director σ :=
  let (time, d) := d.time h
  let metadata : Metadata :=
    { id := h.ids.event d.recorded
      name := occurrence.name
      correlation
      number := d.recorded + 1
      time }
  { d with recorded := d.recorded + 1, events := d.events.push ⟨metadata, occurrence⟩ }

/-- Notes that a run ended. A scene that ended by itself is completed. -/
def conclude (d : Director σ) (scene : String) (run : Uuid) (ending : Ending) : Director σ :=
  let d := { d with pending := d.pending.filter (·.1.run ≠ run) }
  let d :=
    if ending.reason = .completed then
      let (time, d) := d.time h
      { d with progress := d.progress.complete scene time.stamp, dirty := true }
    else d
  d.record h run (.sceneEnded
    { scene
      run
      reason := ending.reason
      diagnostic := ending.diagnostic.map Diagnostic.message
      changedFlags := ending.changedFlags
      changedCounters := ending.changedCounters })

/-- Carries out one effect of a run. A command that the game refuses does not stop the run. -/
def carryOut (scene : String) (run : Uuid) (d : Director σ) : Effect → Director σ
  | .flagChanged flag old new =>
    { d with dirty := true }.record h run (.flagChanged flag old new)
  | .counterChanged counter old new =>
    { d with dirty := true }.record h run (.counterChanged counter old new)
  | .dispatch command =>
    let (result, stage) := h.dispatch command d.stage
    { d with stage }.record h run <|
      match result with
      | .ok () => .commandDispatched scene command
      | .error fault => .commandFailed scene command fault.message
  | .measure ticket anchor => { d with pending := d.pending ++ [(ticket, anchor)] }
  | .present s => d.present h s
  | .ended ending => d.conclude h scene run ending

/-- Takes over what an operation on the run has led to. -/
def follow (d : Director σ) (run : Run) (progress : Progress) (effects : List Effect) :
    Director σ :=
  effects.foldl (carryOut h run.scene.id run.id) { d with run := some run, progress }

/-- Takes over a turn of the run, if there was one. -/
def take (d : Director σ) : Option Turn → Bool × Director σ
  | some turn => (true, d.follow h turn.run turn.progress turn.effects)
  | none => (false, d)

/-! ### Scenes -/

/-- Registers a scene, and tells whether it took the place of another one. -/
def register (d : Director σ) (s : Scene) : Bool × Director σ :=
  (d.roster.contains s.id, { d with roster := d.roster.upsert s })

/-- Takes a scene out, and tells whether there was one. -/
def unregister (d : Director σ) (id : String) : Bool × Director σ :=
  (d.roster.contains id, { d with roster := d.roster.remove id })

/-- Breaks off the scene that is played, if there is one. -/
def stop (d : Director σ) : Bool × Director σ :=
  match d.activeRun? with
  | some run =>
    let (run, effects) := run.interrupt d.progress
    (true, d.follow h run d.progress effects)
  | none => (false, d)

/-- Starts a scene. -/
def play (d : Director σ) (scene : Scene) : Director σ :=
  let (_, d) := d.stop h
  let run := Run.start (h.ids.run d.started) scene d.progress
  let (time, d) := d.time h
  let d := { d with
    started := d.started + 1
    progress := d.progress.touch scene.id time.stamp
    dirty := true }
  let d := d.record h run.id (.sceneStarted scene.id scene.version run.id)
  let turn := run.advance d.progress
  d.follow h turn.run turn.progress turn.effects

/-- Starts the best scene that an event may start, and tells which one. -/
def notice (d : Director σ) (e : GameEvent) : Option String × Director σ :=
  match d.roster.select? e d.progress d.active? with
  | some scene => (some scene.id, d.play h scene)
  | none => (none, d)

/-- Starts the scene with an id, whether or not an event would. -/
def start (d : Director σ) (id : String) : Except Fault Unit × Director σ :=
  match d.roster.get? id with
  | some scene => (.ok (), d.play h scene)
  | none => (.error (.sceneNotFound id), d)

/-! ### Going on -/

/-- Takes an option of the pending choice. -/
def choose (d : Director σ) (option : Nat) : Except Fault Unit × Director σ :=
  match d.run with
  | some run =>
    match run.choose d.progress option with
    | .ok turn => (.ok (), d.follow h turn.run turn.progress turn.effects)
    | .error fault => (.error fault, d)
  | none => (.error (.validation "no scene is active"), d)

/-- Acknowledges the pending line or masked highlight. -/
def acknowledge (d : Director σ) : Bool × Director σ :=
  d.take h (d.run.bind (·.acknowledge? d.progress))

/-- Ends the timed wait that a ticket was given out for. -/
def resume (d : Director σ) (ticket : Ticket) : Bool × Director σ :=
  d.take h (d.run.bind (·.resumeTimer? d.progress ticket))

/-- Writes a flag and lets a run go on that waits for it. -/
def setFlag (d : Director σ) (flag : String) (value : Bool) : Director σ :=
  let old := d.progress.flag flag
  let d := { d with progress := d.progress.setFlag flag value, dirty := true }
  let d := d.record h (d.correlation h) (.flagChanged flag old value)
  (d.take h (d.run.bind (·.notifyFlag? d.progress))).2

/-- Writes a counter. -/
def setCounter (d : Director σ) (counter : String) (value : Int64) : Director σ :=
  let old := d.progress.counter counter
  let d := { d with progress := d.progress.setCounter counter value, dirty := true }
  d.record h (d.correlation h) (.counterChanged counter old value)

/-- Collects the events that have been recorded since the last time. -/
def takeEvents (d : Director σ) : Array Event × Director σ :=
  (d.events, { d with events := #[] })

/-! ### Geometry -/

/-- Asks for the place of a highlight and gives it to the run that wants it. -/
def locate (d : Director σ) (ticket : Ticket) (anchor : String) : Director σ :=
  let (measured, stage) := h.measure anchor d.stage
  let d := { d with stage }
  match d.run with
  | some run =>
    if run.id = ticket.run then
      let (run, shown) := run.applyGeometry ticket measured.usable?
      let d := { d with run := some run }
      shown.elim d (d.present h)
    else d
  | none => d

/-- Asks for the places of all highlights that wait for it. -/
def resolve (d : Director σ) : Director σ :=
  d.pending.foldl (fun d (ticket, anchor) => d.locate h ticket anchor) { d with pending := [] }

/-! ### Saving and loading -/

variable {m : Type → Type} [Monad m] (store : Store m)

/-- Turns to another namespace. Progress that cannot be loaded is taken to be none. -/
def load (d : Director σ) (ns : Namespace) : m (Director σ) := do
  let (_, d) := d.stop h
  let loaded ← store.load ns
  let progress := match loaded with
    | .ok (some progress) => progress
    | .ok none | .error _ => .empty
  return { d with progress, ns, dirty := false }

/-- Saves progress if there is something to save. What could not be saved remains to be. -/
def flush (d : Director σ) : m (Bool × Director σ) :=
  if d.dirty then do
    match ← store.save d.ns d.progress with
    | .ok () => return (true, { d with dirty := false })
    | .error _ => return (false, d)
  else return (true, d)

/-- Asks for the places of highlights, then saves. -/
def settle (d : Director σ) : m (Bool × Director σ) := (d.resolve h).flush store

end Director

end Cutscene
