import Cutscene.Fault
import Cutscene.Run.Effect
import Cutscene.Scene

/-!
# Runs

A run plays one scene once. It executes steps against the player's progress until a step has to
wait for something, or the scene ends. It has no clock and does nothing itself: what the world
has to do is returned as a list of effects, in the order in which it came about.

A script that loops without ever waiting is broken off after `Run.budget` steps.
-/

namespace Cutscene

/-- One play of a scene. -/
structure Run where
  id : Uuid
  scene : Scene
  /-- The place of the next step, or of the one that is waited at. -/
  index : Nat := 0
  startFlags : NameMap Bool
  startCounters : NameMap Int64
  state : RunState := .running
  snapshot : Snapshot
  /-- The last snapshot that was handed over. -/
  presented : Option Snapshot := none
  /-- The ticket under which the place of the highlight is expected. -/
  highlightTicket : Option Ticket := none
  /-- How many tickets have been given out. The number goes into each ticket, where there is room
  for 64 bits, and it is taken for granted that no run gives out 2 ^ 64 tickets. -/
  tickets : Nat := 0
deriving DecidableEq

/-- What an operation on a run leads to. -/
structure Turn where
  run : Run
  progress : Progress
  effects : List Effect := []
deriving DecidableEq

/-- Where a run goes from a step that it has executed. -/
inductive Flow where
  | next
  | jump (label : String)
  | suspend (state : RunState)
  | finish
  | abort (diagnostic : Diagnostic)
deriving DecidableEq

/-- What executing a step leads to, and where the run goes from there. -/
structure Execution extends Turn where
  flow : Flow := .next

namespace Run

/-- The steps that a run may execute without waiting. -/
def budget : Nat := 10000

/-- A run that stands before its scene's first step. -/
def start (id : Uuid) (scene : Scene) (p : Progress) : Run where
  id := id
  scene := scene
  startFlags := p.flags
  startCounters := p.counters
  snapshot := { scene := some scene.id, run := some id, state := .running }

/-- The step at the run's place. -/
def currentStep? (r : Run) : Option Step := r.scene.steps[r.index]?

/-- The ticket of the current suspension. -/
def ticket? (r : Run) : Option Ticket := r.snapshot.ticket

/-- The next ticket that the run gives out. -/
def nextTicket (r : Run) : Ticket := ⟨r.id, r.index, r.tickets + 1⟩

/-- Hands the snapshot over, if it looks different from the last one. -/
def present (r : Run) : Run × List Effect :=
  let r := { r with snapshot.state := r.state }
  if r.presented.any (·.looksLike r.snapshot) then (r, [])
  else ({ r with presented := some r.snapshot }, [.present r.snapshot])

/-- Ends the run and clears what is shown. -/
def finish (r : Run) (p : Progress) (reason : EndReason) (diagnostic : Option Diagnostic) :
    Run × List Effect :=
  ({ r with
      state := .ended reason
      highlightTicket := none
      snapshot := { scene := some r.scene.id, run := some r.id } },
    [.ended {
      reason
      diagnostic
      changedFlags := NameMap.changes false r.startFlags p.flags
      changedCounters := NameMap.changes 0 r.startCounters p.counters }])

/-! ### Executing a step -/

/-- A jump to a label, or on to the next step where there is none. -/
def Flow.toLabel : Option String → Flow
  | some label => .jump label
  | none => .next

/-- A counter lies within bounds, either of which may be missing. -/
def isWithin (value : Int64) (min max : Option Int64) : Bool :=
  min.all (fun m => decide (m ≤ value)) && max.all fun m => decide (value ≤ m)

/-- Executes a step. -/
def execute (r : Run) (p : Progress) : Step → Execution
  | .label _ => { run := r, progress := p }
  | .goto target => { run := r, progress := p, flow := .jump target }
  | .branch flag thenLabel elseLabel =>
    { run := r, progress := p,
      flow := Flow.toLabel (if p.flag flag then thenLabel else elseLabel) }
  | .checkCounter counter min max thenLabel elseLabel =>
    { run := r, progress := p,
      flow := Flow.toLabel
        (if isWithin (p.counter counter) min max then thenLabel else elseLabel) }
  | .finish => { run := r, progress := p, flow := .finish }
  | .say dialogue =>
    { run := { r with snapshot.dialogue := some dialogue }, progress := p,
      flow := .suspend (.waiting .acknowledgement) }
  | .choice prompt options =>
    if options = [] then { run := r, progress := p, flow := .abort (.emptyChoice r.index) }
    else
      { run := { r with snapshot.choice := some ⟨prompt, options.map ChoiceOption.label⟩ },
        progress := p, flow := .suspend .waitingForChoice }
  | .wait ms => { run := r, progress := p, flow := .suspend (.waiting (.timer ms)) }
  | .waitForFlag flag value =>
    { run := r, progress := p,
      flow := if p.flag flag = value then .next else .suspend (.waiting (.flag flag value)) }
  | .highlight anchor maskInput =>
    { run := { r with
        tickets := r.tickets + 1
        highlightTicket := some r.nextTicket
        snapshot.highlight := some ⟨anchor, maskInput, none⟩
        snapshot.inputMasked := maskInput || r.snapshot.inputMasked },
      progress := p,
      effects := [.measure r.nextTicket anchor],
      flow := if maskInput then .suspend (.waiting .acknowledgement) else .next }
  | .clearHighlight =>
    { run := { r with highlightTicket := none, snapshot.highlight := none }, progress := p }
  | .toggleInputMask enabled =>
    { run := { r with snapshot.inputMasked := enabled.getD !r.snapshot.inputMasked },
      progress := p }
  | .hint text anchor =>
    { run := { r with snapshot.hint := some ⟨text, anchor⟩ }, progress := p }
  | .setFlag flag value =>
    { run := r, progress := p.setFlag flag value,
      effects := [.flagChanged flag (p.flag flag) value] }
  | .setCounter counter value =>
    { run := r, progress := p.setCounter counter value,
      effects := [.counterChanged counter (p.counter counter) value] }
  | .addToCounter counter amount =>
    let value := Progress.saturatingAdd (p.counter counter) amount
    { run := r, progress := p.setCounter counter value,
      effects := [.counterChanged counter (p.counter counter) value] }
  | .background asset =>
    { run := { r with snapshot.background := some asset }, progress := p }
  | .portrait character expression position =>
    { run := { r with
        snapshot.portraits := r.snapshot.portraits.insert character ⟨expression, position⟩ },
      progress := p }
  | .clearPortrait character =>
    { run := { r with snapshot.portraits := r.snapshot.portraits.erase character },
      progress := p }
  | .overlay asset => { run := { r with snapshot.overlay := asset }, progress := p }
  | .playMusic track => { run := { r with snapshot.music := some track }, progress := p }
  | .stopMusic => { run := { r with snapshot.music := none }, progress := p }
  | .playSound sound => { run := { r with snapshot.sound := some sound }, progress := p }
  | .command command => { run := r, progress := p, effects := [.dispatch command] }

/-- Goes on to the first label of a name. -/
def jump (r : Run) (p : Progress) (target : String) : Run × List Effect :=
  match Scene.findLabel? r.scene.steps target with
  | some index => ({ r with index }, [])
  | none => r.finish p .interrupted (some (.undefinedLabel r.index target))

/-- Goes where a step leads. -/
def follow (r : Run) (p : Progress) : Flow → Run × List Effect
  | .next => ({ r with index := r.index + 1 }, [])
  | .jump target => r.jump p target
  | .suspend state =>
    ({ r with state, tickets := r.tickets + 1, snapshot.ticket := some r.nextTicket }, [])
  | .finish => r.finish p .completed none
  | .abort diagnostic => r.finish p .interrupted (some diagnostic)

/-- Executes the step at the run's place and goes where it leads. Behind the last step the
scene ends. A sound is shown by the one step that plays it. -/
def step (r : Run) (p : Progress) : Turn :=
  let r := { r with snapshot.sound := none }
  match r.currentStep? with
  | none =>
    let (r, ending) := r.finish p .completed none
    let (r, shown) := r.present
    { run := r, progress := p, effects := ending ++ shown }
  | some s =>
    let done := r.execute p s
    let (r, followed) := done.run.follow done.progress done.flow
    let (r, shown) := r.present
    { run := r, progress := done.progress, effects := done.effects ++ followed ++ shown }

/-- Executes steps until the run no longer is running, at most as many as are left. -/
def loop : (left : Nat) → Run → Progress → Turn
  | 0, r, p =>
    if r.state = .running then
      let (r, ending) := r.finish p .interrupted (some (.budget budget))
      { run := r, progress := p, effects := ending }
    else { run := r, progress := p }
  | left + 1, r, p =>
    if r.state = .running then
      let now := r.step p
      let later := loop left now.run now.progress
      { later with effects := now.effects ++ later.effects }
    else { run := r, progress := p }

/-! ### Operations -/

/-- Executes steps until the run has to wait or has ended. -/
def advance (r : Run) (p : Progress) : Turn :=
  let turn := loop budget r p
  let (r, shown) := turn.run.present
  { run := r, progress := turn.progress, effects := turn.effects ++ shown }

/-- The run no longer waits. -/
def resume (r : Run) : Run := { r with state := .running, snapshot.ticket := none }

/-- Goes on with the step after the one that was waited at. -/
def proceed (r : Run) (p : Progress) : Turn :=
  { r.resume with index := r.index + 1 }.advance p

/-- Writes flags in ascending order. -/
def writeFlags (p : Progress) (flags : NameMap Bool) : Progress × List Effect :=
  flags.toList.foldl
    (fun (p, effects) (name, value) =>
      (p.setFlag name value, effects ++ [.flagChanged name (p.flag name) value]))
    (p, [])

/-- Takes an option of the pending choice: writes its flags and goes where it leads. -/
def choose (r : Run) (p : Progress) (option : Nat) : Except Fault Turn :=
  match r.state, r.currentStep? with
  | .waitingForChoice, some (.choice _ options) =>
    match options[option]? with
    | some chosen =>
      let (p, written) := writeFlags p chosen.setFlags
      let r := { r with snapshot.choice := none }.resume
      let (r, followed) := r.follow p (Flow.toLabel chosen.goto)
      let turn := r.advance p
      .ok { turn with effects := written ++ followed ++ turn.effects }
    | none =>
      .error (.validation ("choice option " ++ toString option ++ " is out of range (" ++
        toString options.length ++ " options)"))
  | _, _ => .error (.validation "no choice is pending")

/-- The current step is a highlight that masks everything else. -/
def isAtMaskedHighlight (r : Run) : Bool :=
  match r.currentStep? with
  | some (.highlight _ true) => true
  | _ => false

/-- Acknowledges the pending line or masked highlight. -/
def acknowledge? (r : Run) (p : Progress) : Option Turn :=
  if r.state = .waiting .acknowledgement then
    let masked := r.isAtMaskedHighlight
    let r := { r with snapshot.dialogue := none }
    let r := if masked then
        { r with highlightTicket := none, snapshot.highlight := none,
                 snapshot.inputMasked := false }
      else r
    some (r.proceed p)
  else none

/-- Ends a timed wait, if the ticket is that of the wait. -/
def resumeTimer? (r : Run) (p : Progress) (ticket : Ticket) : Option Turn :=
  match r.state with
  | .waiting (.timer _) => if r.ticket? = some ticket then some (r.proceed p) else none
  | _ => none

/-- Ends the wait for a flag, if the flag now has the awaited value. -/
def notifyFlag? (r : Run) (p : Progress) : Option Turn :=
  match r.state with
  | .waiting (.flag name value) => if p.flag name = value then some (r.proceed p) else none
  | _ => none

/-- Breaks off a run that has not ended yet. -/
def interrupt (r : Run) (p : Progress) : Run × List Effect :=
  if r.state.isActive then
    let (r, ending) := r.finish p .interrupted none
    let (r, shown) := r.present
    (r, ending ++ shown)
  else (r, [])

/-- Notes the place of the highlight that a ticket was given out for. Answers with the snapshot
if it changed. -/
def applyGeometry (r : Run) (ticket : Ticket) (rect : Option Rect) : Run × Option Snapshot :=
  if r.highlightTicket = some ticket then
    match r.snapshot.highlight with
    | some highlight =>
      let (r, shown) := { r with snapshot.highlight := some { highlight with rect } }.present
      (r, if shown = [] then none else some r.snapshot)
    | none => (r, none)
  else (r, none)

end Run

end Cutscene
