import Cutscene.Anchor.Watch
import Cutscene.Console.Output
import Cutscene.Console.Request
import Cutscene.Director

/-!
# Consoles

A console puts a director at the disposal of a program that writes requests and reads what the
director has to say. It takes one message at a time: a line of input, a timer that has run out,
or anchors that have become ready. When it has done what a message asks for, it saves progress,
sets a timer for the wait that is pending, and says all that has come about, the events last.

A console has no clock of its own. Timers and polls are kept on agendas, and `next?` tells what
message time brings next.
-/

namespace Cutscene

/-- What a console knows of the world. -/
structure Stage where
  /-- The time of day. -/
  time : Instant
  /-- The anchors and the polls over them, and the time that has passed, in milliseconds. -/
  watch : Watch := {}
  /-- What has to be said. -/
  outputs : Array Output := #[]

/-- A console. -/
structure Console where
  director : Director Stage
  /-- The ticket of the last timer that was set, until that timer runs out. -/
  armed : Option Ticket := none
  /-- The timers that have not run out yet. -/
  timers : Agenda Ticket := []

/-- What reaches a console. -/
inductive Message where
  | line (text : String)
  | timer (ticket : Ticket)
  | ready (anchors : List String)
deriving DecidableEq

namespace Stage

/-- Puts something down that has to be said. -/
def say (stage : Stage) (out : Output) : Stage :=
  { stage with outputs := stage.outputs.push out }

/-- The game at the other end of a console: it is told everything and never refuses. -/
def host (ids : Identities) : Host Stage where
  ids := ids
  dispatch command stage := (.ok (), stage.say (.command command))
  measure name stage :=
    let (measured, anchors) := stage.watch.anchors.measure name
    (measured, { stage with watch.anchors := anchors })
  present snapshot stage := stage.say (.snapshot snapshot)
  now stage := (stage.time, stage)

end Stage

namespace Console

/-- A console that starts at a time of day. -/
def start (time : Instant) : Console where
  director := { stage := { time } }

/-- The time that has passed. -/
def now (c : Console) : Nat := c.director.stage.watch.now

/-- Puts something down that has to be said. -/
def say (c : Console) (out : Output) : Console :=
  { c with director.stage := c.director.stage.say out }

/-- Tells that a request could not be met. -/
def report (c : Console) (fault : Fault) : Console := c.say (.error fault.message)

/-- Takes over what a director has done, or tells that it was refused. -/
def settled (c : Console) : Except Fault Unit × Director Stage → Console
  | (.ok (), director) => { c with director }
  | (.error fault, director) => { c with director }.report fault

/-- Takes over what a director has done, or tells why it was refused. -/
def accepted (c : Console) (refusal : String) : Bool × Director Stage → Console
  | (true, director) => { c with director }
  | (false, director) => { c with director }.report (.validation refusal)

/-- Registers scenes. -/
def registerScenes (c : Console) (scenes : List Scene) : Console :=
  { c with director := scenes.foldl (fun d scene => (d.register scene).2) c.director }

variable (h : Host Stage)

/-- Does what a request asks for. -/
def meet (c : Console) : Request → Console
  | .event e => { c with director := (c.director.notice h e).2 }
  | .peek e => c.say (.eligible (c.director.peek e))
  | .start scene => c.settled (c.director.start h scene)
  | .choose option => c.settled (c.director.choose h option)
  | .acknowledge => c.accepted "nothing awaits an acknowledgement" (c.director.acknowledge h)
  | .resume ticket =>
    match ticket.or (c.director.timer?.map Prod.fst) with
    | some ticket => c.accepted "stale resume ticket" (c.director.resume h ticket)
    | none => c.report (.validation "no wait is pending")
  | .setFlag flag value => { c with director := c.director.setFlag h flag value }
  | .setCounter counter value => { c with director := c.director.setCounter h counter value }
  | .stop => { c with director := (c.director.stop h).2 }
  | .registerAnchor anchor rect =>
    { c with
      director.stage.watch.anchors := c.director.stage.watch.anchors.insert anchor { rect } }
  | .unregisterAnchor anchor =>
    { c with director.stage.watch.anchors := c.director.stage.watch.anchors.erase anchor }
  | .waitForAnchors anchors options =>
    { c with director.stage.watch := c.director.stage.watch.start anchors options }

/-- What is said of a line that is no request. These words are the beginning of the full message,
which goes on behind a colon with what could not be read. -/
def invalidRequest : Output := .error "invalid request"

/-- Does what a line asks for. A blank line asks for nothing. -/
def meetLine (c : Console) (line : String) : Console :=
  let line := Blank.trim line
  if line = "" then c
  else
    match Request.ofLine? line with
    | some request => c.meet h request
    | none => c.say invalidRequest

/-- Does what a message asks for. -/
def react (c : Console) : Message → Console
  | .line text => c.meetLine h text
  | .timer ticket =>
    { c with
      armed := if c.armed = some ticket then none else c.armed
      director := (c.director.resume h ticket).2 }
  | .ready anchors => c.say (.anchorsReady anchors)

/-- Sets a timer for the wait that is pending, unless there is one. -/
def arm (c : Console) : Console :=
  match c.director.timer? with
  | some (ticket, ms) =>
    if c.armed = some ticket then c
    else { c with
      armed := some ticket
      timers := c.timers.insert (c.now + ms.toNat) ticket }
  | none => c

/-- Says what has to be said: what was put down, and then the events. -/
def drain (c : Console) : List Output × Console :=
  let (events, director) := c.director.takeEvents
  (director.stage.outputs.toList ++ events.toList.map .event,
    { c with director := { director with stage.outputs := #[] } })

variable {m : Type → Type} [Monad m] (store : Store m)

/-- Turns to a namespace. -/
def load (c : Console) (ns : Namespace) : m Console := do
  return { c with director := ← c.director.load h store ns }

/-- Takes a message and answers with all that there is to say. -/
def handle (c : Console) (message : Message) : m (List Output × Console) := do
  let c := c.react h message
  let (_, director) ← c.director.settle h store
  return { c with director }.arm.drain

/-- Takes messages, one after the other. -/
def handleAll (c : Console) : List Message → m (List Output × Console)
  | [] => return ([], c)
  | message :: rest => do
    let (said, c) ← c.handle h store message
    let (more, c) ← handleAll c rest
    return (said ++ more, c)

/-- The input has ended: saves what is not saved yet, and says what is left to be said. -/
def close (c : Console) : m (List Output × Console) := do
  let (_, director) ← c.director.flush store
  return { c with director }.drain

/-! ### What time brings -/

/-- The next message that time brings, up to a time. Of a timer and a poll that are due at one
time, the timer comes first. -/
def next? (c : Console) (time : Nat) : Option Message × Console :=
  let timer := c.timers.due?.filter (· ≤ time)
  let watch := c.director.stage.watch.runWhile fun w =>
    w.ready.isEmpty && (w.agenda.due?).any fun t => t ≤ time && timer.all (t < ·)
  match watch.ready, c.timers, timer with
  | i :: rest, _, _ =>
    (some (.ready ((watch.polls[i]?).elim [] Poll.anchors)),
      { c with director.stage.watch := { watch with ready := rest } })
  | [], (at_, ticket) :: timers, some _ =>
    (some (.timer ticket),
      { c with timers, director.stage.watch := { watch with now := max watch.now at_ } })
  | [], _, _ => (none, { c with director.stage.watch := watch.advanceTo time })

/-- Takes the messages that time brings up to a time, so many at most. -/
def advanceTo (time : Nat) : (limit : Nat) → Console → m (List Output × Console)
  | 0, c => return ([], c)
  | limit + 1, c => do
    match c.next? time with
    | (none, c) => return ([], c)
    | (some message, c) =>
      let (said, c) ← c.handle h store message
      let (more, c) ← advanceTo time limit c
      return (said ++ more, c)

end Console

end Cutscene
