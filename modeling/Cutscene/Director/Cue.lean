import Cutscene.Director

/-!
# Cues

All that a director can be told, as data. What a director does over time is the outcome of a
list of cues.
-/

namespace Cutscene

/-- Something that a director is told. -/
inductive Cue where
  | load (ns : Namespace)
  | flush
  | resolve
  | settle
  | register (scene : Scene)
  | unregister (id : String)
  | notice (event : GameEvent)
  | start (id : String)
  | stop
  | choose (option : Nat)
  | acknowledge
  | resume (ticket : Ticket)
  | setFlag (flag : String) (value : Bool)
  | setCounter (counter : String) (value : Int64)
  | takeEvents
deriving DecidableEq

/-- What a director answers to a cue. -/
inductive Reply where
  | done
  | answer (yes : Bool)
  | failed (fault : Fault)
  | started (scene : Option String)
  | collected (events : Array Event)
deriving DecidableEq

namespace Reply

/-- Done, or not. -/
def ofExcept : Except Fault Unit → Reply
  | .ok () => done
  | .error fault => failed fault

end Reply

namespace Director

variable {σ : Type} {m : Type → Type} [Monad m] (h : Host σ) (store : Store m)

/-- Does what a cue says. -/
def perform (d : Director σ) : Cue → m (Reply × Director σ)
  | .load ns => return (.done, ← d.load h store ns)
  | .flush => return Prod.map Reply.answer id (← d.flush store)
  | .resolve => return (.done, d.resolve h)
  | .settle => return Prod.map Reply.answer id (← d.settle h store)
  | .register scene => return Prod.map Reply.answer id (d.register scene)
  | .unregister scene => return Prod.map Reply.answer id (d.unregister scene)
  | .notice event => return Prod.map Reply.started id (d.notice h event)
  | .start scene => return Prod.map Reply.ofExcept id (d.start h scene)
  | .stop => return Prod.map Reply.answer id (d.stop h)
  | .choose option => return Prod.map Reply.ofExcept id (d.choose h option)
  | .acknowledge => return Prod.map Reply.answer id (d.acknowledge h)
  | .resume ticket => return Prod.map Reply.answer id (d.resume h ticket)
  | .setFlag flag value => return (.done, d.setFlag h flag value)
  | .setCounter counter value => return (.done, d.setCounter h counter value)
  | .takeEvents => return Prod.map Reply.collected id d.takeEvents

/-- Does what a list of cues says, and collects the answers. -/
def performAll (d : Director σ) : List Cue → m (List Reply × Director σ)
  | [] => return ([], d)
  | cue :: rest => do
    let (reply, d) ← d.perform h store cue
    let (replies, d) ← performAll d rest
    return (reply :: replies, d)

end Director

end Cutscene
