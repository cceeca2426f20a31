import Cutscene.Console
import Cutscene.Proofs.Director.Dispatches
import Cutscene.Proofs.Director.Replay

/-!
# What a Console Does with a Message

A console has its director do what a message asks for, lets it settle, sets a timer for the wait
that is pending, and says what there is to say. All that it decides by itself is what it tells its
director (`Message.cue?`), and lines that come neither from the director nor from the log
(`Output.isAside`).

## Main results

* `Stage.passes_of_leads`: what passes between a director and a console is put down.
* `Console.reacts`: a console has its director do what a message asks for.
* `Console.exists_handle`: then the director settles, and what there is to say is said.
-/

namespace Cutscene

/-! ### Lines -/

namespace Output

/-- The event that a line is about. -/
def event? : Output → Option Event
  | event ev => some ev
  | snapshot _ | command _ | anchorsReady _ | eligible _ | error _ => none

/-- The snapshot that a line shows. -/
def snapshot? : Output → Option Snapshot
  | snapshot s => some s
  | event _ | command _ | anchorsReady _ | eligible _ | error _ => none

/-- The command that a line gives. -/
def command? : Output → Option HostCommand
  | command c => some c
  | event _ | snapshot _ | anchorsReady _ | eligible _ | error _ => none

/-- The line comes neither from the director nor from the log. -/
def isAside : Output → Bool
  | anchorsReady _ | eligible _ | error _ => true
  | snapshot _ | command _ | event _ => false

/-- A line of the console's own is about no event. -/
theorem event?_of_isAside {out : Output} (hout : out.isAside = true) : out.event? = none := by
  cases out <;> first | rfl | cases hout

/-- It shows no snapshot. -/
theorem snapshot?_of_isAside {out : Output} (hout : out.isAside = true) :
    out.snapshot? = none := by
  cases out <;> first | rfl | cases hout

/-- It gives no command. -/
theorem command?_of_isAside {out : Output} (hout : out.isAside = true) : out.command? = none := by
  cases out <;> first | rfl | cases hout

end Output

/-- The line that comes of something that passes between a director and a console. -/
def Exchange.output? : Exchange → Option Output
  | told command _ => some (.command command)
  | shown snapshot => some (.snapshot snapshot)
  | measured .. => none

/-- The commands that are put down are those that the director has given. -/
theorem filterMap_command?_output? (more : List Exchange) :
    (more.filterMap Exchange.output?).filterMap Output.command? = commandsOf more := by
  rw [List.filterMap_filterMap]
  refine List.filterMap_congr fun exchange _ => ?_
  cases exchange <;> rfl

/-- The snapshots that are put down are those that it has shown. -/
theorem filterMap_snapshot?_output? (more : List Exchange) :
    (more.filterMap Exchange.output?).filterMap Output.snapshot? = snapshotsOf more := by
  rw [List.filterMap_filterMap]
  refine List.filterMap_congr fun exchange _ => ?_
  cases exchange <;> rfl

/-- Nothing that passes at once is about an event of the log. -/
theorem filterMap_event?_output? (more : List Exchange) :
    (more.filterMap Exchange.output?).filterMap Output.event? = [] := by
  rw [List.filterMap_filterMap]
  refine List.filterMap_eq_nil_iff.mpr fun exchange _ => ?_
  cases exchange <;> rfl

/-- Where nothing has to be said, no command has been given. -/
theorem commandsOf_eq_nil {more : List Exchange} (hmore : more.filterMap Exchange.output? = []) :
    commandsOf more = [] := by
  rw [← filterMap_command?_output?, hmore]
  rfl

/-- Nor has a snapshot been shown. -/
theorem snapshotsOf_eq_nil {more : List Exchange} (hmore : more.filterMap Exchange.output? = []) :
    snapshotsOf more = [] := by
  rw [← filterMap_snapshot?_output?, hmore]
  rfl

/-- Of the lines that are said, those of a kind that is not put down as an aside. -/
theorem filterMap_said {α : Type} {project : Output → Option α}
    (hproject : ∀ out, out.isAside = true → project out = none) {front asides back : List Output}
    (hasides : ∀ out ∈ asides, out.isAside = true) (events : List Event) :
    (front ++ asides ++ back ++ events.map Output.event).filterMap project =
      front.filterMap project ++ back.filterMap project ++
        events.filterMap fun ev => project (Output.event ev) := by
  have hnone : asides.filterMap project = [] :=
    List.filterMap_eq_nil_iff.mpr fun out hmem => hproject out (hasides out hmem)
  rw [List.filterMap_append, List.filterMap_append, List.filterMap_append, hnone, List.append_nil,
    List.filterMap_map]
  rfl

/-! ### The stage -/

namespace Stage

/-- Between the stages some lines have been put down, and no time has passed. -/
structure Adds (s : Stage) (lines : List Output) (s' : Stage) : Prop where
  outputs_eq : s'.outputs.toList = s.outputs.toList ++ lines
  now_eq : s'.watch.now = s.watch.now

namespace Adds

variable {s s' s'' : Stage} {lines more : List Output}

/-- Where nothing is said, no line is added. -/
theorem refl (s : Stage) : s.Adds [] s := ⟨(List.append_nil _).symm, rfl⟩

/-- Lines are added one after the other. -/
theorem trans (hs : s.Adds lines s') (hs' : s'.Adds more s'') : s.Adds (lines ++ more) s'' :=
  ⟨by rw [hs'.outputs_eq, hs.outputs_eq, List.append_assoc], hs'.now_eq.trans hs.now_eq⟩

/-- A line that is said is added. -/
theorem say (s : Stage) (out : Output) : s.Adds [out] (s.say out) := ⟨Array.toList_push, rfl⟩

end Adds

/-- The stage goes on by itself: time passes, and the polls over the anchors with it. -/
structure GoesOn (s s' : Stage) : Prop where
  now_le : s.watch.now ≤ s'.watch.now
  outputs_eq : s'.outputs = s.outputs

/-- Between the stages, something has passed between a director and a console: it has been taken
down, what has to be said of it has been put down, and all commands have been done. -/
def Passes (s s' : Stage × List Exchange) : Prop :=
  ∃ more, s'.2 = s.2 ++ more ∧ s.1.Adds (more.filterMap Exchange.output?) s'.1 ∧
    outcomesOf more = (commandsOf more).map (·, true)

/-- One thing more may pass, if its line is put down and its command done. -/
theorem Passes.snoc {s s' s'' : Stage × List Exchange} (hs : Passes s s') (exchange : Exchange)
    (hminutes : s''.2 = s'.2 ++ [exchange])
    (hadds : s'.1.Adds ([exchange].filterMap Exchange.output?) s''.1)
    (hdone : outcomesOf [exchange] = (commandsOf [exchange]).map (·, true)) : Passes s s'' := by
  obtain ⟨more, hbefore, hadded, hbefore_done⟩ := hs
  refine ⟨more ++ [exchange], ?_, ?_, ?_⟩
  · rw [hminutes, hbefore, List.append_assoc]
  · rw [List.filterMap_append]
    exact hadded.trans hadds
  · rw [outcomesOf_append, commandsOf_append, List.map_append, hbefore_done, hdone]

/-- **What passes between a director and a console is put down**, and the console does as told. -/
theorem passes_of_leads {ids : Identities} {s s' : Stage × List Exchange}
    (hs : (host ids).minuted.Leads s s') : Passes s s' := by
  induction hs with
  | refl => exact ⟨[], (List.append_nil _).symm, .refl _, rfl⟩
  | @dispatch s' _ command ih =>
      exact ih.snoc (.told command (.ok ())) rfl (.say s'.1 (.command command)) rfl
  | @measure s' _ anchor ih =>
      exact ih.snoc (.measured anchor ((host ids).measure anchor s'.1).1) rfl
        ⟨(List.append_nil _).symm, rfl⟩ rfl
  | @present s' _ shown ih => exact ih.snoc (.shown shown) rfl (.say s'.1 (.snapshot shown)) rfl
  | now _ ih => exact ih

end Stage

/-! ### Messages -/

/-- What a director is told when a request is met, if anything. -/
def Request.cue? (d : Director Stage) : Request → Option Cue
  | event e => some (.notice e)
  | start scene => some (.start scene)
  | choose option => some (.choose option)
  | acknowledge => some .acknowledge
  | resume ticket => (ticket.or (d.timer?.map Prod.fst)).map .resume
  | setFlag flag value => some (.setFlag flag value)
  | setCounter counter value => some (.setCounter counter value)
  | stop => some .stop
  | peek _ | registerAnchor .. | unregisterAnchor _ | waitForAnchors .. => none

/-- The request that a message makes, if it makes one. -/
def Message.request? : Message → Option Request
  | line text => if Blank.trim text = "" then none else Request.ofLine? (Blank.trim text)
  | timer _ | ready _ => none

/-- What a director is told on a message, if anything. -/
def Message.cue? (d : Director Stage) : Message → Option Cue
  | timer ticket => some (.resume ticket)
  | message => message.request?.bind (Request.cue? d)

/-- A director does what it is told, if it is told anything, and the store has no part in it. -/
inductive Director.Heeds {σ ω : Type} (h : Host σ) (store : Store (StateM ω)) (w : ω)
    (d : Director σ) : Option Cue → Director σ → Prop
  | nothing : Heeds h store w d none d
  | cue {cue : Cue} {reply : Reply} {e : Director σ} (hload : ∀ ns, cue ≠ .load ns)
      (htake : cue ≠ .takeEvents) (hp : (d.perform h store cue).run w = ((reply, e), w)) :
      Heeds h store w d (some cue) e

/-- When a director has settled, there is no place left to be asked for. -/
theorem Director.pending_of_settle {σ ω : Type} {h : Host σ} {store : Store (StateM ω)} {w w' : ω}
    {d e : Director σ} {reply : Reply}
    (hp : (d.perform h store .settle).run w = ((reply, e), w')) : e.pending = [] := by
  obtain ⟨yes, dirty, w₁, hflush⟩ := exists_flush store w (d.resolve h)
  simp only [perform, settle, StateT.run_bind, hflush] at hp
  obtain ⟨hdone, -⟩ := Prod.mk.inj hp
  obtain ⟨-, rfl⟩ := Prod.mk.inj hdone
  exact pending_resolve h d

namespace Console

variable {ω : Type} {h : Host Stage} {store : Store (StateM ω)} {w w' w'' : ω}
  {c c' c'' : Console}

/-- The timer that a console still waits for when a message has reached it. -/
def hear (c : Console) : Message → Option Ticket
  | .timer ticket => if c.armed = some ticket then none else c.armed
  | .line _ | .ready _ => c.armed

/-- **What a console does with a message before it settles**: the director does what it is told, and
the console may put down a line of its own. -/
structure Reacts (h : Host Stage) (store : Store (StateM ω)) (w : ω) (c : Console)
    (cue? : Option Cue) (armed : Option Ticket) (c' : Console) : Prop where
  exists_director : ∃ d stage asides, Director.Heeds h store w c.director cue? d ∧
    c'.director = { d with stage } ∧ d.stage.Adds asides stage ∧
    ∀ out ∈ asides, out.isAside = true
  armed_eq : c'.armed = armed
  timers_eq : c'.timers = c.timers

namespace Reacts

variable {cue : Cue} {cue? : Option Cue} {reply : Reply} {d : Director Stage}

/-- The director does what it is told, and nothing is put down. -/
theorem of_perform (hload : ∀ ns, cue ≠ .load ns) (htake : cue ≠ .takeEvents)
    (hp : (c.director.perform h store cue).run w = ((reply, d), w)) :
    Reacts h store w c (some cue) c.armed { c with director := d } :=
  ⟨⟨d, d.stage, [], .cue hload htake hp, rfl, .refl _, List.forall_mem_nil _⟩, rfl, rfl⟩

/-- Nothing is done. -/
theorem refl (h : Host Stage) (store : Store (StateM ω)) (w : ω) (c : Console) :
    Reacts h store w c none c.armed c :=
  ⟨⟨c.director, c.director.stage, [], .nothing, rfl, .refl _, List.forall_mem_nil _⟩, rfl, rfl⟩

/-- A line is put down in the end. -/
theorem say {armed : Option Ticket} (hc : Reacts h store w c cue? armed c') {out : Output}
    (hout : out.isAside = true) : Reacts h store w c cue? armed (c'.say out) := by
  obtain ⟨⟨d, stage, asides, hheeds, hdirector, hadds, hasides⟩, harmed, htimers⟩ := hc
  refine ⟨⟨d, stage.say out, asides ++ [out], hheeds, ?_, hadds.trans (.say stage out), ?_⟩,
    harmed, htimers⟩
  · rw [Console.say, hdirector]
  · intro out' hmem
    rcases List.mem_append.mp hmem with hmem | hmem
    · exact hasides out' hmem
    · rw [List.mem_singleton.mp hmem]
      exact hout

/-- A refusal is told. -/
theorem settled {d : Except Fault Unit × Director Stage}
    (hc : Reacts h store w c cue? c.armed { c with director := d.2 }) :
    Reacts h store w c cue? c.armed (c.settled d) := by
  obtain ⟨_ | _, director⟩ := d
  · exact hc.say rfl
  · exact hc

/-- A console says so if its director refuses. -/
theorem accepted {d : Bool × Director Stage} (refusal : String)
    (hc : Reacts h store w c cue? c.armed { c with director := d.2 }) :
    Reacts h store w c cue? c.armed (c.accepted refusal d) := by
  obtain ⟨_ | _, director⟩ := d
  · exact hc.say rfl
  · exact hc

/-- What is done with the anchors is not the director's business. -/
theorem watch (h : Host Stage) (store : Store (StateM ω)) (w : ω) (c : Console) (watch : Watch)
    (hnow : watch.now = c.now) :
    Reacts h store w c none c.armed { c with director.stage.watch := watch } :=
  ⟨⟨c.director, _, [], .nothing, rfl, ⟨(List.append_nil _).symm, hnow⟩, List.forall_mem_nil _⟩,
    rfl, rfl⟩

end Reacts

/-- Starting a poll takes no time. -/
theorem now_start (watch : Watch) (anchors : List String) (options : PollOptions) :
    (watch.start anchors options).now = watch.now := by
  simp only [Watch.start, Watch.put]
  split <;> rfl

/-- **What a console does with a request.** -/
theorem reacts_meet (h : Host Stage) (store : Store (StateM ω)) (w : ω) (c : Console)
    (request : Request) :
    Reacts h store w c (request.cue? c.director) c.armed (c.meet h request) := by
  cases request with
  | event | setFlag | setCounter | stop => exact .of_perform nofun nofun rfl
  | peek e => exact (Reacts.refl h store w c).say rfl
  | start scene =>
      exact .settled (d := c.director.start h scene) (.of_perform nofun nofun rfl)
  | choose option =>
      exact .settled (d := c.director.choose h option) (.of_perform nofun nofun rfl)
  | acknowledge =>
      exact .accepted (d := c.director.acknowledge h) _ (.of_perform nofun nofun rfl)
  | resume ticket =>
      rw [meet, Request.cue?]
      cases ticket.or (c.director.timer?.map Prod.fst) with
      | none => exact (Reacts.refl h store w c).say rfl
      | some ticket =>
          exact .accepted (d := c.director.resume h ticket) _ (.of_perform nofun nofun rfl)
  | registerAnchor | unregisterAnchor => exact .watch h store w c _ rfl
  | waitForAnchors anchors options => exact .watch h store w c _ (now_start _ anchors options)

/-- **What a console does with a message.** -/
theorem reacts (h : Host Stage) (store : Store (StateM ω)) (w : ω) (c : Console)
    (message : Message) :
    Reacts h store w c (message.cue? c.director) (c.hear message) (c.react h message) := by
  cases message with
  | timer ticket =>
      exact ⟨⟨_, _, [], .cue nofun nofun rfl, rfl, .refl _, List.forall_mem_nil _⟩, rfl, rfl⟩
  | ready anchors => exact (Reacts.refl h store w c).say rfl
  | line text =>
      simp only [react, meetLine, Message.cue?, Message.request?, hear]
      split
      · exact .refl h store w c
      · cases Request.ofLine? (Blank.trim text) with
        | none => exact (Reacts.refl h store w c).say rfl
        | some request => exact reacts_meet h store w c request

/-! ### Settling -/

/-- Nothing is left to be done or said. -/
structure Idle (c : Console) : Prop where
  pending_eq : c.director.pending = []
  events_eq : c.director.events = #[]
  outputs_eq : c.director.stage.outputs = #[]

/-- Where nothing is left to be said, nothing is said. -/
theorem Idle.drain (hc : c.Idle) : c.drain = ([], c) := by
  obtain ⟨-, hevents, houtputs⟩ := hc
  obtain ⟨⟨⟨time, watch, outputs⟩, roster, progress, ns, dirty, run, started, pending, recorded,
    events⟩, armed, timers⟩ := c
  obtain rfl : events = #[] := hevents
  obtain rfl : outputs = #[] := houtputs
  rfl

/-- **What becomes of the timers when a console settles**: if there is a wait to be ended and the
console does not wait for its timer already, one is set. -/
inductive Arms (armed : Option Ticket) (timers : Agenda Ticket) (c : Console) : Prop
  | kept (harmed : c.armed = armed) (htimers : c.timers = timers)
      (hwait : ∀ ticket ms, c.director.timer? = some (ticket, ms) → armed = some ticket)
  | set {ticket : Ticket} {ms : UInt64} (hwait : c.director.timer? = some (ticket, ms))
      (hne : armed ≠ some ticket) (harmed : c.armed = some ticket)
      (htimers : c.timers = timers.insert (c.now + ms.toNat) ticket)

/-- A timer is set for the wait that is pending, unless that has been done. -/
theorem arms_arm (c : Console) : Arms c.armed c.timers c.arm := by
  rw [arm]
  cases hwait : c.director.timer? with
  | none => exact .kept rfl rfl fun ticket ms hwait' => by rw [hwait] at hwait'; cases hwait'
  | some wait =>
      obtain ⟨ticket, ms⟩ := wait
      dsimp only
      by_cases harmed : c.armed = some ticket
      · rw [if_pos harmed]
        refine .kept rfl rfl fun ticket' ms' hwait' => ?_
        obtain ⟨rfl, -⟩ := Prod.mk.inj (Option.some.inj (hwait.symm.trans hwait'))
        exact harmed
      · rw [if_neg harmed]
        exact .set hwait harmed rfl rfl

/-- Setting a timer does not touch the director. -/
theorem director_arm (c : Console) : c.arm.director = c.director := by
  rw [arm]
  split
  · split <;> rfl
  · rfl

/-- What taking a message comes down to: reacting and settling, then setting a timer and saying what
there is to say. -/
theorem exists_handle {message : Message} {said : List Output}
    (hp : (c.handle h store message).run w = ((said, c'), w')) :
    ∃ yes d, ((c.react h message).director.perform h store .settle).run w =
        ((.answer yes, d), w') ∧
      said = d.stage.outputs.toList ++ d.events.toList.map .event ∧
      c'.director = { d with events := #[], stage.outputs := #[] } ∧
      Arms (c.react h message).armed (c.react h message).timers c' := by
  have hhandle : (c.handle h store message).run w =
      ({ c.react h message with
          director := (((c.react h message).director.settle h store).run w).1.2 }.arm.drain,
        (((c.react h message).director.settle h store).run w).2) := rfl
  rw [hhandle] at hp
  simp only [Director.perform, StateT.run_bind]
  generalize ((c.react h message).director.settle h store).run w = settled at hp ⊢
  obtain ⟨⟨yes, d⟩, w₁⟩ := settled
  obtain ⟨hdrain, rfl⟩ := Prod.mk.inj hp
  have harms := arms_arm { c.react h message with director := d }
  have hdirector := director_arm { c.react h message with director := d }
  generalize ({ c.react h message with director := d } : Console).arm = c₂ at *
  obtain ⟨rfl, rfl⟩ := Prod.mk.inj hdrain
  subst hdirector
  refine ⟨yes, c₂.director, rfl, rfl, rfl, ?_⟩
  cases harms with
  | kept harmed htimers hwait => exact .kept harmed htimers hwait
  | set hwait hne harmed htimers => exact .set hwait hne harmed htimers

end Console

end Cutscene
