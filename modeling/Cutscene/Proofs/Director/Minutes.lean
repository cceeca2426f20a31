import Cutscene.Proofs.Director.History
import Cutscene.Proofs.Director.Outcomes
import Cutscene.Proofs.Run.Highlight
import Cutscene.Proofs.Run.Script
import Cutscene.Proofs.Run.Showing

/-!
# Minutes

Somebody stands beside the game and keeps the minutes of all that passes between a director and the
game (`Host.minuted`): the commands that are given with the answers to them, the measurements with
what they have found, and what is shown. A director does not know of the minutes, and so nothing is
different where they are kept.

## Main results

* `Director.exists_minutes_follow`: following a turn gives its commands and shows its snapshots, and
  measures nothing.
* `Director.exists_minutes_resolve`: asking for places measures each place that is to be asked for,
  once and in order, and the run is told what was found.
* `Director.Outcome.exists_minutes`: what any cue adds to the minutes.
-/

namespace Cutscene

/-- Something that passes between a director and the game. -/
inductive Exchange where
  /-- A command was given, and the game did it or refused. -/
  | told (command : HostCommand) (answer : Except Fault Unit)
  /-- A place was asked for. -/
  | measured (anchor : String) (found : Measurement)
  /-- Something was shown. -/
  | shown (snapshot : Snapshot)

namespace Exchange

/-- The command that was given. -/
def command? : Exchange → Option HostCommand
  | told command _ => some command
  | measured .. | shown _ => none

/-- What was measured, and what was found. -/
def measurement? : Exchange → Option (String × Measurement)
  | measured anchor found => some (anchor, found)
  | told .. | shown _ => none

/-- What was shown. -/
def snapshot? : Exchange → Option Snapshot
  | shown snapshot => some snapshot
  | told .. | measured .. => none

end Exchange

/-- The commands in some minutes. -/
def commandsOf (minutes : List Exchange) : List HostCommand := minutes.filterMap Exchange.command?

/-- The measurements in some minutes. -/
def measurementsOf (minutes : List Exchange) : List (String × Measurement) :=
  minutes.filterMap Exchange.measurement?

/-- What was shown, according to some minutes. -/
def snapshotsOf (minutes : List Exchange) : List Snapshot := minutes.filterMap Exchange.snapshot?

/-- The commands in two minutes, one behind the other. -/
@[simp] theorem commandsOf_append (m n : List Exchange) :
    commandsOf (m ++ n) = commandsOf m ++ commandsOf n := List.filterMap_append

/-- The measurements in two minutes, one behind the other. -/
@[simp] theorem measurementsOf_append (m n : List Exchange) :
    measurementsOf (m ++ n) = measurementsOf m ++ measurementsOf n := List.filterMap_append

/-- What was shown according to two minutes, one behind the other. -/
@[simp] theorem snapshotsOf_append (m n : List Exchange) :
    snapshotsOf (m ++ n) = snapshotsOf m ++ snapshotsOf n := List.filterMap_append

/-- The same game, with somebody beside it who keeps the minutes. -/
def Host.minuted {σ : Type} (h : Host σ) : Host (σ × List Exchange) where
  ids := h.ids
  dispatch command stage :=
    let (answer, s) := h.dispatch command stage.1
    (answer, s, stage.2 ++ [.told command answer])
  measure name stage :=
    let (found, s) := h.measure name stage.1
    (found, s, stage.2 ++ [.measured name found])
  present snapshot stage := (h.present snapshot stage.1, stage.2 ++ [.shown snapshot])
  now stage :=
    let (time, s) := h.now stage.1
    (time, s, stage.2)

namespace Run

/-- A run is told the place for a ticket, if the ticket bears its identifier. What it shows then
stands beside it. -/
def place (r : Run) (ticket : Ticket) (rect : Option Rect) : Run × List Snapshot :=
  if r.id = ticket.run then
    let (r, shown) := r.applyGeometry ticket rect
    (r, shown.toList)
  else (r, [])

/-- A run is told the places for some tickets, one after the other. -/
def placeAll : Run → List (Ticket × Option Rect) → Run × List Snapshot
  | r, [] => (r, [])
  | r, (ticket, rect) :: rest =>
    let (r, shown) := r.place ticket rect
    let (r, more) := placeAll r rest
    (r, shown ++ more)

/-- A run is told two lists of places one after the other. -/
theorem placeAll_append (r : Run) (front back : List (Ticket × Option Rect)) :
    (r.placeAll (front ++ back)).1 = ((r.placeAll front).1.placeAll back).1 := by
  induction front generalizing r with
  | nil => rfl
  | cons place rest ih => exact ih _

/-- **Places that a run does not want change nothing.** -/
theorem placeAll_unwanted {r : Run} {places : List (Ticket × Option Rect)}
    (hplaces : ∀ place ∈ places, r.highlightTicket ≠ some place.1) :
    r.placeAll places = (r, []) := by
  induction places with
  | nil => rfl
  | cons place rest ih =>
      have hsame : r.place place.1 place.2 = (r, []) := by
        rw [Run.place, applyGeometry_unwanted (hplaces place List.mem_cons_self)]
        exact ite_self _
      rw [placeAll, hsame]
      dsimp only
      rw [ih fun other hother => hplaces other (List.mem_cons_of_mem _ hother)]
      rfl

/-- **Of the places that a run is told, the one that it wants becomes that of its highlight.** -/
theorem placeAll_wanted {r : Run} {ticket : Ticket} {highlight : Highlight}
    (hticket : r.highlightTicket = some ticket) (hrun : ticket.run = r.id)
    (hshown : r.snapshot.highlight = some highlight) (rect : Option Rect)
    {front back : List (Ticket × Option Rect)}
    (hother : ∀ other ∈ front ++ back, other.1 ≠ ticket) :
    (r.placeAll (front ++ (ticket, rect) :: back)).1.snapshot.highlight =
        some { highlight with rect } ∧
      (r.placeAll (front ++ (ticket, rect) :: back)).1.highlightTicket = some ticket := by
  have hunwanted : ∀ {r' : Run}, r'.highlightTicket = some ticket →
      ∀ other ∈ front ++ back, r'.highlightTicket ≠ some other.1 := by
    intro r' hticket' other hmem hsame
    rw [hticket', Option.some.injEq] at hsame
    exact hother other hmem hsame.symm
  have hplaced := applyGeometry_wanted hticket hshown rect
  obtain ⟨shown, state, presented, heq⟩ := r.exists_applyGeometry ticket rect
  have hticket' : (r.applyGeometry ticket rect).1.highlightTicket = some ticket := by
    rw [heq]
    exact hticket
  rw [placeAll_append, placeAll_unwanted fun other hmem =>
    hunwanted hticket other (List.mem_append_left _ hmem), placeAll, place, if_pos hrun.symm]
  dsimp only
  rw [placeAll_unwanted fun other hmem =>
    hunwanted hticket' other (List.mem_append_right _ hmem)]
  exact ⟨hplaced, hticket'⟩

end Run

namespace Director

variable {σ : Type} {h : Host σ}

/-- What has been taken down. -/
def minutes (d : Director (σ × List Exchange)) : List Exchange := d.stage.2

/-! ### Effects -/

/-- What is taken down of some effects. -/
structure Minuted (es : List Effect) (more : List Exchange) : Prop where
  commands_eq : commandsOf more = commands es
  measurements_eq : measurementsOf more = []
  snapshots_eq : snapshotsOf more = snapshots es

namespace Minuted

variable {es fs : List Effect} {m n : List Exchange}

/-- Of no effects nothing is taken down. -/
theorem nil : Minuted [] [] := ⟨rfl, rfl, rfl⟩

/-- What is taken down of two lists of effects stands one behind the other. -/
theorem append (hes : Minuted es m) (hfs : Minuted fs n) : Minuted (es ++ fs) (m ++ n) where
  commands_eq := by rw [commandsOf_append, commands_append, hes.commands_eq, hfs.commands_eq]
  measurements_eq := by
    rw [measurementsOf_append, hes.measurements_eq, hfs.measurements_eq, List.append_nil]
  snapshots_eq := by rw [snapshotsOf_append, snapshots_append, hes.snapshots_eq, hfs.snapshots_eq]

end Minuted

/-- A command and a snapshot are taken down as they are carried out. Anything else leaves the
minutes as they are. -/
theorem exists_minutes_carryOut (scene : String) (run : Uuid) (d : Director (σ × List Exchange))
    (e : Effect) :
    ∃ more, (carryOut h.minuted scene run d e).minutes = d.minutes ++ more ∧
      Minuted [e] more := by
  cases e with
  | dispatch command => exact ⟨_, rfl, rfl, rfl, rfl⟩
  | present s => exact ⟨_, rfl, rfl, rfl, rfl⟩
  | ended ending =>
      refine ⟨[], ?_, rfl, rfl, rfl⟩
      rw [carryOut, conclude]
      split <;> exact (List.append_nil _).symm
  | flagChanged | counterChanged | measure =>
      exact ⟨[], (List.append_nil _).symm, rfl, rfl, rfl⟩

/-- **Following a turn gives its commands and shows its snapshots**, and measures nothing. -/
theorem exists_minutes_follow (d : Director (σ × List Exchange)) (run : Run) (q : Progress)
    (es : List Effect) :
    ∃ more, (d.follow h.minuted run q es).minutes = d.minutes ++ more ∧ Minuted es more := by
  refine follow_effects_induction
    (P := fun done e => ∃ more, e.minutes = d.minutes ++ more ∧ Minuted done more)
    (fun {done e} effect he => ?_) ⟨[], (List.append_nil _).symm, .nil⟩ es
  obtain ⟨more, hminutes, hmore⟩ := he
  obtain ⟨last, hminutes', hlast⟩ := exists_minutes_carryOut run.scene.id run.id e effect
  exact ⟨more ++ last, by rw [hminutes', hminutes, List.append_assoc], hmore.append hlast⟩

/-- Breaking a scene off gives no command and measures nothing. -/
theorem exists_minutes_stop (d : Director (σ × List Exchange)) :
    ∃ more, (d.stop h.minuted).2.minutes = d.minutes ++ more ∧ commandsOf more = [] ∧
      measurementsOf more = [] := by
  rw [stop]
  cases d.activeRun? with
  | none => exact ⟨[], (List.append_nil _).symm, rfl, rfl⟩
  | some run =>
      obtain ⟨more, hminutes, hmore⟩ := exists_minutes_follow (h := h) d
        (run.interrupt d.progress).1 d.progress (run.interrupt d.progress).2
      refine ⟨more, hminutes, ?_, hmore.measurements_eq⟩
      rw [hmore.commands_eq, Run.interrupt]
      split
      · obtain ⟨presented, shown, heq, hshown⟩ :=
          (run.finish d.progress .interrupted none).1.exists_present
        dsimp only
        rw [heq]
        refine List.filterMap_eq_nil_iff.mpr fun e he => ?_
        rcases List.mem_append.mp he with he | he
        · rw [List.mem_singleton.mp he]
          rfl
        · obtain ⟨s, rfl⟩ := hshown e he
          rfl
      · rfl

/-! ### Places -/

/-- Asking for a place measures it, and the run is told. -/
theorem exists_minutes_locate (d : Director (σ × List Exchange)) (ticket : Ticket)
    (anchor : String) :
    ∃ found shown, (d.locate h.minuted ticket anchor).minutes =
        d.minutes ++ .measured anchor found :: shown ∧ commandsOf shown = [] ∧
      measurementsOf shown = [] ∧
      snapshotsOf shown = d.run.elim [] (fun run => (run.place ticket found.usable?).2) ∧
      (d.locate h.minuted ticket anchor).run =
        d.run.map fun run => (run.place ticket found.usable?).1 := by
  refine ⟨(h.measure anchor d.stage.1).1, ?_⟩
  have hfound : (h.minuted.measure anchor d.stage).1 = (h.measure anchor d.stage.1).1 := rfl
  rw [locate_eq, hfound]
  cases d.run with
  | none => exact ⟨[], rfl, rfl, rfl, rfl, rfl⟩
  | some run =>
      dsimp only
      rw [Option.map_some, Option.elim_some, Run.place]
      by_cases hid : run.id = ticket.run
      · rw [if_pos hid, if_pos hid]
        dsimp only
        cases (run.applyGeometry ticket (h.measure anchor d.stage.1).1.usable?).2 with
        | none => exact ⟨[], rfl, rfl, rfl, rfl, rfl⟩
        | some s => exact ⟨[.shown s], List.append_assoc _ _ _, rfl, rfl, rfl, rfl⟩
      · rw [if_neg hid, if_neg hid]
        exact ⟨[], rfl, rfl, rfl, rfl, rfl⟩

/-- Induction on the requests: the first one is met, and then the others. -/
theorem exists_minutes_foldl_locate (requests : List (Ticket × String))
    (d : Director (σ × List Exchange)) :
    ∃ founds more, founds.length = requests.length ∧
      (requests.foldl (fun d (ticket, anchor) => d.locate h.minuted ticket anchor) d).minutes =
        d.minutes ++ more ∧
      commandsOf more = [] ∧ measurementsOf more = (requests.map Prod.snd).zip founds ∧
      snapshotsOf more =
        d.run.elim [] (fun run => (run.placeAll
          ((requests.map Prod.fst).zip (founds.map Measurement.usable?))).2) ∧
      (requests.foldl (fun d (ticket, anchor) => d.locate h.minuted ticket anchor) d).run =
        d.run.map fun run => (run.placeAll
          ((requests.map Prod.fst).zip (founds.map Measurement.usable?))).1 := by
  induction requests generalizing d with
  | nil =>
      refine ⟨[], [], rfl, (List.append_nil _).symm, rfl, rfl, ?_, Option.map_id'.symm⟩
      cases d.run <;> rfl
  | cons request rest ih =>
      obtain ⟨found, shown, hminutes, hcommands, hmeasured, hshown, hrun⟩ :=
        exists_minutes_locate (h := h) d request.1 request.2
      obtain ⟨founds, more, hlength, hminutes', hcommands', hmeasured', hshown', hrun'⟩ :=
        ih (d.locate h.minuted request.1 request.2)
      refine ⟨found :: founds, .measured request.2 found :: shown ++ more,
        congrArg (· + 1) hlength, ?_, ?_, ?_, ?_, ?_⟩
      · rw [List.foldl_cons, hminutes', hminutes, List.append_assoc]
      · rw [commandsOf_append, hcommands', List.append_nil]
        exact hcommands
      · rw [measurementsOf_append, hmeasured']
        exact congrArg (fun l => (request.2, found) :: l ++ _) hmeasured
      · rw [snapshotsOf_append, hshown', hrun]
        refine (congrArg (· ++ _) hshown).trans ?_
        cases d.run <;> rfl
      · rw [List.foldl_cons, hrun', hrun, Option.map_map]
        rfl

/-- **Asking for places measures each that is to be asked for, once and in order**, and the run is
told what was found. -/
theorem exists_minutes_resolve (d : Director (σ × List Exchange)) :
    ∃ founds more, founds.length = d.pending.length ∧
      (d.resolve h.minuted).minutes = d.minutes ++ more ∧ commandsOf more = [] ∧
      measurementsOf more = (d.pending.map Prod.snd).zip founds ∧
      snapshotsOf more =
        d.run.elim [] (fun run => (run.placeAll
          ((d.pending.map Prod.fst).zip (founds.map Measurement.usable?))).2) ∧
      (d.resolve h.minuted).run =
        d.run.map fun run => (run.placeAll
          ((d.pending.map Prod.fst).zip (founds.map Measurement.usable?))).1 :=
  exists_minutes_foldl_locate d.pending { d with pending := [] }

/-! ### Cues -/

/-- What is taken down on a cue: the commands of the turn that it leads to, and measurements only
if it is to ask for places. -/
theorem Outcome.exists_minutes {d e : Director (σ × List Exchange)} {cue : Cue}
    (hd : Outcome h.minuted d cue e) :
    ∃ more, e.minutes = d.minutes ++ more ∧
      commandsOf more = (d.turn? h.minuted cue).elim [] (commands ·.effects) ∧
      (cue.resolves = false → measurementsOf more = []) := by
  cases hd with
  | @answer run turn hrun hturn _ =>
      obtain ⟨more, hminutes, hmore⟩ := exists_minutes_follow (h := h)
        (d.answering h.minuted cue) turn.run turn.progress turn.effects
      have hsame : (d.answering h.minuted cue).minutes = d.minutes := by cases cue <;> rfl
      rw [hturn]
      exact ⟨more, by rw [hminutes, hsame], hmore.commands_eq, fun _ => hmore.measurements_eq⟩
  | debut scene hturn =>
      -- The scene that is broken off gives no command, so that all of them are those of the new
      -- one.
      obtain ⟨front, hstop, hcommands, hmeasured⟩ := exists_minutes_stop (h := h) d
      obtain ⟨back, hminutes, hback⟩ := exists_minutes_follow (h := h)
        ((d.stop h.minuted).2.announce h.minuted scene)
        ((d.stop h.minuted).2.opening h.minuted scene).run
        ((d.stop h.minuted).2.opening h.minuted scene).progress
        ((d.stop h.minuted).2.opening h.minuted scene).effects
      have hsame : ((d.stop h.minuted).2.announce h.minuted scene).minutes =
          (d.stop h.minuted).2.minutes := rfl
      rw [hturn]
      refine ⟨front ++ back, ?_, ?_, fun _ => ?_⟩
      · rw [Director.debut, hminutes, hsame, hstop, List.append_assoc]
      · rw [commandsOf_append, hcommands, hback.commands_eq]
        rfl
      · rw [measurementsOf_append, hmeasured, hback.measurements_eq]
        rfl
  | stop hturn hcue progress ns dirty =>
      obtain ⟨more, hstop, hcommands, hmeasured⟩ := exists_minutes_stop (h := h) d
      rw [hturn]
      exact ⟨more, hstop, hcommands, fun _ => hmeasured⟩
  | resolve hturn hcue dirty =>
      obtain ⟨founds, more, -, hminutes, hcommands, -, -, -⟩ := exists_minutes_resolve (h := h) d
      rw [hturn]
      exact ⟨more, hminutes, hcommands, fun hno => absurd (hcue.symm.trans hno) (by decide)⟩
  | manage hturn | writeFlag hturn | setCounter hturn =>
      rw [hturn]
      exact ⟨[], (List.append_nil _).symm, rfl, fun _ => rfl⟩

/-- What is taken down in the course of an episode. -/
def newMinutes (ep : Episode (σ × List Exchange)) : List Exchange :=
  ep.after.minutes.drop ep.before.minutes.length

/-- What is taken down in the course of an episode is what the minutes have grown by. -/
theorem newMinutes_eq {ep : Episode (σ × List Exchange)} {more : List Exchange}
    (hminutes : ep.after.minutes = ep.before.minutes ++ more) : newMinutes ep = more := by
  rw [newMinutes, hminutes, List.drop_left]

end Director

end Cutscene
