import Cutscene.Proofs.Director.Log
import Cutscene.Proofs.Director.Minutes
import Cutscene.Proofs.Director.Tickets
import Cutscene.Proofs.Run.Renaming

/-!
# Two Games

Two directors are told the same, each by a game of its own. The games may answer commands in
different ways, their clocks may differ, and their stores may refuse to save at different times. The
directors give their runs different identifiers. Still they are alike (`Director.Alike`): under the
names of the other (`Run.rename`), the one has the same run, the same story of progress, the same
requests for places, and the same log, except that a command may have failed in the one game that
was done in the other.

## Main results

* `Director.Alike.follow`: turns that are alike are followed alike.
* `Director.Alike.stop`, `Director.Alike.play`, `Director.Alike.take`: parts of operations.
* `Director.Alike.resolve`: so are places asked for, if the games find the same.
* `Director.Alike.perform`: what is done on a cue.
-/

namespace Cutscene

open Progress (Agrees)

/-! ### Events and answers under other names -/

/-- The outcome of a command is recorded, one way or the other. -/
inductive Occurrence.IsOutcome (scene : String) (command : HostCommand) : Occurrence → Prop
  | dispatched : IsOutcome scene command (.commandDispatched scene command)
  | failed (error : String) : IsOutcome scene command (.commandFailed scene command error)

/-- Something that is recorded, under other names. -/
def Occurrence.rename (ρ : Uuid → Uuid) : Occurrence → Occurrence
  | sceneStarted scene version run => sceneStarted scene version (ρ run)
  | sceneEnded ended => sceneEnded { ended with run := ρ ended.run }
  | flagChanged flag old new => flagChanged flag old new
  | counterChanged counter old new => counterChanged counter old new
  | commandDispatched scene command => commandDispatched scene command
  | commandFailed scene command error => commandFailed scene command error

/-- **What two directors record of the same thing**: the same under other names, except that a
command may have had either outcome. -/
inductive Occurrence.Alike (ρ : Uuid → Uuid) : Occurrence → Occurrence → Prop
  | same (o : Occurrence) : Alike ρ o (o.rename ρ)
  | command (scene : String) (command : HostCommand) {o o' : Occurrence}
      (ho : o.IsOutcome scene command) (ho' : o'.IsOutcome scene command) : Alike ρ o o'

/-- Two events that are alike bear the same number, and are recorded at any time. -/
structure Event.Alike (ρ : Uuid → Uuid) (ev ev' : Event) : Prop where
  number_eq : ev'.metadata.number = ev.metadata.number
  correlation_eq : ev'.metadata.correlation = ρ ev.metadata.correlation
  name_eq : ev.metadata.name = ev.occurrence.name
  name_eq' : ev'.metadata.name = ev'.occurrence.name
  occurrence : Occurrence.Alike ρ ev.occurrence ev'.occurrence

/-- The same answer. Events that are collected are alike. -/
inductive Reply.Alike (ρ : Uuid → Uuid) : Reply → Reply → Prop
  | same (reply : Reply) (hreply : reply.events = []) : Alike ρ reply reply
  | collected {events events' : Array Event}
      (hevents : List.Forall₂ (Event.Alike ρ) events.toList events'.toList) :
      Alike ρ (.collected events) (.collected events')

/-- Alike answers hand over alike events. -/
theorem Reply.Alike.events {ρ : Uuid → Uuid} {reply reply' : Reply}
    (hreply : Reply.Alike ρ reply reply') :
    List.Forall₂ (Event.Alike ρ) reply.events reply'.events := by
  cases hreply with
  | same _ hnone =>
      rw [hnone]
      exact .nil
  | collected hevents => exact hevents

/-- A cue under other names. -/
def Cue.rename (ρ : Uuid → Uuid) : Cue → Cue
  | resume ticket => resume (ticket.rename ρ)
  | load ns => load ns
  | flush => flush
  | resolve => resolve
  | settle => settle
  | register scene => register scene
  | unregister id => unregister id
  | notice event => notice event
  | start id => start id
  | stop => stop
  | choose option => choose option
  | acknowledge => acknowledge
  | setFlag flag value => setFlag flag value
  | setCounter counter value => setCounter counter value
  | takeEvents => takeEvents

/-- The identifiers of the one director stand for those of the other, up to so many runs. -/
structure Identities.Renames (ρ : Uuid → Uuid) (ids ids' : Identities) (n : Nat) : Prop where
  injective : Function.Injective ρ
  session_eq : ids'.session = ρ ids.session
  run_eq : ∀ k < n, ids'.run k = ρ (ids.run k)

/-! ### Which scenes may be played -/

namespace Progress.Agrees

variable {steady : Prop} {p q : Progress}

/-- A condition holds of both or of neither, since it does not look at times. -/
theorem holds_eq (hpq : Agrees steady p q) (c : Condition) : c.holds q = c.holds p := by
  unfold Condition.holds
  rw [hpq.flag_eq, hpq.counter_eq]

/-- When scenes were last seen does not matter. -/
theorem isEligible_eq (hpq : Agrees steady p q) (event : GameEvent) (active : Option String)
    (s : Scene) : Roster.isEligible event q active s = Roster.isEligible event p active s := by
  have hholds : (fun c : Condition => c.holds q) = fun c => c.holds p := funext hpq.holds_eq
  rw [Roster.isEligible, Roster.isEligible, isCompleted, isCompleted, Scene.conditionHolds,
    Scene.conditionHolds, hholds, hpq.completed_eq]

end Progress.Agrees

/-! ### Places -/

/-- Two games find the same, where they are asked for the same: the place, if it counts. -/
def SameFinds (finds finds' : List (String × Measurement)) : Prop :=
  ∀ (i : Nat) (anchor : String) (found found' : Measurement), finds[i]? = some (anchor, found) →
    finds'[i]? = some (anchor, found') → found.usable? = found'.usable?

/-- A game finds what it finds. -/
theorem SameFinds.refl (finds : List (String × Measurement)) : SameFinds finds finds := by
  intro i anchor found found' h h'
  obtain rfl : found = found' := congrArg Prod.snd (Option.some.inj (h.symm.trans h'))
  rfl

/-- Games that find the same where both are asked tell the same places, if as many are asked for. -/
theorem SameFinds.usable_eq {finds finds' : List (String × Measurement)}
    (hsame : SameFinds finds finds') {anchors : List String} {founds founds' : List Measurement}
    (hlength : founds.length = anchors.length) (hlength' : founds'.length = anchors.length)
    (hfinds : finds = anchors.zip founds) (hfinds' : finds' = anchors.zip founds') :
    founds.map Measurement.usable? = founds'.map Measurement.usable? := by
  subst hfinds hfinds'
  refine List.ext_getElem (by rw [List.length_map, List.length_map, hlength, hlength'])
    fun i hi hi' => ?_
  rw [List.length_map] at hi hi'
  have hanchor : i < anchors.length := hlength ▸ hi
  rw [List.getElem_map, List.getElem_map]
  exact hsame i anchors[i] _ _
    (List.getElem?_zip_eq_some.mpr ⟨List.getElem?_eq_getElem hanchor, List.getElem?_eq_getElem hi⟩)
    (List.getElem?_zip_eq_some.mpr ⟨List.getElem?_eq_getElem hanchor, List.getElem?_eq_getElem hi'⟩)

namespace Director

variable {σ τ : Type} {h : Host σ} {k : Host τ} {ρ : Uuid → Uuid} {n : Nat}

/-! ### Runs that are told places -/

/-- A place is put into a run alike under other names. -/
theorem place_rename (hρ : Function.Injective ρ) (r : Run) (ticket : Ticket)
    (rect : Option Rect) :
    (r.rename ρ).place (ticket.rename ρ) rect =
      Prod.map (Run.rename ρ) (List.map (Snapshot.rename ρ)) (r.place ticket rect) := by
  have hid : (r.rename ρ).id = (ticket.rename ρ).run ↔ r.id = ticket.run := hρ.eq_iff
  rw [Run.place, Run.place, if_congr hid rfl rfl, Run.applyGeometry_rename hρ]
  split
  · generalize r.applyGeometry ticket rect = placed
    obtain ⟨placed, _ | shown⟩ := placed <;> rfl
  · rfl

/-- A run is told places under other names. -/
theorem placeAll_rename (hρ : Function.Injective ρ) (r : Run)
    (places : List (Ticket × Option Rect)) :
    (r.rename ρ).placeAll (places.map (Prod.map (Ticket.rename ρ) id)) =
      Prod.map (Run.rename ρ) (List.map (Snapshot.rename ρ)) (r.placeAll places) := by
  induction places generalizing r with
  | nil => rfl
  | cons place rest ih =>
      rw [List.map_cons, Prod.map, Run.placeAll, Run.placeAll]
      dsimp only [id]
      rw [place_rename hρ]
      dsimp only [Prod.map]
      rw [ih]
      refine Prod.ext rfl ?_
      exact List.map_append.symm

/-! ### Directors that are alike -/

/-- **Two directors are alike** up to the names of their runs. Since the minutes were `m` and `m'`,
the same has been shown by both. Whether there is something to save may differ. -/
structure Alike (ρ : Uuid → Uuid) (m m' : List Exchange) (d : Director (σ × List Exchange))
    (e : Director (τ × List Exchange)) : Prop where
  roster_eq : e.roster = d.roster
  progress : Agrees False d.progress e.progress
  run_eq : e.run = d.run.map (Run.rename ρ)
  started_eq : e.started = d.started
  pending_eq : e.pending = d.pending.map (Prod.map (Ticket.rename ρ) id)
  recorded_eq : e.recorded = d.recorded
  events : List.Forall₂ (Event.Alike ρ) d.events.toList e.events.toList
  shown : ∃ more more', d.minutes = m ++ more ∧ e.minutes = m' ++ more' ∧
    snapshotsOf more' = (snapshotsOf more).map (Snapshot.rename ρ)

namespace Alike

variable {m m' : List Exchange} {d : Director (σ × List Exchange)}
  {e : Director (τ × List Exchange)}

/-- Directors that have not been told anything. -/
theorem nil (stage : σ × List Exchange) (stage' : τ × List Exchange) :
    Alike ρ stage.2 stage'.2 { stage } { stage := stage' } where
  roster_eq := rfl
  progress := .refl _
  run_eq := rfl
  started_eq := rfl
  pending_eq := rfl
  recorded_eq := rfl
  events := .nil
  shown := ⟨[], [], (List.append_nil _).symm, (List.append_nil _).symm, rfl⟩

/-- The games may go on by themselves, and the minutes be begun anew. -/
theorem restart (hd : Alike ρ m m' d e) (stage : σ × List Exchange)
    (stage' : τ × List Exchange) :
    Alike ρ stage.2 stage'.2 { d with stage } { e with stage := stage' } :=
  { hd with
    shown := ⟨[], [], (List.append_nil _).symm, (List.append_nil _).symm, rfl⟩ }

/-! ### What there is to see -/

/-- The one has an active run if the other has, under the other names. -/
theorem activeRun?_eq (hd : Alike ρ m m' d e) :
    e.activeRun? = d.activeRun?.map (Run.rename ρ) := by
  rw [activeRun?, activeRun?, hd.run_eq]
  cases d.run with
  | none => rfl
  | some run =>
      rw [Option.map_some, Option.filter_some, Option.filter_some, Run.state_rename]
      split <;> rfl

/-- The same scene is played. -/
theorem active?_eq (hd : Alike ρ m m' d e) : e.active? = d.active? := by
  rw [active?, active?, hd.activeRun?_eq, Option.map_map]
  rfl

/-- The state is the same. -/
theorem state_eq (hd : Alike ρ m m' d e) : e.state = d.state := by
  rw [state, state, hd.run_eq]
  cases d.run <;> rfl

/-- What there is to see is the same under other names. -/
theorem snapshot_eq (hd : Alike ρ m m' d e) : e.snapshot = d.snapshot.rename ρ := by
  rw [snapshot, snapshot, hd.run_eq]
  cases d.run <;> rfl

/-- The ticket of the suspension is the same under other names. -/
theorem ticket?_eq (hd : Alike ρ m m' d e) : e.ticket? = d.ticket?.map (Ticket.rename ρ) := by
  rw [ticket?, ticket?, hd.run_eq]
  cases d.run <;> rfl

/-- The same scenes may start on an event. -/
theorem eligible_eq (hd : Alike ρ m m' d e) (event : GameEvent) :
    e.roster.eligible event e.progress e.active? =
      d.roster.eligible event d.progress d.active? := by
  have hsame : Roster.isEligible event e.progress d.active? =
      Roster.isEligible event d.progress d.active? :=
    funext fun s => hd.progress.isEligible_eq event d.active? s
  rw [Roster.eligible, Roster.eligible, hd.roster_eq, hd.active?_eq, hsame]

/-- What is recorded next is correlated with the same run under other names. -/
theorem correlation_eq (hd : Alike ρ m m' d e) (hids : h.ids.Renames ρ k.ids n) :
    e.correlation k.minuted = ρ (d.correlation h.minuted) := by
  rw [correlation, correlation, hd.activeRun?_eq]
  cases d.activeRun? with
  | none => exact hids.session_eq
  | some run => rfl

/-! ### Carrying out effects -/

/-- Something is recorded by both. -/
theorem record (hd : Alike ρ m m' d e) {correlation correlation' : Uuid}
    (hcorrelation : correlation' = ρ correlation) {o o' : Occurrence}
    (ho : Occurrence.Alike ρ o o') :
    Alike ρ m m' (d.record h.minuted correlation o) (e.record k.minuted correlation' o') := by
  refine { hd with recorded_eq := congrArg (· + 1) hd.recorded_eq, events := ?_ }
  have hevent : Event.Alike ρ (d.entry h.minuted correlation o)
      (e.entry k.minuted correlation' o') :=
    ⟨by rw [entry, entry, hd.recorded_eq], hcorrelation, rfl, rfl, ho⟩
  rw [(logs_record (h := h.minuted) d correlation o).events_eq,
    (logs_record (h := k.minuted) e correlation' o').events_eq]
  exact List.rel_append hd.events (.cons hevent .nil)

/-- Each takes over a run, and progress that tells the same story. -/
theorem adopt (hd : Alike ρ m m' d e) {run run' : Run} (hrun : run' = run.rename ρ)
    {p q : Progress} (hpq : Agrees False p q) :
    Alike ρ m m' { d with run := some run, progress := p }
      { e with run := some run', progress := q } :=
  { hd with run_eq := congrArg some hrun, progress := hpq }

/-- The progress of both is replaced. -/
theorem replace (hd : Alike ρ m m' d e) {p q : Progress} (hpq : Agrees False p q)
    (ns ns' : Namespace) (dirty dirty' : Bool) :
    Alike ρ m m' { d with progress := p, ns, dirty }
      { e with progress := q, ns := ns', dirty := dirty' } :=
  { hd with progress := hpq }

/-- The requests of a run are withdrawn under the new names as they are under the old ones. -/
theorem filter_pending (hρ : Function.Injective ρ) (requests : List (Ticket × String))
    (run : Uuid) :
    (requests.map (Prod.map (Ticket.rename ρ) id)).filter (·.1.run ≠ ρ run) =
      (requests.filter (·.1.run ≠ run)).map (Prod.map (Ticket.rename ρ) id) := by
  rw [List.filter_map]
  refine congrArg _ (List.filter_congr fun request _ => ?_)
  exact decide_eq_decide.mpr (not_congr hρ.eq_iff)

/-- Directors that are alike stay so when a run is concluded. -/
theorem conclude (hd : Alike ρ m m' d e) (hρ : Function.Injective ρ) (scene : String) (run : Uuid)
    (ending : Ending) :
    Alike ρ m m' (d.conclude h.minuted scene run ending)
      (e.conclude k.minuted scene (ρ run) ending) := by
  have hpending : e.pending.filter (·.1.run ≠ ρ run) =
      (d.pending.filter (·.1.run ≠ run)).map (Prod.map (Ticket.rename ρ) id) := by
    rw [hd.pending_eq, filter_pending hρ]
  cases hreason : ending.reason with
  | completed =>
      rw [conclude_of_completed d scene run hreason, conclude_of_completed e scene _ hreason]
      refine record ?_ rfl (.same _)
      exact { hd with
        pending_eq := hpending
        progress := hd.progress.complete scene fun hfalse => hfalse.elim }
  | interrupted =>
      rw [conclude_of_interrupted d scene run hreason, conclude_of_interrupted e scene _ hreason]
      refine record ?_ rfl (.same _)
      exact { hd with pending_eq := hpending }

/-- Something is shown by both. -/
theorem present (hd : Alike ρ m m' d e) (s : Snapshot) :
    Alike ρ m m' (d.present h.minuted s) (e.present k.minuted (s.rename ρ)) := by
  obtain ⟨more, more', hminutes, hminutes', hshown⟩ := hd.shown
  refine { hd with shown := ⟨more ++ [.shown s], more' ++ [.shown (s.rename ρ)], ?_, ?_, ?_⟩ }
  · rw [← List.append_assoc, ← hminutes]
    rfl
  · rw [← List.append_assoc, ← hminutes']
    rfl
  · rw [snapshotsOf_append, snapshotsOf_append, hshown, List.map_append]
    rfl

/-- A command is given by both, and either game may refuse it. -/
theorem dispatch (hd : Alike ρ m m' d e) (scene : String) (run : Uuid) (command : HostCommand) :
    Alike ρ m m' (carryOut h.minuted scene run d (.dispatch command))
      (carryOut k.minuted scene (ρ run) e (.dispatch command)) := by
  obtain ⟨more, more', hminutes, hminutes', hshown⟩ := hd.shown
  refine record (d := { d with stage := (h.minuted.dispatch command d.stage).2 })
    (e := { e with stage := (k.minuted.dispatch command e.stage).2 })
    { hd with shown := ⟨more ++ [.told command (h.minuted.dispatch command d.stage).1],
        more' ++ [.told command (k.minuted.dispatch command e.stage).1], ?_, ?_, ?_⟩ }
    rfl (.command scene command ?_ ?_)
  · rw [← List.append_assoc, ← hminutes]
    rfl
  · rw [← List.append_assoc, ← hminutes']
    rfl
  · rw [snapshotsOf_append, snapshotsOf_append, hshown, List.map_append]
    rfl
  · split
    · exact .dispatched
    · exact .failed _
  · split
    · exact .dispatched
    · exact .failed _

/-- They stay alike when an effect is carried out. -/
theorem carryOut (hd : Alike ρ m m' d e) (hρ : Function.Injective ρ) (scene : String) (run : Uuid)
    (effect : Effect) :
    Alike ρ m m' (Director.carryOut h.minuted scene run d effect)
      (Director.carryOut k.minuted scene (ρ run) e (effect.rename ρ)) := by
  cases effect with
  | flagChanged flag old new =>
      exact record (d := { d with dirty := true }) (e := { e with dirty := true }) { hd with } rfl
        (.same (.flagChanged flag old new))
  | counterChanged counter old new =>
      exact record (d := { d with dirty := true }) (e := { e with dirty := true }) { hd with } rfl
        (.same (.counterChanged counter old new))
  | dispatch command => exact hd.dispatch scene run command
  | measure ticket anchor =>
      refine { hd with pending_eq := ?_ }
      rw [Director.carryOut, Effect.rename, Director.carryOut, hd.pending_eq, List.map_append]
      rfl
  | present s => exact hd.present s
  | ended ending => exact hd.conclude hρ scene run ending

/-- **Turns that are alike are followed alike.** Induction on the effects. -/
theorem follow (hd : Alike ρ m m' d e) (hρ : Function.Injective ρ) {t u : Turn}
    (htu : Turn.Alike ρ t u) :
    Alike ρ m m' (d.follow h.minuted t.run t.progress t.effects)
      (e.follow k.minuted u.run u.progress u.effects) := by
  obtain ⟨hrun, hprogress, heffects⟩ := htu
  have hstart := hd.adopt hrun hprogress
  have hid : u.run.id = ρ t.run.id := by rw [hrun]; rfl
  have hscene : u.run.scene.id = t.run.scene.id := by rw [hrun]; rfl
  rw [Director.follow, Director.follow, heffects, hid, hscene]
  generalize ({ d with run := some t.run, progress := t.progress } : Director _) = d₀ at hstart
  generalize ({ e with run := some u.run, progress := u.progress } : Director _) = e₀ at hstart
  generalize t.effects = effects
  induction effects generalizing d₀ e₀ with
  | nil => exact hstart
  | cons effect rest ih => exact ih _ _ (hstart.carryOut hρ _ _ effect)

/-! ### Parts of operations -/

/-- A turn is taken over by both, or there is none. -/
theorem take (hd : Alike ρ m m' d e) (hρ : Function.Injective ρ) {t u : Option Turn}
    (htu : Option.Rel (Turn.Alike ρ) t u) :
    (e.take k.minuted u).1 = (d.take h.minuted t).1 ∧
      Alike ρ m m' (d.take h.minuted t).2 (e.take k.minuted u).2 := by
  cases htu with
  | none => exact ⟨rfl, hd⟩
  | some htu => exact ⟨rfl, hd.follow hρ htu⟩

/-- The run is asked by both. -/
theorem bind (hd : Alike ρ m m' d e) {ask ask' : Run → Option Turn}
    (hask : ∀ run, Option.Rel (Turn.Alike ρ) (ask run) (ask' (run.rename ρ))) :
    Option.Rel (Turn.Alike ρ) (d.run.bind ask) (e.run.bind ask') := by
  rw [hd.run_eq]
  cases d.run with
  | none => exact .none
  | some run => exact hask run

/-- They give the same answer and stay alike when they break off what is played. -/
theorem stop (hd : Alike ρ m m' d e) (hρ : Function.Injective ρ) :
    (e.stop k.minuted).1 = (d.stop h.minuted).1 ∧
      Alike ρ m m' (d.stop h.minuted).2 (e.stop k.minuted).2 := by
  rw [Director.stop, Director.stop, hd.activeRun?_eq]
  cases d.activeRun? with
  | none => exact ⟨rfl, hd⟩
  | some run =>
      have hboth := Run.interrupt_rename hρ hd.progress run
      have hturn : Turn.Alike ρ
          ⟨(run.interrupt d.progress).1, d.progress, (run.interrupt d.progress).2⟩
          ⟨((run.rename ρ).interrupt e.progress).1, e.progress,
            ((run.rename ρ).interrupt e.progress).2⟩ :=
        ⟨by rw [hboth]; rfl, hd.progress, by rw [hboth]; rfl⟩
      exact ⟨rfl, hd.follow hρ hturn⟩

/-- **A scene starts in both.** -/
theorem play (hd : Alike ρ m m' d e) (hids : h.ids.Renames ρ k.ids n) (hn : d.started < n)
    (scene : Scene) : Alike ρ m m' (d.play h.minuted scene) (e.play k.minuted scene) := by
  have hstopped := (hd.stop (h := h) (k := k) hids.injective).2
  have hstarted : (d.stop h.minuted).2.started = d.started := started_stop d
  rw [play_eq_debut, play_eq_debut]
  generalize (d.stop h.minuted).2 = d₁ at *
  generalize (e.stop k.minuted).2 = e₁ at *
  have hid : k.minuted.ids.run e₁.started = ρ (h.minuted.ids.run d₁.started) := by
    rw [hstopped.started_eq]
    exact hids.run_eq _ (hstarted ▸ hn)
  have hnew : Run.start (k.minuted.ids.run e₁.started) scene e₁.progress =
      (Run.start (h.minuted.ids.run d₁.started) scene d₁.progress).rename ρ := by
    rw [hid, Run.start, ← hstopped.progress.flags_eq, ← hstopped.progress.counters_eq]
    rfl
  have htouched := fun s t => hstopped.progress.touch (s := s) (t := t) scene.id
    fun hfalse => hfalse.elim
  have hopening : Turn.Alike ρ (d₁.opening h.minuted scene) (e₁.opening k.minuted scene) := by
    rw [opening, opening, hnew]
    exact Run.alike_advance hids.injective (htouched _ _) _
  refine follow ?_ hids.injective hopening
  refine record ?_ hid ?_
  · exact { hstopped with
      started_eq := congrArg (· + 1) hstopped.started_eq
      progress := htouched _ _ }
  · rw [hid]
    exact .same (.sceneStarted scene.id scene.version _)

/-- A flag is written by both, and a run that waits for it goes on. -/
theorem setFlag (hd : Alike ρ m m' d e) (hids : h.ids.Renames ρ k.ids n) (flag : String)
    (value : Bool) : Alike ρ m m' (d.setFlag h.minuted flag value)
      (e.setFlag k.minuted flag value) := by
  have hprogress := hd.progress.setFlag flag value
  have hwritten : Alike ρ m m' (d.writeFlag h.minuted flag value)
      (e.writeFlag k.minuted flag value) := by
    refine record (hd.replace hprogress _ _ _ _) (hd.correlation_eq hids) ?_
    rw [hd.progress.flag_eq]
    exact .same (.flagChanged flag _ value)
  rw [setFlag_eq, setFlag_eq]
  exact (hwritten.take hids.injective
    (hd.bind fun run => Run.alike_notifyFlag hids.injective hprogress run)).2

/-- They stay alike when a counter is set. -/
theorem setCounter (hd : Alike ρ m m' d e) (hids : h.ids.Renames ρ k.ids n) (counter : String)
    (value : Int64) : Alike ρ m m' (d.setCounter h.minuted counter value)
      (e.setCounter k.minuted counter value) := by
  refine record (hd.replace (hd.progress.setCounter counter value) _ _ _ _)
    (hd.correlation_eq hids) ?_
  rw [hd.progress.counter_eq]
  exact .same (.counterChanged counter _ value)

/-- They give the same answer to a choice and stay alike. -/
theorem choose (hd : Alike ρ m m' d e) (hρ : Function.Injective ρ) (option : Nat) :
    (e.choose k.minuted option).1 = (d.choose h.minuted option).1 ∧
      Alike ρ m m' (d.choose h.minuted option).2 (e.choose k.minuted option).2 := by
  rw [Director.choose, Director.choose, hd.run_eq]
  cases d.run with
  | none => exact ⟨rfl, hd⟩
  | some run =>
      rw [Option.map_some]
      dsimp only
      rcases Run.alike_choose hρ hd.progress run option with
        ⟨t, u, ht, hu, htu⟩ | ⟨fault, ht, hu⟩
      · rw [ht, hu]
        exact ⟨rfl, hd.follow hρ htu⟩
      · rw [ht, hu]
        exact ⟨rfl, hd⟩

/-! ### Places -/

/-- **Places are asked for by both**, and the games find the same. -/
theorem resolve (hd : Alike ρ m m' d e) (hρ : Function.Injective ρ) {more more' : List Exchange}
    (hminutes : (d.resolve h.minuted).minutes = d.minutes ++ more)
    (hminutes' : (e.resolve k.minuted).minutes = e.minutes ++ more')
    (hsame : SameFinds (measurementsOf more) (measurementsOf more')) :
    Alike ρ m m' (d.resolve h.minuted) (e.resolve k.minuted) := by
  obtain ⟨founds, found, hlength, hmore, -, hmeasured, hshown, hrun⟩ :=
    exists_minutes_resolve (h := h) d
  obtain ⟨founds', found', hlength', hmore', -, hmeasured', hshown', hrun'⟩ :=
    exists_minutes_resolve (h := k) e
  obtain rfl : more = found := List.append_cancel_left (hminutes.symm.trans hmore)
  obtain rfl : more' = found' := List.append_cancel_left (hminutes'.symm.trans hmore')
  -- The tickets differ by their runs only, and what was found for them is the same.
  have htickets : e.pending.map Prod.fst = (d.pending.map Prod.fst).map (Ticket.rename ρ) := by
    rw [hd.pending_eq, List.map_map, List.map_map]
    rfl
  have hanchors : e.pending.map Prod.snd = d.pending.map Prod.snd := by
    rw [hd.pending_eq, List.map_map]
    rfl
  have hfounds : founds'.map Measurement.usable? = founds.map Measurement.usable? := by
    refine (hsame.usable_eq ?_ ?_ hmeasured (hanchors ▸ hmeasured')).symm
    · rw [hlength, List.length_map]
    · rw [hlength', hd.pending_eq, List.length_map, List.length_map]
  have hplaces : (e.pending.map Prod.fst).zip (founds'.map Measurement.usable?) =
      ((d.pending.map Prod.fst).zip (founds.map Measurement.usable?)).map
        (Prod.map (Ticket.rename ρ) id) := by
    rw [htickets, hfounds, List.zip_map_left]
  rw [hplaces, hd.run_eq] at hshown' hrun'
  obtain ⟨stage, run, heq⟩ := exists_resolve h.minuted d
  obtain ⟨stage', run', heq'⟩ := exists_resolve k.minuted e
  obtain ⟨before, before', hbefore, hbefore', hsnapshots⟩ := hd.shown
  rw [hbefore, List.append_assoc] at hminutes
  rw [hbefore', List.append_assoc] at hminutes'
  refine ⟨?_, ?_, ?_, ?_, ?_, ?_, ?_, ⟨_, _, hminutes, hminutes', ?_⟩⟩
  · rw [heq, heq']
    exact hd.roster_eq
  · rw [heq, heq']
    exact hd.progress
  · rw [hrun, hrun']
    cases d.run with
    | none => rfl
    | some run =>
        rw [Option.map_some, Option.map_some, Option.map_some, Option.map_some,
          placeAll_rename hρ]
        rfl
  · rw [heq, heq']
    exact hd.started_eq
  · rw [pending_resolve, pending_resolve]
    rfl
  · rw [heq, heq']
    exact hd.recorded_eq
  · rw [heq, heq']
    exact hd.events
  · rw [snapshotsOf_append, snapshotsOf_append, hsnapshots, List.map_append, hshown, hshown']
    cases d.run with
    | none => rfl
    | some run =>
        rw [Option.map_some, Option.elim_some, Option.elim_some, placeAll_rename hρ]
        rfl

/-! ### Cues -/

section Perform

variable {ω ω' : Type} {store : Store (StateM ω)} {store' : Store (StateM ω')}

/-- Saving changes nothing but whether there is something to save. -/
theorem flush (hd : Alike ρ m m' d e) (w : ω) (w' : ω') :
    Alike ρ m m' ((d.flush store).run w).1.2 ((e.flush store').run w').1.2 := by
  obtain ⟨yes, dirty, w₁, hflush⟩ := exists_flush store w d
  obtain ⟨yes', dirty', w₁', hflush'⟩ := exists_flush store' w' e
  rw [hflush, hflush']
  exact { hd with }

/-- They start the same scene on an event, if any, and stay alike. -/
theorem notice (hd : Alike ρ m m' d e) (hids : h.ids.Renames ρ k.ids n) (event : GameEvent)
    (hn : (d.notice h.minuted event).2.started ≤ n) :
    (e.notice k.minuted event).1 = (d.notice h.minuted event).1 ∧
      Alike ρ m m' (d.notice h.minuted event).2 (e.notice k.minuted event).2 := by
  have hselect : e.roster.select? event e.progress e.active? =
      d.roster.select? event d.progress d.active? := by
    rw [Roster.select?, Roster.select?, hd.eligible_eq]
  rw [Director.notice] at hn
  rw [Director.notice, Director.notice, hselect]
  cases hscene : d.roster.select? event d.progress d.active? with
  | none => exact ⟨rfl, hd⟩
  | some scene =>
      rw [hscene] at hn
      exact ⟨rfl, hd.play hids (by rw [started_play] at hn; exact hn) scene⟩

/-- They start a scene, or refuse to, and stay alike. -/
theorem start (hd : Alike ρ m m' d e) (hids : h.ids.Renames ρ k.ids n) (id : String)
    (hn : (d.start h.minuted id).2.started ≤ n) :
    (e.start k.minuted id).1 = (d.start h.minuted id).1 ∧
      Alike ρ m m' (d.start h.minuted id).2 (e.start k.minuted id).2 := by
  rw [Director.start] at hn
  rw [Director.start, Director.start, hd.roster_eq]
  cases hscene : d.roster.get? id with
  | none => exact ⟨rfl, hd⟩
  | some scene =>
      rw [hscene] at hn
      exact ⟨rfl, hd.play hids (by rw [started_play] at hn; exact hn) scene⟩

/-- **What is done on a cue is alike**, if loading finds the same and the games find the same. So
are the answers, except whether progress has been saved. -/
theorem perform (hd : Alike ρ m m' d e) (hids : h.ids.Renames ρ k.ids n) {cue : Cue}
    {reply reply' : Reply} {f : Director (σ × List Exchange)} {f' : Director (τ × List Exchange)}
    {w w₁ : ω} {w' w₁' : ω'}
    (hp : (d.perform h.minuted store cue).run w = ((reply, f), w₁))
    (hp' : (e.perform k.minuted store' (cue.rename ρ)).run w' = ((reply', f'), w₁'))
    (hn : f.started ≤ n) (hload : ∀ ns, cue = .load ns → Agrees False f.progress f'.progress)
    (hfinds : ∀ more more', f.minutes = d.minutes ++ more → f'.minutes = e.minutes ++ more' →
      SameFinds (measurementsOf more) (measurementsOf more')) :
    (cue ≠ .flush → cue ≠ .settle → Reply.Alike ρ reply reply') ∧ Alike ρ m m' f f' := by
  have hρ := hids.injective
  -- Places are asked for on two of the cues, and only there it matters what the games find.
  have hresolve : cue.resolves = true → f.minutes = (d.resolve h.minuted).minutes →
      f'.minutes = (e.resolve k.minuted).minutes →
      Alike ρ m m' (d.resolve h.minuted) (e.resolve k.minuted) := by
    intro _ hsame hsame'
    obtain ⟨_, more, -, hmore, -⟩ := exists_minutes_resolve (h := h) d
    obtain ⟨_, more', -, hmore', -⟩ := exists_minutes_resolve (h := k) e
    exact hd.resolve hρ hmore hmore' (hfinds _ _ (hsame.trans hmore) (hsame'.trans hmore'))
  -- From here on the answers and the directors are spoken of as what each cue leads to.
  obtain rfl : ((d.perform h.minuted store cue).run w).1.1 = reply := by rw [hp]
  obtain rfl : ((d.perform h.minuted store cue).run w).1.2 = f := by rw [hp]
  obtain rfl : ((e.perform k.minuted store' (cue.rename ρ)).run w').1.1 = reply' := by rw [hp']
  obtain rfl : ((e.perform k.minuted store' (cue.rename ρ)).run w').1.2 = f' := by rw [hp']
  cases cue with
  | load ns =>
      have hprogress := hload ns rfl
      rw [Cue.rename, perform_load, perform_load] at hprogress ⊢
      dsimp only at hprogress ⊢
      exact ⟨fun _ _ => .same _ rfl, (hd.stop hρ).2.replace hprogress _ _ _ _⟩
  | flush =>
      refine ⟨fun hno => absurd rfl hno, ?_⟩
      simp only [Director.perform, Cue.rename, StateT.run_bind]
      exact hd.flush w w'
  | settle =>
      refine ⟨fun _ hno => absurd rfl hno, ?_⟩
      obtain ⟨yes, dirty, w₂, hflush⟩ := exists_flush store w (d.resolve h.minuted)
      obtain ⟨yes', dirty', w₂', hflush'⟩ := exists_flush store' w' (e.resolve k.minuted)
      simp only [Director.perform, Cue.rename, Director.settle, StateT.run_bind, hflush,
        hflush'] at hresolve ⊢
      exact { hresolve rfl rfl rfl with }
  | resolve => exact ⟨fun _ _ => .same _ rfl, hresolve rfl rfl rfl⟩
  | register scene =>
      refine ⟨fun _ _ => ?_, { hd with roster_eq := congrArg (·.upsert scene) hd.roster_eq }⟩
      change Reply.Alike ρ (.answer (d.roster.contains scene.id))
        (.answer (e.roster.contains scene.id))
      rw [hd.roster_eq]
      exact .same _ rfl
  | unregister id =>
      refine ⟨fun _ _ => ?_, { hd with roster_eq := congrArg (·.remove id) hd.roster_eq }⟩
      change Reply.Alike ρ (.answer (d.roster.contains id)) (.answer (e.roster.contains id))
      rw [hd.roster_eq]
      exact .same _ rfl
  | notice event =>
      obtain ⟨hreply, hdone⟩ := hd.notice hids event hn
      refine ⟨fun _ _ => ?_, hdone⟩
      change Reply.Alike ρ (.started (d.notice h.minuted event).1)
        (.started (e.notice k.minuted event).1)
      rw [hreply]
      exact .same _ rfl
  | start id =>
      obtain ⟨hreply, hdone⟩ := hd.start hids id hn
      refine ⟨fun _ _ => ?_, hdone⟩
      change Reply.Alike ρ (.ofExcept (d.start h.minuted id).1)
        (.ofExcept (e.start k.minuted id).1)
      rw [hreply]
      exact .same _ (Reply.events_ofExcept _)
  | stop =>
      obtain ⟨hreply, hdone⟩ := hd.stop (h := h) (k := k) hρ
      refine ⟨fun _ _ => ?_, hdone⟩
      change Reply.Alike ρ (.answer (d.stop h.minuted).1) (.answer (e.stop k.minuted).1)
      rw [hreply]
      exact .same _ rfl
  | choose option =>
      obtain ⟨hreply, hdone⟩ := hd.choose (h := h) (k := k) hρ option
      refine ⟨fun _ _ => ?_, hdone⟩
      change Reply.Alike ρ (.ofExcept (d.choose h.minuted option).1)
        (.ofExcept (e.choose k.minuted option).1)
      rw [hreply]
      exact .same _ (Reply.events_ofExcept _)
  | acknowledge =>
      have hturn : Option.Rel (Turn.Alike ρ) (d.run.bind (·.acknowledge? d.progress))
          (e.run.bind (·.acknowledge? e.progress)) :=
        hd.bind fun run => Run.alike_acknowledge hρ hd.progress run
      obtain ⟨hreply, hdone⟩ := hd.take (h := h) (k := k) hρ hturn
      refine ⟨fun _ _ => ?_, hdone⟩
      change Reply.Alike ρ (.answer (d.acknowledge h.minuted).1)
        (.answer (e.acknowledge k.minuted).1)
      rw [acknowledge, acknowledge, hreply]
      exact .same _ rfl
  | resume ticket =>
      have hturn : Option.Rel (Turn.Alike ρ) (d.run.bind (·.resumeTimer? d.progress ticket))
          (e.run.bind (·.resumeTimer? e.progress (ticket.rename ρ))) :=
        hd.bind fun run => Run.alike_resumeTimer hρ hd.progress run ticket
      obtain ⟨hreply, hdone⟩ := hd.take (h := h) (k := k) hρ hturn
      refine ⟨fun _ _ => ?_, hdone⟩
      change Reply.Alike ρ (.answer (d.resume h.minuted ticket).1)
        (.answer (e.resume k.minuted (ticket.rename ρ)).1)
      rw [resume, resume, hreply]
      exact .same _ rfl
  | setFlag flag value => exact ⟨fun _ _ => .same _ rfl, hd.setFlag hids flag value⟩
  | setCounter counter value => exact ⟨fun _ _ => .same _ rfl, hd.setCounter hids counter value⟩
  | takeEvents => exact ⟨fun _ _ => .collected hd.events, { hd with events := .nil }⟩

end Perform

end Alike

end Director

end Cutscene
