import Cutscene.Director.Cue
import Cutscene.Proofs.Run.Coherence
import Cutscene.Proofs.Run.Tickets
import Mathlib.Data.List.Induction

/-!
# What a Director Does

Whatever a director is told, other than to load, to save or to hand its events over, it does a few
things in a row: it changes its roster, asks for places, writes progress, and breaks off, answers or
starts a run. A relation that holds from before to after each of these covers all that a director
does (`Director.Covers`), so that no later proof opens an operation again.

The relation that says no more than what is done is that of the deeds, eight things each with the
tickets that are given out in the course of it (`Deed`, `Deeds`). Saving is a deed. A director that
loads progress, or whose events are collected, does one thing more; these two are kept apart,
because they begin a new account of progress and of the log.

## Main results

* `Director.Covers.stop`, `Director.activeRun?_stop`: breaking off the scene that is played is
  covered, and leaves none active.
* `Director.Covers.perform`: so is what is done on a cue other than to load, to save or to collect,
  which gives out the tickets of the turn that it leads to (`Director.issued`).
* `Director.deeds_of_perform`: a cue other than to load or to collect leads to deeds.
* `Director.perform_load`, `Director.perform_takeEvents`: what the two other cues lead to.
* `Director.perform_keeps`: what is kept by all that a director does on its own, and by saving and
  collecting, is kept on every cue but to load.
-/

namespace Cutscene

namespace Director

variable {σ : Type} (h : Host σ)

/-! ### Parts of operations -/

/-- The first turn of a new run of a scene. -/
def opening (d : Director σ) (scene : Scene) : Turn :=
  (Run.start (h.ids.run d.started) scene d.progress).advance
    (d.progress.touch scene.id (h.now d.stage).1.stamp)

/-- Notes that a scene is seen, and records that it starts. -/
def announce (d : Director σ) (scene : Scene) : Director σ :=
  { d with
      stage := (h.now d.stage).2
      started := d.started + 1
      progress := d.progress.touch scene.id (h.now d.stage).1.stamp
      dirty := true }.record h (h.ids.run d.started)
    (.sceneStarted scene.id scene.version (h.ids.run d.started))

/-- Starts a scene while none is played. -/
def debut (d : Director σ) (scene : Scene) : Director σ :=
  (d.announce h scene).follow h (d.opening h scene).run (d.opening h scene).progress
    (d.opening h scene).effects

/-- Writes a flag, whether or not a run waits for it. -/
def writeFlag (d : Director σ) (flag : String) (value : Bool) : Director σ :=
  { d with progress := d.progress.setFlag flag value, dirty := true }.record h
    (d.correlation h) (.flagChanged flag (d.progress.flag flag) value)

/-- Playing a scene is breaking off what is played, and then starting it. -/
theorem play_eq_debut (d : Director σ) (scene : Scene) :
    d.play h scene = (d.stop h).2.debut h scene := rfl

/-- Setting a flag is writing it, and then letting a run go on that waits for it. -/
theorem setFlag_eq (d : Director σ) (flag : String) (value : Bool) :
    d.setFlag h flag value =
      ((d.writeFlag h flag value).take h
        (d.run.bind (·.notifyFlag? (d.progress.setFlag flag value)))).2 := rfl

/-- The progress that comes of what a store answers. -/
def loaded : Except Fault (Option Progress) → Progress
  | .ok (some progress) => progress
  | .ok none | .error _ => .empty

/-- The turn of a run that a cue leads to, if it leads to one. -/
def turn? (d : Director σ) : Cue → Option Turn
  | .notice e => (d.roster.select? e d.progress d.active?).map ((d.stop h).2.opening h)
  | .start id => (d.roster.get? id).map ((d.stop h).2.opening h)
  | .choose option => d.run.bind fun run => (run.choose d.progress option).toOption
  | .acknowledge => d.run.bind (·.acknowledge? d.progress)
  | .resume ticket => d.run.bind (·.resumeTimer? d.progress ticket)
  | .setFlag flag value => d.run.bind (·.notifyFlag? (d.progress.setFlag flag value))
  | .load _ | .flush | .resolve | .settle | .register _ | .unregister _ | .stop
  | .setCounter .. | .takeEvents => none

/-- The tickets that are given out on a cue. -/
def issued (d : Director σ) (cue : Cue) : List Ticket := (d.turn? h cue).elim [] Turn.issued

/-! ### Deeds -/

/-- One thing that a director does, and the tickets that are given out in the course of it. -/
inductive Deed : Director σ → List Ticket → Director σ → Prop
  /-- Scenes come and go, and progress is saved. -/
  | manage (d : Director σ) (roster : Roster) (dirty : Bool) :
      Deed d [] { d with roster, dirty }
  /-- The requests for places are about to be met. -/
  | withdraw (d : Director σ) : Deed d [] { d with pending := [] }
  /-- A place is asked for. -/
  | locate (d : Director σ) (ticket : Ticket) (anchor : String) :
      Deed d [] (d.locate h ticket anchor)
  /-- A flag is written from outside. -/
  | writeFlag (d : Director σ) (flag : String) (value : Bool) :
      Deed d [] (d.writeFlag h flag value)
  /-- A counter is written from outside. -/
  | setCounter (d : Director σ) (counter : String) (value : Int64) :
      Deed d [] (d.setCounter h counter value)
  /-- The active run is broken off. -/
  | interrupt {d : Director σ} {run : Run} (hrun : d.run = some run)
      (hactive : run.state.isActive = true) :
      Deed d [] (d.follow h (run.interrupt d.progress).1 d.progress
        (run.interrupt d.progress).2)
  /-- The run gets an answer that it accepts. -/
  | answer {d : Director σ} {run : Run} {turn : Turn} (hrun : d.run = some run)
      (hturn : run.Answers d.progress turn) :
      Deed d turn.issued (d.follow h turn.run turn.progress turn.effects)
  /-- A scene starts while none is played. -/
  | debut {d : Director σ} (scene : Scene) (hidle : d.activeRun? = none) :
      Deed d (d.opening h scene).issued (d.debut h scene)

/-- Deeds, one after the other, and the tickets that are given out in the course of them. -/
inductive Deeds : Director σ → List Ticket → Director σ → Prop
  | nil (d : Director σ) : Deeds d [] d
  | snoc {d e f : Director σ} {ts us : List Ticket} (hdeeds : Deeds d ts e)
      (hdeed : Deed h e us f) : Deeds d (ts ++ us) f

variable {h}

/-- One deed is a row of deeds. -/
theorem Deed.deeds {d e : Director σ} {ts : List Ticket} (hd : Deed h d ts e) :
    Deeds h d ts e :=
  Deeds.snoc (.nil d) hd

/-- Deeds go on with further ones. Induction on the later ones. -/
theorem Deeds.trans {d e f : Director σ} {ts us : List Ticket} (hd : Deeds h d ts e)
    (he : Deeds h e us f) : Deeds h d (ts ++ us) f := by
  induction he with
  | nil => rw [List.append_nil]; exact hd
  | snoc _ hdeed ih => rw [← List.append_assoc]; exact ih.snoc hdeed

/-- What every deed keeps, deeds keep. The assertion may speak of the tickets that have been given
out. -/
theorem Deeds.induction {P : List Ticket → Director σ → Prop}
    (hP : ∀ {us : List Ticket} {d e : Director σ} {ts : List Ticket}, Deed h d ts e →
      P us d → P (us ++ ts) e)
    (us : List Ticket) {ts : List Ticket} {d e : Director σ} (hd : Deeds h d ts e)
    (h₀ : P us d) : P (us ++ ts) e := by
  induction hd with
  | nil => rw [List.append_nil]; exact h₀
  | snoc _ hdeed ih => rw [← List.append_assoc]; exact hP hdeed ih

/-! ### Frames -/

/-- Recording an event leaves the run as it is. -/
@[simp] theorem run_record (d : Director σ) (correlation : Uuid) (occurrence : Occurrence) :
    (d.record h correlation occurrence).run = d.run := rfl

/-- It starts no run. -/
@[simp] theorem started_record (d : Director σ) (correlation : Uuid) (occurrence : Occurrence) :
    (d.record h correlation occurrence).started = d.started := rfl

/-- Carrying out an effect leaves the run as it is. -/
@[simp] theorem run_carryOut (scene : String) (run : Uuid) (d : Director σ) (e : Effect) :
    (carryOut h scene run d e).run = d.run := by
  cases e with
  | ended ending =>
      rw [carryOut, conclude, run_record]
      split <;> rfl
  | _ => rfl

/-- It starts no run. -/
@[simp] theorem started_carryOut (scene : String) (run : Uuid) (d : Director σ) (e : Effect) :
    (carryOut h scene run d e).started = d.started := by
  cases e with
  | ended ending =>
      rw [carryOut, conclude, started_record]
      split <;> rfl
  | _ => rfl

/-- What carrying out an effect keeps, following a turn keeps. -/
theorem follow_induction {P : Director σ → Prop} {run : Run} {progress : Progress}
    {effects : List Effect}
    (hP : ∀ {d : Director σ} (e : Effect), e ∈ effects → P d →
      P (carryOut h run.scene.id run.id d e))
    {d : Director σ} (h₀ : P { d with run := some run, progress }) :
    P (d.follow h run progress effects) := by
  rw [follow]
  generalize { d with run := some run, progress } = d₀ at h₀
  induction effects generalizing d₀ with
  | nil => exact h₀
  | cons e rest ih =>
      exact ih (fun f hf => hP f (List.mem_cons_of_mem _ hf)) _
        (hP e List.mem_cons_self h₀)

/-- What is said of the effects that have been carried out so far, and is kept by carrying out one
more, holds of a turn that has been followed. -/
theorem follow_effects_induction {P : List Effect → Director σ → Prop} {run : Run}
    {progress : Progress} {d : Director σ}
    (hP : ∀ {done : List Effect} {e : Director σ} (effect : Effect), P done e →
      P (done ++ [effect]) (carryOut h run.scene.id run.id e effect))
    (h₀ : P [] { d with run := some run, progress }) (effects : List Effect) :
    P effects (d.follow h run progress effects) := by
  induction effects using List.reverseRecOn with
  | nil => exact h₀
  | append_singleton done effect ih =>
      rw [follow, List.foldl_append]
      exact hP effect ih

/-- After a turn the director has the run of the turn. -/
@[simp] theorem run_follow (d : Director σ) (run : Run) (progress : Progress)
    (effects : List Effect) : (d.follow h run progress effects).run = some run :=
  follow_induction (P := fun e => e.run = some run)
    (fun e _ hd => by rw [run_carryOut]; exact hd) rfl

/-- Following a turn starts no run. -/
@[simp] theorem started_follow (d : Director σ) (run : Run) (progress : Progress)
    (effects : List Effect) : (d.follow h run progress effects).started = d.started :=
  follow_induction (P := fun e => e.started = d.started)
    (fun e _ hd => by rw [started_carryOut]; exact hd) rfl

/-- What asking for a place keeps, asking for all that are wanted keeps. -/
theorem resolve_induction {P : Director σ → Prop}
    (hP : ∀ {d : Director σ} (ticket : Ticket) (anchor : String), P d →
      P (d.locate h ticket anchor))
    {d : Director σ} (h₀ : P { d with pending := [] }) : P (d.resolve h) := by
  rw [resolve]
  generalize ({ d with pending := [] } : Director σ) = d₀ at h₀ ⊢
  generalize d.pending = pending
  induction pending generalizing d₀ with
  | nil => exact h₀
  | cons request rest ih => exact ih _ (hP request.1 request.2 h₀)

/-- Breaking off the scene that is played leaves none active. -/
theorem activeRun?_stop (d : Director σ) : (d.stop h).2.activeRun? = none := by
  rw [stop]
  cases hrun : d.activeRun? with
  | none => exact hrun
  | some run =>
      obtain ⟨hrun, hactive⟩ := Option.filter_eq_some_iff.mp hrun
      dsimp only
      rw [activeRun?, run_follow, Run.interrupt, if_pos hactive]
      dsimp only
      rw [Option.filter_some, Run.state_present]
      rfl

/-- Breaking off starts no run. -/
@[simp] theorem started_stop (d : Director σ) : (d.stop h).2.started = d.started := by
  rw [stop]
  cases d.activeRun? with
  | none => rfl
  | some run => exact started_follow _ _ _ _

/-- A scene that is played is one more run. -/
theorem started_play (d : Director σ) (scene : Scene) :
    (d.play h scene).started = d.started + 1 := by
  rw [play_eq_debut, debut, started_follow]
  exact congrArg (· + 1) (started_stop d)

/-! ### What covers all that is done -/

/-- The relation of a director, the tickets that are given out, and the director afterwards, holds
of each thing that a director does on its own. -/
structure Covers (h : Host σ) (R : Director σ → List Ticket → Director σ → Prop) : Prop where
  refl : ∀ d, R d [] d
  trans : ∀ {d e f : Director σ} {ts us : List Ticket}, R d ts e → R e us f → R d (ts ++ us) f
  /-- Scenes come and go. -/
  manage : ∀ (d : Director σ) (roster : Roster), R d [] { d with roster }
  /-- The requests for places are about to be met. -/
  withdraw : ∀ d : Director σ, R d [] { d with pending := [] }
  /-- A place is asked for. -/
  locate : ∀ (d : Director σ) (ticket : Ticket) (anchor : String),
    R d [] (d.locate h ticket anchor)
  /-- A flag is written from outside, and a run that waits for it goes on. -/
  setFlag : ∀ (d : Director σ) (flag : String) (value : Bool),
    R d (d.issued h (.setFlag flag value)) (d.setFlag h flag value)
  /-- A counter is written from outside. -/
  setCounter : ∀ (d : Director σ) (counter : String) (value : Int64),
    R d [] (d.setCounter h counter value)
  /-- The active run is broken off. -/
  interrupt : ∀ {d : Director σ} {run : Run}, d.run = some run → run.state.isActive = true →
    R d [] (d.follow h (run.interrupt d.progress).1 d.progress (run.interrupt d.progress).2)
  /-- The run gets an answer that it accepts. -/
  answer : ∀ {d : Director σ} {run : Run} {turn : Turn}, d.run = some run →
    run.Answers d.progress turn →
    R d turn.issued (d.follow h turn.run turn.progress turn.effects)
  /-- A scene starts while none is played. -/
  debut : ∀ {d : Director σ} (scene : Scene), d.activeRun? = none →
    R d (d.opening h scene).issued (d.debut h scene)

namespace Covers

variable {R : Director σ → List Ticket → Director σ → Prop}

/-- Breaking off the scene that is played is covered, whether or not there is one. -/
theorem stop (hR : Covers h R) (d : Director σ) : R d [] (d.stop h).2 := by
  rw [Director.stop]
  cases hrun : d.activeRun? with
  | none => exact hR.refl d
  | some run =>
      obtain ⟨hrun, hactive⟩ := Option.filter_eq_some_iff.mp hrun
      exact hR.interrupt hrun hactive

/-- Taking a turn is covered, if it is an answer that the run accepts. -/
theorem take (hR : Covers h R) {d : Director σ} (run : Run) {turn? : Option Turn}
    (hrun : d.run = some run) (hturn : ∀ turn, turn? = some turn → run.Answers d.progress turn) :
    R d (turn?.elim [] Turn.issued) (d.take h turn?).2 := by
  cases turn? with
  | none => exact hR.refl d
  | some turn => exact hR.answer hrun (hturn turn rfl)

/-- Playing a scene is covered, and gives out the tickets of its first turn. -/
theorem play (hR : Covers h R) (d : Director σ) (scene : Scene) :
    R d ((d.stop h).2.opening h scene).issued (d.play h scene) := by
  rw [play_eq_debut]
  have hdebut := hR.debut scene (activeRun?_stop (h := h) d)
  rw [← List.nil_append (Turn.issued _)]
  exact hR.trans (hR.stop d) hdebut

/-- Asking for all places that are pending is covered, place by place. -/
theorem resolve (hR : Covers h R) (d : Director σ) : R d [] (d.resolve h) :=
  resolve_induction (P := R d []) (fun {e} ticket anchor he =>
    hR.trans he (hR.locate e ticket anchor)) (hR.withdraw d)

/-- **Whatever a director does on a cue is covered**, unless it is to load, save or collect. -/
theorem perform (hR : Covers h R) {ω : Type} (store : Store (StateM ω)) (w : ω) (d : Director σ)
    {cue : Cue} (hload : ∀ ns, cue ≠ .load ns) (hflush : cue ≠ .flush) (hsettle : cue ≠ .settle)
    (htake : cue ≠ .takeEvents) : R d (d.issued h cue) ((d.perform h store cue).run w).1.2 := by
  cases cue with
  | load ns => exact absurd rfl (hload ns)
  | flush => exact absurd rfl hflush
  | settle => exact absurd rfl hsettle
  | takeEvents => exact absurd rfl htake
  | resolve => exact hR.resolve d
  | register scene => exact hR.manage d (d.roster.upsert scene)
  | unregister id => exact hR.manage d (d.roster.remove id)
  | notice e =>
      change R d _ (d.notice h e).2
      rw [notice, issued, turn?]
      cases d.roster.select? e d.progress d.active? with
      | none => exact hR.refl d
      | some scene => exact hR.play d scene
  | start id =>
      change R d _ (d.start h id).2
      rw [start, issued, turn?]
      cases d.roster.get? id with
      | none => exact hR.refl d
      | some scene => exact hR.play d scene
  | stop => exact hR.stop d
  | choose option =>
      change R d _ (d.choose h option).2
      rw [choose, issued, turn?]
      cases hrun : d.run with
      | none => exact hR.refl d
      | some run =>
          rw [Option.bind_some]
          cases hturn : run.choose d.progress option with
          | error fault => simp only [hturn]; exact hR.refl d
          | ok turn => simp only [hturn]; exact hR.answer hrun (.choose option hturn)
  | acknowledge =>
      change R d _ (d.acknowledge h).2
      rw [acknowledge, issued, turn?]
      cases hrun : d.run with
      | none => exact hR.refl d
      | some run => exact hR.take run hrun fun turn hturn => .acknowledge hturn
  | resume ticket =>
      change R d _ (d.resume h ticket).2
      rw [resume, issued, turn?]
      cases hrun : d.run with
      | none => exact hR.refl d
      | some run => exact hR.take run hrun fun turn hturn => .resumeTimer ticket hturn
  | setFlag flag value => exact hR.setFlag d flag value
  | setCounter counter value => exact hR.setCounter d counter value

end Covers

/-- A flag that is set is written, and a run that waits for it gets an answer. -/
theorem deeds_setFlag (d : Director σ) (flag : String) (value : Bool) :
    Deeds h d (d.issued h (.setFlag flag value)) (d.setFlag h flag value) := by
  have hwrite := (Deed.writeFlag (h := h) d flag value).deeds
  rw [setFlag_eq, issued, turn?]
  cases hrun : d.run with
  | none => exact hwrite
  | some run =>
      rw [Option.bind_some]
      cases hturn : run.notifyFlag? (d.progress.setFlag flag value) with
      | none => exact hwrite
      | some turn => exact hwrite.snoc (.answer hrun (.notifyFlag hturn))

/-- **Deeds cover all that a director does.** -/
theorem covers_deeds (h : Host σ) : Covers h (Deeds h) where
  refl := .nil
  trans := .trans
  manage d roster := (Deed.manage d roster d.dirty).deeds
  withdraw d := (Deed.withdraw d).deeds
  locate d ticket anchor := (Deed.locate d ticket anchor).deeds
  setFlag := deeds_setFlag
  setCounter d counter value := (Deed.setCounter d counter value).deeds
  interrupt hrun hactive := (Deed.interrupt hrun hactive).deeds
  answer hrun hturn := (Deed.answer hrun hturn).deeds
  debut scene hidle := (Deed.debut scene hidle).deeds

/-! ### Cues -/

section Perform

variable {ω : Type} (h : Host σ) (store : Store (StateM ω)) (w : ω)

/-- Saving changes nothing but the mark. -/
theorem exists_flush (d : Director σ) :
    ∃ yes dirty w', (d.flush store).run w = ((yes, { d with dirty }), w') := by
  rw [flush]
  cases d.dirty with
  | false => exact ⟨_, d.dirty, _, rfl⟩
  | true =>
      simp only [if_true, StateT.run_bind]
      generalize (store.save d.ns d.progress).run w = saved
      obtain ⟨answer | answer, w'⟩ := saved
      · exact ⟨_, d.dirty, w', rfl⟩
      · exact ⟨_, false, w', rfl⟩

/-- Saving is a deed. -/
theorem deeds_flush (d : Director σ) : Deeds h d [] ((d.flush store).run w).1.2 := by
  obtain ⟨yes, dirty, w', hflush⟩ := exists_flush store w d
  rw [hflush]
  exact (Deed.manage d d.roster dirty).deeds

/-- **What loading leads to**: the scene that is played is broken off, and progress and the
namespace are replaced. -/
theorem perform_load (d : Director σ) (ns : Namespace) :
    (d.perform h store (.load ns)).run w =
      ((.done, { (d.stop h).2 with
          progress := loaded ((store.load ns).run w).1, ns, dirty := false }),
        ((store.load ns).run w).2) := rfl

/-- What collecting the events leads to. -/
theorem perform_takeEvents (d : Director σ) :
    (d.perform h store .takeEvents).run w =
      ((.collected d.events, { d with events := #[] }), w) := rfl

/-- **On any other cue a director does deeds.** -/
theorem deeds_of_perform (d : Director σ) {cue : Cue} (hload : ∀ ns, cue ≠ .load ns)
    (htake : cue ≠ .takeEvents) :
    Deeds h d (d.issued h cue) ((d.perform h store cue).run w).1.2 := by
  by_cases hflush : cue = .flush
  · subst hflush
    simp only [perform, StateT.run_bind]
    exact deeds_flush h store w d
  · by_cases hsettle : cue = .settle
    · subst hsettle
      simp only [perform, settle, StateT.run_bind]
      exact ((covers_deeds h).resolve d).trans (deeds_flush h store w _)
    · exact (covers_deeds h).perform store w d hload hflush hsettle htake

/-- Only loading and saving change the store. -/
theorem store_eq_of_perform (d : Director σ) {cue : Cue} (hload : ∀ ns, cue ≠ .load ns)
    (hflush : cue ≠ .flush) (hsettle : cue ≠ .settle) : ((d.perform h store cue).run w).2 = w := by
  cases cue with
  | load ns => exact absurd rfl (hload ns)
  | flush => exact absurd rfl hflush
  | settle => exact absurd rfl hsettle
  | _ => rfl

/-- **What all that a director does keeps, it keeps on a cue**, unless it is to load. The assertion
may speak of the state of the store, which only saving changes. -/
theorem perform_keeps {R : Director σ → List Ticket → Director σ → Prop} (hR : Covers h R)
    {P : Director σ → ω → Prop}
    (hP : ∀ {d e : Director σ} {ts : List Ticket} {w : ω}, R d ts e → P d w → P e w)
    (hsave : ∀ {d : Director σ} {w : ω}, P d w →
      P ((d.flush store).run w).1.2 ((d.flush store).run w).2)
    (hcollect : ∀ {d : Director σ} {w : ω}, P d w → P { d with events := #[] } w)
    {d : Director σ} {w : ω} {cue : Cue} (hload : ∀ ns, cue ≠ .load ns) (hd : P d w) :
    P ((d.perform h store cue).run w).1.2 ((d.perform h store cue).run w).2 := by
  by_cases hflush : cue = .flush
  · subst hflush
    simp only [perform, StateT.run_bind]
    exact hsave hd
  by_cases hsettle : cue = .settle
  · subst hsettle
    simp only [perform, settle, StateT.run_bind]
    exact hsave (hP (hR.resolve d) hd)
  by_cases htake : cue = .takeEvents
  · subst htake
    exact hcollect hd
  rw [store_eq_of_perform h store w d hload hflush hsettle]
  exact hP (hR.perform store w d hload hflush hsettle htake) hd

end Perform

end Director

end Cutscene
