import Cutscene.Proofs.Director.Deeds

/-!
# What Comes of a Cue

Deeds say what a director does, one thing after the other. Where it matters what a cue as a whole
has led to, there are a few cases: the run is answered, a scene starts, the scene that is played is
broken off, places are asked for, or the run and the requests for places are left alone
(`Director.Outcome`). A turn of a run is followed in the first two cases only, and it is the one
that the cue leads to.

## Main results

* `Director.outcome_of_perform`: every cue has one of these outcomes.
-/

namespace Cutscene

/-- The cue is to ask for places. -/
def Cue.resolves : Cue → Bool
  | resolve | settle => true
  | load _ | flush | register _ | unregister _ | notice _ | start _ | stop | choose _ | acknowledge
  | resume _ | setFlag .. | setCounter .. | takeEvents => false

namespace Director

variable {σ : Type} (h : Host σ)

/-- What a director is when its run is answered. If the answer is a flag, it has been written by
then. -/
def answering (d : Director σ) : Cue → Director σ
  | .setFlag flag value => d.writeFlag h flag value
  | .load _ | .flush | .resolve | .settle | .register _ | .unregister _ | .notice _ | .start _
  | .stop | .choose _ | .acknowledge | .resume _ | .setCounter .. | .takeEvents => d

/-- A director that is about to answer has started no other run. -/
@[simp] theorem started_answering (d : Director σ) (cue : Cue) :
    (d.answering h cue).started = d.started := by
  cases cue <;> rfl

/-- It has not asked for a place, either. -/
@[simp] theorem pending_answering (d : Director σ) (cue : Cue) :
    (d.answering h cue).pending = d.pending := by
  cases cue <;> rfl

variable {h} in
/-- A cue that leads to a turn is not one to ask for places. -/
theorem resolves_of_turn {d : Director σ} {cue : Cue} {turn : Turn}
    (hturn : d.turn? h cue = some turn) : cue.resolves = false := by
  cases cue with
  | resolve | settle => cases hturn
  | _ => rfl

/-- What comes of a cue. -/
inductive Outcome (d : Director σ) (cue : Cue) : Director σ → Prop
  /-- The run is answered. -/
  | answer {run : Run} {turn : Turn} (hrun : d.run = some run) (hturn : d.turn? h cue = some turn)
      (hanswers : run.Answers (d.answering h cue).progress turn) :
      Outcome d cue ((d.answering h cue).follow h turn.run turn.progress turn.effects)
  /-- A scene starts. -/
  | debut (scene : Scene) (hturn : d.turn? h cue = some ((d.stop h).2.opening h scene)) :
      Outcome d cue ((d.stop h).2.debut h scene)
  /-- The scene that is played is broken off, and progress may have been loaded. -/
  | stop (hturn : d.turn? h cue = none) (hcue : cue.resolves = false) (progress : Progress)
      (ns : Namespace) (dirty : Bool) :
      Outcome d cue { (d.stop h).2 with progress, ns, dirty }
  /-- Places are asked for, and progress may have been saved. -/
  | resolve (hturn : d.turn? h cue = none) (hcue : cue.resolves = true) (dirty : Bool) :
      Outcome d cue { d.resolve h with dirty }
  /-- Scenes come and go, progress is saved, events are collected, or nothing is done. -/
  | manage (hturn : d.turn? h cue = none) (hcue : cue.resolves = false) (roster : Roster)
      (dirty : Bool) (events : Array Event) :
      Outcome d cue { d with roster, dirty, events }
  /-- A flag is written for which no run waits. -/
  | writeFlag (hturn : d.turn? h cue = none) (hcue : cue.resolves = false) (flag : String)
      (value : Bool) : Outcome d cue (d.writeFlag h flag value)
  /-- A counter is written. -/
  | setCounter (hturn : d.turn? h cue = none) (hcue : cue.resolves = false) (counter : String)
      (value : Int64) : Outcome d cue (d.setCounter h counter value)

namespace Outcome

variable {h} {d e : Director σ} {cue : Cue}

/-- Nothing is done. -/
theorem refl (hturn : d.turn? h cue = none) (hcue : cue.resolves = false) : Outcome h d cue d :=
  .manage hturn hcue d.roster d.dirty d.events

/-- A run is answered by its own turn, or not at all. -/
theorem take {ask : Run → Option Turn} (hask : d.turn? h cue = d.run.bind ask)
    (hcue : cue.resolves = false) (hanswering : d.answering h cue = d)
    (hanswers : ∀ run turn, ask run = some turn → run.Answers d.progress turn) :
    Outcome h d cue (d.take h (d.run.bind ask)).2 := by
  rw [← hask]
  cases hturn : d.turn? h cue with
  | none => exact .refl hturn hcue
  | some turn =>
      obtain ⟨run, hrun, hasked⟩ := Option.bind_eq_some_iff.mp (hask.symm.trans hturn)
      have hdone := Outcome.answer hrun hturn (by rw [hanswering]; exact hanswers run turn hasked)
      rw [hanswering] at hdone
      exact hdone

end Outcome

/-- **Every cue has one of these outcomes.** -/
theorem outcome_of_perform {ω : Type} (store : Store (StateM ω)) (w : ω) (d : Director σ)
    (cue : Cue) : Outcome h d cue ((d.perform h store cue).run w).1.2 := by
  cases cue with
  | load ns => exact .stop rfl rfl _ ns false
  | flush =>
      obtain ⟨yes, dirty, w', hflush⟩ := exists_flush store w d
      simp only [perform, StateT.run_bind, hflush]
      -- Whether it has been saved or not, nothing but the mark can differ.
      exact .manage rfl rfl d.roster dirty d.events
  | settle =>
      obtain ⟨yes, dirty, w', hflush⟩ := exists_flush store w (d.resolve h)
      simp only [perform, settle, StateT.run_bind, hflush]
      exact .resolve rfl rfl dirty
  | resolve => exact .resolve rfl rfl (d.resolve h).dirty
  | register scene => exact .manage rfl rfl (d.roster.upsert scene) d.dirty d.events
  | unregister id => exact .manage rfl rfl (d.roster.remove id) d.dirty d.events
  | takeEvents => exact .manage rfl rfl d.roster d.dirty #[]
  | stop => exact .stop rfl rfl _ _ _
  | setCounter counter value => exact .setCounter rfl rfl counter value
  | notice e =>
      change Outcome h d _ (d.notice h e).2
      rw [notice]
      cases hselect : d.roster.select? e d.progress d.active? with
      | none => exact .refl (by rw [turn?, hselect]; rfl) rfl
      | some scene => exact .debut scene (by rw [turn?, hselect]; rfl)
  | start id =>
      change Outcome h d _ (d.start h id).2
      rw [start]
      cases hget : d.roster.get? id with
      | none => exact .refl (by rw [turn?, hget]; rfl) rfl
      | some scene => exact .debut scene (by rw [turn?, hget]; rfl)
  | choose option =>
      change Outcome h d _ (d.choose h option).2
      rw [choose]
      cases hrun : d.run with
      | none => exact .refl (by rw [turn?, hrun]; rfl) rfl
      | some run =>
          dsimp only
          cases hturn : run.choose d.progress option with
          | error fault => exact .refl (by rw [turn?, hrun, Option.bind_some, hturn]; rfl) rfl
          | ok turn =>
              have hturn' : d.turn? h (.choose option) = some turn := by
                rw [turn?, hrun, Option.bind_some, hturn]
                rfl
              exact .answer hrun hturn' (.choose option hturn)
  | acknowledge => exact .take rfl rfl rfl fun _ _ hturn => .acknowledge hturn
  | resume ticket => exact .take rfl rfl rfl fun _ _ hturn => .resumeTimer ticket hturn
  | setFlag flag value =>
      change Outcome h d _ (d.setFlag h flag value)
      rw [setFlag_eq]
      change Outcome h d (.setFlag flag value)
        ((d.writeFlag h flag value).take h (d.turn? h (.setFlag flag value))).2
      cases hturn : d.turn? h (.setFlag flag value) with
      | none => exact .writeFlag hturn rfl flag value
      | some turn =>
          -- The turn is that of the run, which is told of the flag once it is written.
          obtain ⟨run, hrun, hnotified⟩ := Option.bind_eq_some_iff.mp hturn
          exact .answer hrun hturn (.notifyFlag hnotified)

end Director

end Cutscene
