import Cutscene.Proofs.Director.Deeds
import Cutscene.Proofs.Replay
import Cutscene.Proofs.Run.Effects

/-!
# How the Log Grows

`Logs d es e` says that between the directors `d` and `e` exactly the events `es` were
recorded, with the consecutive numbers behind those recorded before. What each effect of a run is
recorded as, and when nothing is recorded, is said here once for all accounts of the log.

## Main results

* `Director.Logs.trans`, `Director.logs_record`: events add up, one by one.
* `Director.conclude_of_completed`, `Director.conclude_of_interrupted`: what the end of a run
  comes down to.
* `Director.logs_carryOut_silent`: what is recorded of an effect that neither writes progress
  nor ends the run.
* `Director.breaksOff_stop`: what is recorded when a scene is broken off.
-/

namespace Cutscene

/-- How a run ended, as it is recorded. -/
def Ending.report (ending : Ending) (scene : String) (run : Uuid) : SceneEnded where
  scene := scene
  run := run
  reason := ending.reason
  diagnostic := ending.diagnostic.map Diagnostic.message
  changedFlags := ending.changedFlags
  changedCounters := ending.changedCounters

namespace Director

variable {σ : Type}

/-- The events bear the consecutive numbers behind `n`. -/
def Numbered (n : Nat) (es : List Event) : Prop :=
  ∀ (i : Nat) (ev : Event), es[i]? = some ev → ev.metadata.number = n + i + 1

/-- Of no events there is nothing to number. -/
theorem Numbered.nil {n : Nat} : Numbered n [] := fun _ _ hi => by cases hi

/-- Events that bear the next numbers go on with a row of numbers. -/
theorem Numbered.append {n : Nat} {es fs : List Event} (hes : Numbered n es)
    (hfs : Numbered (n + es.length) fs) : Numbered n (es ++ fs) := by
  intro i ev hi
  by_cases hlt : i < es.length
  · rw [List.getElem?_append_left hlt] at hi
    exact hes i ev hi
  · rw [List.getElem?_append_right (by omega)] at hi
    have hnumber := hfs _ ev hi
    omega

/-- Between the directors, exactly these events were recorded. -/
structure Logs (d : Director σ) (es : List Event) (e : Director σ) : Prop where
  events_eq : e.events.toList = d.events.toList ++ es
  recorded_eq : e.recorded = d.recorded + es.length
  /-- The numbers go on from those given before. -/
  numbered : Numbered d.recorded es

namespace Logs

variable {d e f : Director σ} {es fs : List Event}

/-- Where the events and their count are the same, nothing was recorded. -/
theorem nil (hevents : e.events = d.events) (hrecorded : e.recorded = d.recorded) :
    Logs d [] e :=
  ⟨by rw [hevents, List.append_nil], hrecorded, .nil⟩

/-- What is recorded twice is recorded one after the other. -/
theorem trans (hd : Logs d es e) (he : Logs e fs f) : Logs d (es ++ fs) f := by
  refine ⟨?_, ?_, ?_⟩
  · rw [he.events_eq, hd.events_eq, List.append_assoc]
  · rw [he.recorded_eq, hd.recorded_eq, List.length_append, Nat.add_assoc]
  · have hnumbered := he.numbered
    rw [hd.recorded_eq] at hnumbered
    exact hd.numbered.append hnumbered

/-- What was recorded can be told from the logs. -/
theorem unique (hes : Logs d es e) (hfs : Logs d fs e) : es = fs :=
  List.append_cancel_left (hes.events_eq.symm.trans hfs.events_eq)

/-- The director that the count starts from matters by its events only. -/
theorem congr {d' : Director σ} (hd : Logs d es e) (hevents : d'.events = d.events)
    (hrecorded : d'.recorded = d.recorded) : Logs d' es e :=
  ⟨by rw [hevents]; exact hd.events_eq, by rw [hrecorded]; exact hd.recorded_eq,
    by rw [hrecorded]; exact hd.numbered⟩

end Logs

variable (h : Host σ)

/-- The next event. -/
def entry (d : Director σ) (correlation : Uuid) (occurrence : Occurrence) : Event where
  metadata :=
    { id := h.ids.event d.recorded
      name := occurrence.name
      correlation
      number := d.recorded + 1
      time := (h.now d.stage).1 }
  occurrence := occurrence

variable {h}

/-- To record something is to record one event. -/
theorem logs_record (d : Director σ) (correlation : Uuid) (occurrence : Occurrence) :
    Logs d [d.entry h correlation occurrence] (d.record h correlation occurrence) := by
  refine ⟨Array.toList_push, rfl, ?_⟩
  intro i ev hi
  obtain ⟨hlt, rfl⟩ := List.getElem?_eq_some_iff.mp hi
  obtain rfl : i = 0 := by simpa using hlt
  simp [entry]

/-! ### What effects are recorded as -/

/-- A completed run is noted as such, at one time, and recorded, at the next. -/
theorem conclude_of_completed (d : Director σ) (scene : String) (run : Uuid) {ending : Ending}
    (hreason : ending.reason = .completed) :
    d.conclude h scene run ending =
      { d with
          stage := (h.now d.stage).2
          pending := d.pending.filter (·.1.run ≠ run)
          progress := d.progress.complete scene (h.now d.stage).1.stamp
          dirty := true }.record h run (.sceneEnded (ending.report scene run)) := by
  rw [conclude, if_pos hreason]
  rfl

/-- A run that was broken off is only recorded. -/
theorem conclude_of_interrupted (d : Director σ) (scene : String) (run : Uuid) {ending : Ending}
    (hreason : ending.reason = .interrupted) :
    d.conclude h scene run ending =
      { d with pending := d.pending.filter (·.1.run ≠ run) }.record h run
        (.sceneEnded (ending.report scene run)) := by
  rw [conclude, if_neg (by rw [hreason]; rintro ⟨⟩)]
  rfl

/-- The end of a run is recorded once. -/
theorem logs_conclude (h : Host σ) (d : Director σ) (scene : String) (run : Uuid)
    (ending : Ending) :
    ∃ ev : Event, Logs d [ev] (d.conclude h scene run ending) ∧
      ev.occurrence = .sceneEnded (ending.report scene run) ∧ ev.metadata.correlation = run := by
  cases hreason : ending.reason with
  | completed =>
      rw [conclude_of_completed d scene run hreason]
      exact ⟨_, (logs_record _ _ _).congr rfl rfl, rfl, rfl⟩
  | interrupted =>
      rw [conclude_of_interrupted d scene run hreason]
      exact ⟨_, (logs_record _ _ _).congr rfl rfl, rfl, rfl⟩

/-- An effect that neither writes progress nor ends the run is recorded as a command, or not at
all, and leaves progress alone. -/
theorem logs_carryOut_silent (h : Host σ) (scene : String) (run : Uuid) (d : Director σ)
    {e : Effect} (hchange : e.isChange = false) (hended : ∀ ending, e ≠ .ended ending) :
    ∃ es : List Event, Logs d es (carryOut h scene run d e) ∧
      (carryOut h scene run d e).progress = d.progress ∧
      ∀ ev ∈ es, ev.occurrence.isCommand = true ∧ ev.metadata.correlation = run := by
  cases e with
  | flagChanged | counterChanged => cases hchange
  | ended ending => exact absurd rfl (hended ending)
  | measure ticket anchor => exact ⟨[], .nil rfl rfl, rfl, fun _ hev => by cases hev⟩
  | present s => exact ⟨[], .nil rfl rfl, rfl, fun _ hev => by cases hev⟩
  | dispatch command =>
      refine ⟨_, (logs_record _ _ _).congr rfl rfl, rfl, fun ev hev => ?_⟩
      obtain rfl := List.mem_singleton.mp hev
      refine ⟨?_, rfl⟩
      rw [entry]
      dsimp only
      split <;> rfl

/-- What is only shown changes nothing but the game. -/
theorem exists_foldl_present (h : Host σ) (scene : String) (run : Uuid) (d : Director σ)
    {es : List Effect} (hshown : ∀ e ∈ es, ∃ s, e = .present s) :
    ∃ stage, es.foldl (carryOut h scene run) d = { d with stage } := by
  induction es generalizing d with
  | nil => exact ⟨d.stage, rfl⟩
  | cons e rest ih =>
      obtain ⟨s, rfl⟩ := hshown e List.mem_cons_self
      obtain ⟨stage, hrest⟩ := ih (carryOut h scene run d (.present s))
        fun f hf => hshown f (List.mem_cons_of_mem _ hf)
      exact ⟨stage, hrest⟩

/-! ### Breaking off -/

/-- Scenes were broken off, and nothing else was recorded. Progress and its mark are as they
were. -/
structure BreaksOff (d e : Director σ) : Prop where
  progress_eq : e.progress = d.progress
  dirty_eq : e.dirty = d.dirty
  ns_eq : e.ns = d.ns
  exists_logs : ∃ es, Logs d es e ∧ ∀ ev ∈ es, ∃ ended : SceneEnded,
    ev.occurrence = .sceneEnded ended ∧ ended.reason = .interrupted

/-- Nothing needs to be broken off. -/
theorem BreaksOff.refl (d : Director σ) : BreaksOff d d :=
  ⟨rfl, rfl, rfl, [], .nil rfl rfl, fun _ hev => absurd hev List.not_mem_nil⟩

/-- The end of a run that was broken off changes the log, and nothing that is kept. -/
theorem breaksOff_conclude (d : Director σ) (scene : String) (run : Uuid) {ending : Ending}
    (hreason : ending.reason = .interrupted) : BreaksOff d (d.conclude h scene run ending) := by
  rw [conclude_of_interrupted d scene run hreason]
  refine ⟨rfl, rfl, rfl, _, (logs_record _ _ _).congr rfl rfl, fun ev hev => ?_⟩
  obtain rfl := List.mem_singleton.mp hev
  exact ⟨_, rfl, hreason⟩

/-- A run that is broken off is recorded as interrupted, and leaves progress alone. -/
theorem breaksOff_follow (d : Director σ) {run : Run} (hactive : run.state.isActive = true) :
    BreaksOff d (d.follow h (run.interrupt d.progress).1 d.progress
      (run.interrupt d.progress).2) := by
  obtain ⟨ending, shown, heffects, hreason, hshown⟩ :=
    Run.exists_effects_interrupt hactive d.progress
  rw [follow, heffects, List.foldl_cons, carryOut]
  obtain ⟨hprogress, hdirty, hns, es, hes, hended⟩ := breaksOff_conclude (h := h)
    { d with run := some (run.interrupt d.progress).1 } (run.interrupt d.progress).1.scene.id
    (run.interrupt d.progress).1.id hreason
  obtain ⟨stage, hpresent⟩ := exists_foldl_present h (run.interrupt d.progress).1.scene.id
    (run.interrupt d.progress).1.id _ hshown
  rw [hpresent]
  exact ⟨hprogress, hdirty, hns, es, ⟨hes.events_eq, hes.recorded_eq, hes.numbered⟩, hended⟩

/-- **Stopping records that the scene was broken off**, if there was one, and leaves progress
alone. -/
theorem breaksOff_stop (d : Director σ) : BreaksOff d (d.stop h).2 := by
  rw [stop]
  cases hrun : d.activeRun? with
  | none => exact .refl d
  | some run =>
      obtain ⟨-, hactive⟩ := Option.filter_eq_some_iff.mp hrun
      exact breaksOff_follow d hactive

end Director

end Cutscene
