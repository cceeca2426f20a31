import Cutscene.Proofs.Brackets
import Cutscene.Proofs.Director.History
import Cutscene.Proofs.Director.Log

/-!
# Runs in the Log of a Director

A director records the start of a run when it plays a scene, and the end when it carries out the
effects of the turn in which the run has ended. Scenes end in many ways: by themselves, by a fault
of their script, because another one starts, because progress is loaded, or while a flag is
written from outside. Each of them is a deed, and every deed keeps the log as a ledger of runs
(`Director.Deed.ledger`).

## Main results

* `Director.ledger_follow`: following a turn records what happens within the run, and that it has
  ended, if it has.
* `Director.History.log_bracketed`: the runs of a director are properly bracketed in its log.
-/

namespace Cutscene

namespace Director

variable {σ : Type} {h : Host σ}

/-- The scene that is played, and the run. -/
def open? (d : Director σ) : Option (String × Uuid) :=
  d.activeRun?.map fun run => (run.scene.id, run.id)

/-- An active run is open, with its scene. -/
theorem open?_eq_some {d : Director σ} {run : Run} (hrun : d.run = some run)
    (hactive : run.state.isActive = true) : d.open? = some (run.scene.id, run.id) := by
  rw [open?, activeRun?, hrun, Option.filter_some, if_pos hactive]
  rfl

/-- No run is open once it has ended. -/
theorem open?_eq_none {d : Director σ} {run : Run} (hrun : d.run = some run)
    (hended : run.state.isActive = false) : d.open? = none := by
  rw [open?, activeRun?, hrun, Option.filter_some, if_neg (by rw [hended]; rintro ⟨⟩)]
  rfl

/-- What is open depends on what the run is, and on whether it is active. -/
theorem open?_congr {d e : Director σ} {run run' : Run} (hd : d.run = some run)
    (he : e.run = some run') (hid : run'.id = run.id) (hscene : run'.scene = run.scene)
    (hstate : run'.state = run.state) : e.open? = d.open? := by
  cases hactive : run.state.isActive with
  | true => rw [open?_eq_some hd hactive, open?_eq_some he (hstate ▸ hactive), hid, hscene]
  | false => rw [open?_eq_none hd hactive, open?_eq_none he (hstate ▸ hactive)]

/-- What is recorded from outside belongs to the run that is open, or to the session. -/
theorem correlation_eq (d : Director σ) :
    d.correlation h = d.open?.elim h.ids.session Prod.snd := by
  rw [correlation, open?]
  cases d.activeRun? <;> rfl

/-! ### Effects -/

/-- Effects that do not end the run are recorded as what happens within it. -/
theorem logs_carryOut_inner (h : Host σ) (scene : String) (run : Uuid) (d : Director σ)
    {e : Effect} (hended : ∀ ending, e ≠ .ended ending) :
    ∃ es : List Event, Logs d es (carryOut h scene run d e) ∧
      ∀ ev ∈ es, ev.occurrence.isInner = true ∧ ev.metadata.correlation = run := by
  cases hchange : e.isChange with
  | false =>
      obtain ⟨es, hes, -, hinner⟩ := logs_carryOut_silent h scene run d hchange hended
      refine ⟨es, hes, fun ev hev => ?_⟩
      obtain ⟨hcommand, hcorrelation⟩ := hinner ev hev
      refine ⟨?_, hcorrelation⟩
      cases ho : ev.occurrence <;> rw [ho] at hcommand <;> first | rfl | cases hcommand
  | true =>
      cases e with
      | flagChanged flag old new =>
          refine ⟨_, (logs_record _ _ _).congr rfl rfl, fun ev hev => ?_⟩
          obtain rfl := List.mem_singleton.mp hev
          exact ⟨rfl, rfl⟩
      | counterChanged counter old new =>
          refine ⟨_, (logs_record _ _ _).congr rfl rfl, fun ev hev => ?_⟩
          obtain rfl := List.mem_singleton.mp hev
          exact ⟨rfl, rfl⟩
      | dispatch | measure | present | ended => cases hchange

/-- As long as effects do not end the run, they are recorded as what happens within it. -/
theorem logs_foldl_inner (h : Host σ) (scene : String) (run : Uuid) (d : Director σ)
    {es : List Effect} (hended : ∀ ending, .ended ending ∉ es) :
    ∃ evs : List Event, Logs d evs (es.foldl (carryOut h scene run) d) ∧
      ∀ ev ∈ evs, ev.occurrence.isInner = true ∧ ev.metadata.correlation = run := by
  induction es generalizing d with
  | nil => exact ⟨[], .nil rfl rfl, fun _ hev => by cases hev⟩
  | cons e rest ih =>
      obtain ⟨evs, hevs, hinner⟩ := logs_carryOut_inner h scene run d (e := e)
        fun ending heq => hended ending (heq ▸ List.mem_cons_self)
      obtain ⟨evs', hevs', hinner'⟩ := ih (carryOut h scene run d e)
        fun ending hmem => hended ending (List.mem_cons_of_mem _ hmem)
      refine ⟨evs ++ evs', hevs.trans hevs', fun ev hev => ?_⟩
      rcases List.mem_append.mp hev with hev | hev
      · exact hinner ev hev
      · exact hinner' ev hev

/-- Showing something is not recorded. -/
theorem logs_foldl_present (h : Host σ) (scene : String) (run : Uuid) (d : Director σ)
    {es : List Effect} (hshown : ∀ e ∈ es, ∃ s, e = .present s) :
    Logs d [] (es.foldl (carryOut h scene run) d) := by
  induction es generalizing d with
  | nil => exact .nil rfl rfl
  | cons e rest ih =>
      obtain ⟨s, rfl⟩ := hshown e List.mem_cons_self
      have hrest := ih (carryOut h scene run d (.present s))
        fun f hf => hshown f (List.mem_cons_of_mem _ hf)
      exact hrest.congr rfl rfl

/-- **What following a turn records**: what happens within the run, and that it has ended, if it
has. -/
theorem logs_follow (d : Director σ) {run : Run} (progress : Progress) {es : List Effect}
    (hcloses : run.Closes es) :
    ∃ evs, (∀ ev ∈ evs, ev.occurrence.isInner = true ∧ ev.metadata.correlation = run.id) ∧
      ((run.state.isActive = true ∧ Logs d evs (d.follow h run progress es)) ∨
        ∃ (ending : Ending) (ev : Event), run.state = .ended ending.reason ∧
          ev.occurrence = .sceneEnded (ending.report run.scene.id run.id) ∧
          ev.metadata.correlation = run.id ∧
          Logs d (evs ++ [ev]) (d.follow h run progress es)) := by
  cases hcloses with
  | active hstate hes =>
      obtain ⟨evs, hevs, hinner⟩ := logs_foldl_inner h run.scene.id run.id
        { d with run := some run, progress } hes
      exact ⟨evs, hinner, .inl ⟨hstate, hevs.congr rfl rfl⟩⟩
  | @ended body shown ending hstate hbody hshown =>
      rw [follow, List.foldl_append, List.foldl_cons]
      obtain ⟨evs, hevs, hinner⟩ := logs_foldl_inner h run.scene.id run.id
        { d with run := some run, progress } hbody
      generalize body.foldl (carryOut h run.scene.id run.id)
        { d with run := some run, progress } = e at hevs
      obtain ⟨ev, hev, ho, hcorrelation⟩ := logs_conclude h e run.scene.id run.id ending
      have hquiet := logs_foldl_present h run.scene.id run.id
        (e.conclude h run.scene.id run.id ending) hshown
      have hall := (hevs.trans hev).trans hquiet
      rw [List.append_nil] at hall
      exact ⟨evs, hinner, .inr ⟨ending, ev, hstate, ho, hcorrelation, hall.congr rfl rfl⟩⟩

section Ledger

variable {log : List Event} {count : Nat}

/-- **Following a turn** keeps the log of a run that is open. -/
theorem ledger_follow (d : Director σ) {run : Run} (progress : Progress) {es : List Effect}
    (hcloses : run.Closes es)
    (hlog : Ledger h.ids log count (some (run.scene.id, run.id))) :
    ∃ evs, Logs d evs (d.follow h run progress es) ∧
      Ledger h.ids (log ++ evs) count (d.follow h run progress es).open? := by
  have hrun := run_follow (h := h) d run progress es
  obtain ⟨evs, hinner, ⟨hactive, hlogs⟩ | ⟨ending, ev, hended, ho, hcorrelation, hlogs⟩⟩ :=
    logs_follow (h := h) d progress hcloses
  · refine ⟨evs, hlogs, ?_⟩
    rw [open?_eq_some hrun hactive]
    exact hlog.append hinner
  · refine ⟨evs ++ [ev], hlogs, ?_⟩
    rw [open?_eq_none hrun (by rw [hended]; rfl), ← List.append_assoc]
    exact (hlog.append hinner).close ho rfl rfl hcorrelation

/-! ### Deeds -/

/-- Something that is written from outside is recorded with the run that is open. -/
theorem ledger_record {d e : Director σ} (hlog : Ledger h.ids log count d.open?)
    (hevents : e.events = d.events) (hrecorded : e.recorded = d.recorded) {o : Occurrence}
    (ho : o.isInner = true) :
    ∃ evs, Logs d evs (e.record h (d.correlation h) o) ∧
      Ledger h.ids (log ++ evs) count d.open? :=
  ⟨_, (logs_record e _ o).congr hevents.symm hrecorded.symm,
    hlog.inner ho (correlation_eq d)⟩

/-- A scene that starts while none is played is recorded as the next run. -/
theorem ledger_announce {d : Director σ} (scene : Scene)
    (hlog : Ledger h.ids log d.started none) :
    ∃ ev, Logs d [ev] (d.announce h scene) ∧
      Ledger h.ids (log ++ [ev]) (d.started + 1) (some (scene.id, h.ids.run d.started)) :=
  ⟨_, (logs_record _ _ _).congr rfl rfl, hlog.start rfl rfl⟩

/-- **Every deed keeps the log.** -/
theorem Deed.ledger {d e : Director σ} {ts : List Ticket} (hd : Deed h d ts e)
    (hlog : Ledger h.ids log d.started d.open?) :
    ∃ evs, Logs d evs e ∧ Ledger h.ids (log ++ evs) e.started e.open? := by
  cases hd with
  | manage | withdraw => exact ⟨[], .nil rfl rfl, by rw [List.append_nil]; exact hlog⟩
  | locate ticket anchor =>
      obtain ⟨stage, run, heq, hrun⟩ := exists_locate h d ticket anchor
      rw [heq]
      refine ⟨[], .nil rfl rfl, ?_⟩
      rw [List.append_nil]
      rcases hrun with rfl | ⟨run', rect, hrun', rfl⟩
      · exact hlog
      · obtain ⟨highlight, state, presented, heq⟩ := run'.exists_applyGeometry ticket rect
        rw [open?_congr hrun' rfl] <;> rw [heq]
        exact hlog
  | writeFlag flag value =>
      refine ledger_record hlog ?_ ?_ ?_ <;> rfl
  | setCounter counter value =>
      refine ledger_record hlog ?_ ?_ ?_ <;> rfl
  | @interrupt run hrun hactive =>
      rw [open?_eq_some hrun hactive] at hlog
      rw [started_follow]
      refine ledger_follow d d.progress (Run.closes_interrupt hactive _) ?_
      rw [Run.interrupt, if_pos hactive]
      dsimp only
      rw [Run.scene_present, Run.id_present]
      exact hlog
  | @answer run turn hrun hturn =>
      rw [open?_eq_some hrun hturn.isActive] at hlog
      rw [started_follow]
      refine ledger_follow d turn.progress hturn.closes ?_
      rw [hturn.same.1, hturn.same.2]
      exact hlog
  | debut scene hidle =>
      have hnone : d.open? = none := by rw [open?, hidle]; rfl
      rw [hnone] at hlog
      -- The start is recorded first. The turn that follows may end the run at once.
      obtain ⟨ev, hev, hstart⟩ := ledger_announce scene hlog
      have hsame := Run.same_advance (Run.start (h.ids.run d.started) scene d.progress)
        (d.progress.touch scene.id (h.now d.stage).1.stamp)
      have hcloses : (d.opening h scene).run.Closes (d.opening h scene).effects :=
        Run.closes_advance rfl _
      obtain ⟨evs, hevs, hlog'⟩ := ledger_follow (d.announce h scene) (d.opening h scene).progress
        hcloses (by rw [opening, hsame.1, hsame.2]; exact hstart)
      rw [List.append_assoc] at hlog'
      rw [Director.debut, started_follow]
      exact ⟨_, hev.trans hevs, hlog'⟩

end Ledger

/-! ### Histories -/

variable {ω : Type} {store : Store (StateM ω)} {w w' : ω}

/-- The log of a history is numbered from 1, and a ledger of the runs. -/
theorem History.ledger {s : σ} {e : Director σ} {past : List (Episode σ)}
    (hist : History h store { stage := s } w past e w') :
    Numbered 0 (log past e) ∧ e.recorded = (log past e).length ∧
      Ledger h.ids (log past e) e.started e.open? :=
  hist.induction (P := fun cs _ d => Numbered 0 (cs ++ d.events.toList) ∧
      d.recorded = (cs ++ d.events.toList).length ∧
      Ledger h.ids (cs ++ d.events.toList) d.started d.open?)
    (fun _ hd => hd)
    (fun hd => by
      rw [List.append_nil]
      exact hd)
    (fun _ _ _ hd => hd)
    (fun {cs _ d e ts} hdeed ⟨hnumbered, hrecorded, hlog⟩ => by
      obtain ⟨evs, hevs, hlog'⟩ := hdeed.ledger hlog
      have hnumbered' := hevs.numbered
      rw [hevs.events_eq, hevs.recorded_eq, ← List.append_assoc]
      refine ⟨hnumbered.append ?_, ?_, hlog'⟩
      · rw [Nat.zero_add, ← hrecorded]
        exact hnumbered'
      · rw [List.length_append, hrecorded])
    ⟨.nil, rfl, .nil⟩

/-- **The runs of a director are properly bracketed in its log**, whatever it is told and however
often its events are collected: the events are numbered from 1 without gap; each run has one start
and at most one end; its events are those between; runs do not overlap; the scene that is active
is that of the run that is open by the end; and what is recorded while no run is open belongs to
the session. -/
theorem History.log_bracketed {s : σ} {e : Director σ} {past : List (Episode σ)}
    (hist : History h store { stage := s } w past e w') (hids : h.ids.Distinct e.started) :
    Numbered 0 (log past e) ∧
      Bracketed h.ids (log past e) e.started
        (e.activeRun?.map fun run => (run.scene.id, run.id)) ∧
      ∀ scene, e.active? = some scene ↔
        ∃ run i, StartsAt (log past e) scene run i ∧ ∀ j, ¬ EndsAt (log past e) run j := by
  obtain ⟨hnumbered, -, hlog⟩ := hist.ledger
  have hbracketed := hlog.bracketed hids
  refine ⟨hnumbered, hbracketed, fun scene => ?_⟩
  have hactive : e.active? = e.open?.map Prod.fst := by
    rw [active?, open?, Option.map_map]
    rfl
  rw [hactive, Option.map_eq_some_iff]
  constructor
  · rintro ⟨⟨scene, run⟩, hopen, rfl⟩
    obtain ⟨⟨i, hstart⟩, hends⟩ := (hbracketed.open_iff scene run).mpr hopen
    exact ⟨run, i, hstart, hends⟩
  · rintro ⟨run, i, hstart, hends⟩
    exact ⟨(scene, run), (hbracketed.open_iff scene run).mp ⟨⟨i, hstart⟩, hends⟩, rfl⟩

/-- A night at the gate: of two runs the first one was broken off, and both have ended. -/
theorem log_bracketed_night :
    ∃ past w, History Rehearsal.stage Records.store Rehearsal.newcomer ∅ past Rehearsal.morning w ∧
      past.map Episode.cue = Rehearsal.night ∧ Rehearsal.morning.started = 2 ∧
      Rehearsal.stage.ids.Distinct Rehearsal.morning.started ∧
      Numbered 0 (log past Rehearsal.morning) ∧
      Bracketed Rehearsal.stage.ids (log past Rehearsal.morning) Rehearsal.morning.started
        (Rehearsal.morning.activeRun?.map fun run => (run.scene.id, run.id)) ∧
      ∀ scene, Rehearsal.morning.active? = some scene ↔
        ∃ run i, StartsAt (log past Rehearsal.morning) scene run i ∧
          ∀ j, ¬ EndsAt (log past Rehearsal.morning) run j := by
  obtain ⟨past, w, hist, hcues, -⟩ := Rehearsal.exists_night
  have hids : Rehearsal.stage.ids.Distinct Rehearsal.morning.started := by
    have hstarted : Rehearsal.morning.started = 2 := rfl
    rw [hstarted]
    exact ⟨by rw [Identities.RunsDiffer]; decide, by decide⟩
  exact ⟨past, w, hist, hcues, rfl, hids, hist.log_bracketed hids⟩

end Director

end Cutscene
