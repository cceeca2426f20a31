import Cutscene.Proofs.Director.Bracketing
import Cutscene.Proofs.Roster

/-!
# Which Scene an Event Starts

An event starts at most one scene: of those that it may start, the best. Which ones it may start,
and which is the best, is told from what the director has been told to register, from its progress,
and from the scene that is played. Of scenes with one priority the one comes first that was
registered first; sorting by priority keeps that order, since scenes of one priority remain as they
stand (`Roster.filter_eligible`).

## Main results

* `Roster.mem_eligible`, `Roster.pairwise_eligible`: the scenes that an event may start, and their
  order.
* `Director.History.roster_eq`: the roster of a director is what the registrations have made of it.
* `Director.logs_notice`: what is recorded when an event starts a scene.
* `Director.History.arbitrates`: which scene an event starts, whatever has happened before.
-/

namespace Cutscene

/-! ### The order of scenes -/

/-- Sorting leaves those that are as good as each other as they stand. -/
theorem filter_mergeSort {α : Type} {le : α → α → Bool}
    (trans : ∀ a b c, le a b = true → le b c = true → le a c = true)
    (total : ∀ a b, (le a b || le b a) = true) (l : List α) (x : α) :
    (l.mergeSort le).filter (fun a => le x a && le a x) =
      l.filter (fun a => le x a && le a x) := by
  have halike : (l.filter fun a => le x a && le a x).Pairwise (fun a b => le a b = true) := by
    refine List.pairwise_of_forall_mem_list fun a ha b hb => ?_
    have hax := (Bool.and_eq_true_iff.mp (List.mem_filter.mp ha).2).2
    have hxb := (Bool.and_eq_true_iff.mp (List.mem_filter.mp hb).2).1
    exact trans a x b hax hxb
  have hsub := (List.sublist_mergeSort trans total halike List.filter_sublist).filter
    fun a => le x a && le a x
  rw [List.filter_filter] at hsub
  simp only [Bool.and_self] at hsub
  refine (hsub.eq_of_length ?_).symm
  exact ((l.mergeSort_perm le).filter _).length_eq.symm

namespace Roster

variable {r : Roster} {e : GameEvent} {p : Progress} {active : Option String} {s : Scene}

/-- **The scenes that an event may start.** -/
theorem mem_eligible : s ∈ r.eligible e p active ↔ s ∈ r.scenes ∧ p.isCompleted s.id = false ∧
    active ≠ some s.id ∧ s.respondsTo e = true ∧ s.conditionHolds p = true := by
  simp [eligible, isEligible, and_assoc]

/-- Ranking by priority is transitive. -/
theorem priority_trans (s t u : Scene) (hst : decide (t.priority ≤ s.priority) = true)
    (htu : decide (u.priority ≤ t.priority) = true) : decide (u.priority ≤ s.priority) = true :=
  decide_eq_true (Int32.le_trans (of_decide_eq_true htu) (of_decide_eq_true hst))

/-- Of two scenes one ranks no lower than the other. -/
theorem priority_total (s t : Scene) :
    (decide (t.priority ≤ s.priority) || decide (s.priority ≤ t.priority)) = true := by
  rw [Bool.or_eq_true, decide_eq_true_eq, decide_eq_true_eq]
  exact Int32.le_total _ _

/-- **Their order**: by priority, and those with one priority as they stand in the roster. -/
theorem pairwise_eligible {R : Scene → Scene → Prop} (hR : r.scenes.Pairwise R) :
    (r.eligible e p active).Pairwise fun s t =>
      t.priority < s.priority ∨ (s.priority = t.priority ∧ R s t) := by
  have hsorted := List.pairwise_mergeSort priority_trans priority_total
    (r.scenes.filter (isEligible e p active))
  refine List.pairwise_iff_forall_sublist.mpr fun {s t} hst => ?_
  have hle := of_decide_eq_true (List.pairwise_iff_forall_sublist.mp hsorted hst)
  by_cases hlt : t.priority < s.priority
  · exact .inl hlt
  · have heq : s.priority = t.priority := Int32.le_antisymm (Int32.not_lt.mp hlt) hle
    -- Both are as good as the first, and so they stand in the roster as they stand here.
    have halike := hst.filter fun u =>
      decide (u.priority ≤ s.priority) && decide (s.priority ≤ u.priority)
    rw [eligible, filter_mergeSort priority_trans priority_total _ s] at halike
    have hscenes : [s, t].Sublist r.scenes := by
      have hpair : [s, t].filter (fun u =>
          decide (u.priority ≤ s.priority) && decide (s.priority ≤ u.priority)) = [s, t] := by
        simp [heq]
      rw [hpair] at halike
      exact halike.trans (List.filter_sublist.trans List.filter_sublist)
    exact .inr ⟨heq, List.pairwise_iff_forall_sublist.mp hR hscenes⟩

/-- No scene is listed twice. -/
theorem nodup_eligible : ((r.eligible e p active).map Scene.id).Nodup := by
  have hperm := (List.mergeSort_perm (r.scenes.filter (isEligible e p active))
    fun a b => b.priority ≤ a.priority).map Scene.id
  exact hperm.nodup_iff.mpr (r.nodup_ids.sublist (List.filter_sublist.map Scene.id))

end Roster

/-! ### The roster of a director -/

/-- What a cue does to the roster, if anything. -/
def Cue.registration? : Cue → Option Registration
  | register scene => some (.upsert scene)
  | unregister id => some (.remove id)
  | load _ | flush | resolve | settle | notice _ | start _ | stop | choose _ | acknowledge
  | resume _ | setFlag .. | setCounter .. | takeEvents => none

namespace Director

variable {σ : Type} {h : Host σ}

/-- What has been done to the roster in the course of some episodes. -/
def registrations (past : List (Episode σ)) : List Registration :=
  past.filterMap (·.cue.registration?)

/-- One more episode is one more registration, if its cue is one. -/
theorem registrations_concat (past : List (Episode σ)) (ep : Episode σ) :
    registrations (past ++ [ep]) = registrations past ++ ep.cue.registration?.toList := by
  rw [registrations, List.filterMap_append, ← registrations]
  cases hop : ep.cue.registration? with
  | none => rw [List.filterMap_cons_none (by exact hop)]; rfl
  | some op => rw [List.filterMap_cons_some (by exact hop)]; rfl

/-- Carrying out an effect leaves the roster as it is. -/
@[simp] theorem roster_carryOut (scene : String) (run : Uuid) (d : Director σ) (e : Effect) :
    (carryOut h scene run d e).roster = d.roster := by
  cases e with
  | ended ending =>
      change (d.conclude h scene run ending).roster = d.roster
      rw [conclude]
      split <;> rfl
  | _ => rfl

/-- So does following a turn. -/
@[simp] theorem roster_follow (d : Director σ) (run : Run) (progress : Progress)
    (effects : List Effect) : (d.follow h run progress effects).roster = d.roster :=
  follow_induction (P := fun e => e.roster = d.roster)
    (fun e _ hd => by rw [roster_carryOut]; exact hd) rfl

/-- So does taking one. -/
@[simp] theorem roster_take (d : Director σ) (turn? : Option Turn) :
    (d.take h turn?).2.roster = d.roster := by
  cases turn? with
  | none => rfl
  | some turn => exact roster_follow d _ _ _

/-- So does breaking off. -/
@[simp] theorem roster_stop (d : Director σ) : (d.stop h).2.roster = d.roster := by
  rw [stop]
  cases d.activeRun? with
  | none => rfl
  | some run => exact roster_follow d _ _ _

/-- So does playing a scene. -/
@[simp] theorem roster_play (d : Director σ) (scene : Scene) :
    (d.play h scene).roster = d.roster := by
  rw [play_eq_debut, debut, roster_follow]
  exact roster_stop d

/-- So does asking for places. -/
@[simp] theorem roster_resolve (d : Director σ) : (d.resolve h).roster = d.roster := by
  obtain ⟨stage, run, heq⟩ := exists_resolve h d
  rw [heq]

/-- **Only registrations change the roster.** -/
theorem roster_perform {ω : Type} (store : Store (StateM ω)) (w : ω) (d : Director σ)
    (cue : Cue) : ((d.perform h store cue).run w).1.2.roster =
      cue.registration?.elim d.roster fun op => (d.roster.apply op).2 := by
  cases cue with
  | load ns =>
      rw [perform_load]
      exact roster_stop d
  | flush =>
      obtain ⟨yes, dirty, w', hflush⟩ := exists_flush store w d
      simp only [perform, StateT.run_bind, hflush]
      rfl
  | settle =>
      obtain ⟨yes, dirty, w', hflush⟩ := exists_flush store w (d.resolve h)
      simp only [perform, settle, StateT.run_bind, hflush]
      exact roster_resolve d
  | resolve => exact roster_resolve d
  | register | unregister | takeEvents | setCounter => rfl
  | notice event =>
      change (d.notice h event).2.roster = d.roster
      rw [notice]
      cases d.roster.select? event d.progress d.active? with
      | none => rfl
      | some scene => exact roster_play d scene
  | start id =>
      change (d.start h id).2.roster = d.roster
      rw [start]
      cases d.roster.get? id with
      | none => rfl
      | some scene => exact roster_play d scene
  | stop => exact roster_stop d
  | choose option =>
      change (d.choose h option).2.roster = d.roster
      rw [choose]
      cases d.run with
      | none => rfl
      | some run =>
          dsimp only
          cases run.choose d.progress option with
          | error fault => rfl
          | ok turn => exact roster_follow d _ _ _
  | acknowledge | resume => exact roster_take d _
  | setFlag flag value =>
      change (d.setFlag h flag value).roster = d.roster
      rw [setFlag_eq]
      exact roster_take _ _

/-- **The roster of a director is what the registrations have made of it.** -/
theorem History.roster_eq {ω : Type} {store : Store (StateM ω)} {s : σ} {e : Director σ}
    {w w' : ω} {past : List (Episode σ)} (hist : History h store { stage := s } w past e w') :
    e.roster = Roster.after (registrations past) := by
  induction hist with
  | nil => rfl
  | @snoc past e f w' w'' reply _ stage cue hp ih =>
      have hroster := roster_perform (h := h) store w' { e with stage } cue
      rw [hp] at hroster
      rw [registrations_concat]
      refine hroster.trans ?_
      dsimp only
      rw [ih]
      cases cue.registration? with
      | none => rw [Option.toList_none, List.append_nil]; rfl
      | some op => exact (Roster.after_concat _ op).symm

/-! ### What is recorded -/

/-- These events tell that the run has been broken off, if there was one. -/
def BrokenOff (es : List Event) : Option Run → Prop
  | none => es = []
  | some run => ∃ ev ended, es = [ev] ∧ ev.occurrence = .sceneEnded ended ∧
      ended.scene = run.scene.id ∧ ended.run = run.id ∧ ended.reason = .interrupted

/-- A scene that is broken off is recorded as such, and nothing else is. -/
theorem logs_stop (d : Director σ) :
    ∃ es, Logs d es (d.stop h).2 ∧ BrokenOff es d.activeRun? := by
  rw [stop]
  cases hrun : d.activeRun? with
  | none => exact ⟨[], .nil rfl rfl, rfl⟩
  | some run =>
      obtain ⟨-, hactive⟩ := Option.filter_eq_some_iff.mp hrun
      obtain ⟨ending, shown, heffects, hreason, hshown⟩ :=
        Run.exists_effects_interrupt hactive d.progress
      have hsame : (run.interrupt d.progress).1.scene = run.scene ∧
          (run.interrupt d.progress).1.id = run.id := by
        rw [Run.interrupt, if_pos hactive]
        exact ⟨Run.scene_present _, Run.id_present _⟩
      dsimp only
      rw [follow, heffects, List.foldl_cons, carryOut, hsame.1, hsame.2]
      obtain ⟨ev, hev, ho, -⟩ := logs_conclude h
        { d with run := some (run.interrupt d.progress).1 } run.scene.id run.id ending
      have hquiet := logs_foldl_present h run.scene.id run.id
        (conclude h { d with run := some (run.interrupt d.progress).1 } run.scene.id run.id
          ending) hshown
      exact ⟨[ev], (hev.trans hquiet).congr rfl rfl, ev, _, rfl, ho, rfl, rfl, hreason⟩

/-- A scene that starts is recorded as such, and then what happens within it. -/
theorem logs_debut (d : Director σ) (scene : Scene) :
    ∃ started rest, Logs d (started :: rest) (d.debut h scene) ∧
      started.occurrence = .sceneStarted scene.id scene.version (h.ids.run d.started) ∧
      ∀ ev ∈ rest, ∀ id version run, ev.occurrence ≠ .sceneStarted id version run := by
  have hannounced : ∃ ev, Logs d [ev] (d.announce h scene) ∧
      ev.occurrence = .sceneStarted scene.id scene.version (h.ids.run d.started) :=
    ⟨_, (logs_record _ _ _).congr rfl rfl, rfl⟩
  obtain ⟨started, hstarted, ho⟩ := hannounced
  have hcloses : (d.opening h scene).run.Closes (d.opening h scene).effects :=
    Run.closes_advance rfl _
  have hnot : ∀ ev : Event, ev.occurrence.isInner = true →
      ∀ id version run, ev.occurrence ≠ .sceneStarted id version run := by
    intro ev hinner id version run heq
    rw [heq] at hinner
    cases hinner
  obtain ⟨evs, hinner, ⟨-, hlogs⟩ | ⟨ending, ev, -, hended, -, hlogs⟩⟩ :=
    logs_follow (h := h) (d.announce h scene) (d.opening h scene).progress hcloses
  · exact ⟨started, evs, hstarted.trans hlogs, ho, fun ev hev => hnot ev (hinner ev hev).1⟩
  · refine ⟨started, evs ++ [ev], hstarted.trans hlogs, ho, fun ev' hev => ?_⟩
    rcases List.mem_append.mp hev with hev | hev
    · exact hnot ev' (hinner ev' hev).1
    · obtain rfl := List.mem_singleton.mp hev
      intro id version run heq
      rw [hended] at heq
      cases heq

/-! ### Arbitration -/

/-- An id comes before another one: its scene has the higher priority, or it has the same one and
the id has entered before. -/
def Outranks (past : List Registration) (a b : String) : Prop :=
  ∃ s t i j, latest? past a = some (.upsert s) ∧ latest? past b = some (.upsert t) ∧
    EntersAt past a i ∧ EntersAt past b j ∧
    (t.priority < s.priority ∨ (s.priority = t.priority ∧ i < j))

/-- **A scene starts**, and the one before it is broken off. -/
structure Starts (h : Host σ) (d : Director σ) (scene : Scene) (e : Director σ) : Prop where
  /-- The run is one of the scene as it is registered. -/
  exists_run : ∃ run, e.run = some run ∧ run.scene = scene ∧ run.id = h.ids.run d.started
  /-- It is the only one that starts. -/
  started_eq : e.started = d.started + 1
  /-- It is recorded after the end of the one before it. -/
  exists_logs : ∃ broken started rest, Logs d (broken ++ started :: rest) e ∧
    BrokenOff broken d.activeRun? ∧
    started.occurrence = .sceneStarted scene.id scene.version (h.ids.run d.started) ∧
    ∀ ev ∈ rest, ∀ id version run, ev.occurrence ≠ .sceneStarted id version run

/-- **Which scenes an event may start, and which one it starts**, after some registrations. -/
structure Arbitrates (h : Host σ) (past : List Registration) (event : GameEvent)
    (d : Director σ) : Prop where
  /-- No scene is listed twice. -/
  nodup : (d.peek event).Nodup
  /-- The scenes that are listed are registered, have not been completed, are not being played,
  respond to the event, and have conditions that hold. -/
  mem_iff : ∀ id, id ∈ d.peek event ↔ ∃ scene, latest? past id = some (.upsert scene) ∧
    d.progress.isCompleted id = false ∧ d.active? ≠ some id ∧
    (∃ trigger ∈ scene.triggers, trigger.responds event = true) ∧
    ∀ condition, scene.condition = some condition → condition.holds d.progress = true
  /-- They are listed by priority, and those with one priority in order of registration. -/
  sorted : (d.peek event).Pairwise (Outranks past)
  /-- The event starts the first one. -/
  reply_eq : (d.notice h event).1 = (d.peek event).head?
  /-- If there is none, nothing happens. -/
  declines : (d.peek event).head? = none → (d.notice h event).2 = d
  /-- If there is one, it starts as it is registered. -/
  starts : ∀ id, (d.peek event).head? = some id → ∃ scene,
    latest? past id = some (.upsert scene) ∧ scene.id = id ∧
    Starts h d scene (d.notice h event).2

/-- **Playing a scene starts it**, behind the end of the one before. -/
theorem starts_play (d : Director σ) (scene : Scene) : Starts h d scene (d.play h scene) := by
  obtain ⟨broken, hbroken, hoff⟩ := logs_stop (h := h) d
  obtain ⟨started, rest, hlogs, ho, hrest⟩ := logs_debut (h := h) (d.stop h).2 scene
  have hsame := Run.same_advance (Run.start (h.ids.run (d.stop h).2.started) scene
    (d.stop h).2.progress) ((d.stop h).2.progress.touch scene.id (h.now (d.stop h).2.stage).1.stamp)
  refine ⟨⟨_, run_follow _ _ _ _, hsame.2, ?_⟩, started_play d scene,
    broken, started, rest, hbroken.trans hlogs, hoff, ?_, hrest⟩
  · exact hsame.1.trans (congrArg h.ids.run (started_stop d))
  · rw [ho, started_stop]

variable {past : List Registration} {d : Director σ}

/-- A scene of the roster is the one that was registered last under its id. -/
theorem latest?_of_mem (hroster : d.roster = Roster.after past) {scene : Scene}
    (hscene : scene ∈ d.roster.scenes) : latest? past scene.id = some (.upsert scene) := by
  rw [hroster] at hscene
  exact (Roster.get?_after past scene.id).mp (Roster.get?_eq_some_iff.mpr ⟨hscene, rfl⟩)

/-- What is listed, told from the registrations. -/
theorem mem_peek_iff (hroster : d.roster = Roster.after past) (event : GameEvent) (id : String) :
    id ∈ d.peek event ↔ ∃ scene, latest? past id = some (.upsert scene) ∧
      d.progress.isCompleted id = false ∧ d.active? ≠ some id ∧
      (∃ trigger ∈ scene.triggers, trigger.responds event = true) ∧
      ∀ condition, scene.condition = some condition → condition.holds d.progress = true := by
  rw [peek, List.mem_map]
  refine exists_congr fun scene => ?_
  rw [← Roster.get?_after, ← hroster, Roster.get?_eq_some_iff, Roster.mem_eligible,
    Scene.respondsTo, Scene.conditionHolds, List.any_eq_true, Option.all_eq_true]
  constructor
  · rintro ⟨⟨hmem, hrest⟩, rfl⟩
    exact ⟨⟨hmem, rfl⟩, hrest⟩
  · rintro ⟨⟨hmem, rfl⟩, hrest⟩
    exact ⟨⟨hmem, hrest⟩, rfl⟩

/-- The order of what is listed, told from the registrations. -/
theorem pairwise_peek (hroster : d.roster = Roster.after past) (event : GameEvent) :
    (d.peek event).Pairwise (Outranks past) := by
  have hentered : d.roster.scenes.Pairwise fun s t => ∃ i j,
      EntersAt past s.id i ∧ EntersAt past t.id j ∧ i < j := by
    have hsorted := Roster.sorted_after past
    rwa [← hroster, Roster.ids, List.pairwise_map] at hsorted
  have henters : ∀ scene ∈ d.roster.scenes, ∃ k, EntersAt past scene.id k := by
    intro scene hscene
    rw [hroster] at hscene
    exact Roster.exists_entersAt (List.mem_map_of_mem hscene)
  rw [peek, List.pairwise_map]
  refine (Roster.pairwise_eligible hentered).imp_of_mem fun {s t} hs ht hst => ?_
  have hs' := (Roster.mem_eligible.mp hs).1
  have ht' := (Roster.mem_eligible.mp ht).1
  rcases hst with hlt | ⟨heq, i, j, hi, hj, hlt⟩
  · obtain ⟨i, hi⟩ := henters s hs'
    obtain ⟨j, hj⟩ := henters t ht'
    exact ⟨s, t, i, j, latest?_of_mem hroster hs', latest?_of_mem hroster ht', hi, hj, .inl hlt⟩
  · exact ⟨s, t, i, j, latest?_of_mem hroster hs', latest?_of_mem hroster ht', hi, hj,
      .inr ⟨heq, hlt⟩⟩

/-- **Which scene an event starts**, whatever the director was told before and whatever the game
has come to. -/
theorem History.arbitrates {ω : Type} {store : Store (StateM ω)} {s : σ} {e : Director σ}
    {w w' : ω} {eps : List (Episode σ)} (hist : History h store { stage := s } w eps e w')
    (stage : σ) (event : GameEvent) :
    Arbitrates h (registrations eps) event { e with stage } := by
  have hroster : ({ e with stage } : Director σ).roster = Roster.after (registrations eps) :=
    hist.roster_eq
  generalize ({ e with stage } : Director σ) = d at hroster
  have hhead : (d.peek event).head? =
      (d.roster.select? event d.progress d.active?).map Scene.id := by
    rw [peek, List.head?_map, Roster.select?]
  refine ⟨Roster.nodup_eligible, mem_peek_iff hroster event, pairwise_peek hroster event,
    ?_, fun hnone => ?_, fun id hid => ?_⟩
  · rw [hhead, notice]
    cases d.roster.select? event d.progress d.active? <;> rfl
  · rw [hhead, Option.map_eq_none_iff] at hnone
    rw [notice, hnone]
  · rw [hhead, Option.map_eq_some_iff] at hid
    obtain ⟨scene, hselect, rfl⟩ := hid
    have hmem : scene ∈ d.roster.eligible event d.progress d.active? :=
      List.mem_of_head? hselect
    rw [notice, hselect]
    exact ⟨scene, latest?_of_mem hroster (Roster.mem_eligible.mp hmem).1, rfl,
      starts_play d scene⟩

end Director

/-! ### A rehearsal -/

namespace Rehearsal

/-- Sows until it rains. -/
def sowing : Scene where
  id := "sowing"
  triggers := [.enterScreen "field"]
  steps := [.waitForFlag "rain" true]

/-- Reaps until it rains. -/
def reaping : Scene := { sowing with id := "reaping" }

/-- Goes before all work, once there is something to eat. -/
def feast : Scene where
  id := "feast"
  triggers := [.firstLaunch, .enterScreen "field"]
  condition := some { flags := (∅ : NameMap Bool).insert "harvest" true }
  steps := [.say { speaker := "cook", text := "Come in!" }]
  priority := 9

/-- The sowing is put off behind the reaping, which is registered again while nobody works. -/
def season : List Cue :=
  [.register sowing, .register reaping, .register feast, .unregister "sowing", .register sowing,
    .register { reaping with version := 2 }]

/-- The field when there is work to do. -/
def field : Director Notes := ((newcomer.performAll stage Records.store season).run ∅).1.2

end Rehearsal

namespace Director

open Rehearsal

/-- The reaping comes first, although the sowing was registered before it at the beginning. It
starts as it was registered last. -/
theorem arbitrates_season : ∃ eps w, History Rehearsal.stage Records.store newcomer ∅ eps field w ∧
    eps.map Episode.cue = season ∧
    Arbitrates Rehearsal.stage (registrations eps) (.enterScreen "field") field ∧
    field.peek (.enterScreen "field") = ["reaping", "sowing"] ∧
    (field.notice Rehearsal.stage (.enterScreen "field")).1 = some "reaping" ∧
    latest? (registrations eps) "reaping" = some (.upsert { reaping with version := 2 }) := by
  obtain ⟨eps, hist, hcues, -⟩ :=
    @history_of_performAll _ _ Rehearsal.stage Records.store season newcomer ∅
  have harbitrates := hist.arbitrates field.stage (.enterScreen "field")
  have heligible : field.roster.scenes.filter (Roster.isEligible (.enterScreen "field")
      field.progress field.active?) = [{ reaping with version := 2 }, sowing] := by
    decide +kernel
  have hpeek : field.peek (.enterScreen "field") = ["reaping", "sowing"] := by
    rw [peek, Roster.eligible, heligible, List.mergeSort_of_pairwise (by decide)]
    rfl
  have hregistrations : registrations eps = season.filterMap Cue.registration? := by
    rw [← hcues, List.filterMap_map]
    rfl
  refine ⟨eps, _, hist, hcues, harbitrates, hpeek, ?_, ?_⟩
  · exact harbitrates.reply_eq.trans (congrArg List.head? hpeek)
  · rw [hregistrations]
    decide +kernel

end Director

end Cutscene
