import Cutscene.Proofs.Director.Bracketing
import Cutscene.Proofs.Director.Replay

/-!
# Scenes Are Completed Once

An event of the game starts no scene that has been completed. A scene that ends by itself is
completed, and one that is broken off is not. So a scene is completed once and for all, however
often it is registered again, as long as nobody starts it by its id and no other progress is loaded.

What has been completed by the time of an event is read back from the events before it. The
director keeps the same account: at the beginning of each episode it has completed exactly the
scenes that the events so far have.

## Main results

* `Progress.countP_completes_le`: where no scene is completed twice, each is completed at most once.
* `Director.once_perform`: no cue, other than to load or to start a scene by its id, leads to the
  start of a scene that has been completed, or completes one twice.
* `Director.History.completes_once`: so it is in the course of every history.
-/

namespace Cutscene

/-- The scene that starts. -/
def Occurrence.starting? : Occurrence → Option String
  | sceneStarted scene _ _ => some scene
  | sceneEnded _ | flagChanged .. | counterChanged .. | commandDispatched .. | commandFailed .. =>
    none

/-- The scene that has ended by itself. -/
def Occurrence.completing? : Occurrence → Option String
  | sceneEnded ended => if ended.reason = .completed then some ended.scene else none
  | sceneStarted .. | flagChanged .. | counterChanged .. | commandDispatched ..
  | commandFailed .. => none

/-- What happens within a run neither starts nor completes a scene. -/
theorem Occurrence.of_isInner {o : Occurrence} (ho : o.isInner = true) :
    o.starting? = none ∧ o.completing? = none := by
  cases o with
  | sceneStarted | sceneEnded => cases ho
  | _ => exact ⟨rfl, rfl⟩

namespace Progress

variable {p q : Progress} {es : List Event} {scene : String}

/-- The event starts or completes no scene that has been completed. -/
def Fresh (p : Progress) (o : Occurrence) : Prop :=
  ∀ scene, o.starting? = some scene ∨ o.completing? = some scene → p.isCompleted scene = false

/-- An event completes the scene that it says has ended by itself, and no other. -/
theorem isCompleted_replayEvent (p : Progress) (ev : Event) (scene : String) :
    (p.replayEvent ev).isCompleted scene = true ↔
      p.isCompleted scene = true ∨ ev.occurrence.completing? = some scene := by
  rw [replayEvent]
  cases ev.occurrence with
  | sceneEnded ended =>
      dsimp only [Occurrence.completing?]
      split
      · simp [complete, touch, isCompleted, Std.ExtTreeSet.contains_insert, or_comm]
      · simp
  | _ => simp [Occurrence.completing?, setFlag, setCounter, touch, isCompleted]

/-- **A scene has been completed if it had been before, or one of the events says so.** Induction on
the events. -/
theorem isCompleted_replay (es : List Event) (p : Progress) (scene : String) :
    (p.replay es).isCompleted scene = true ↔
      p.isCompleted scene = true ∨ ∃ ev ∈ es, ev.occurrence.completing? = some scene := by
  induction es generalizing p with
  | nil => simp [replay]
  | cons ev rest ih =>
      rw [replay, List.foldl_cons, ← replay, ih, isCompleted_replayEvent, or_assoc]
      simp only [List.mem_cons, exists_eq_or_imp]

/-- Two lots of progress that agree have completed the same scenes. -/
theorem Agrees.isCompleted_eq {steady : Prop} (hpq : Agrees steady p q) (scene : String) :
    p.isCompleted scene = q.isCompleted scene := by
  rw [isCompleted, isCompleted, hpq.completed_eq]

/-- Where progress agrees, events start and complete the same scenes for the first time. -/
theorem Agrees.fresh {steady : Prop} (hpq : Agrees steady p q)
    (hes : Throughout Fresh p es) : Throughout Fresh q es := fun i ev hi scene hscene => by
  rw [← (hpq.replay (es.take i)).isCompleted_eq]
  exact hes i ev hi scene hscene

/-- What happens within runs is fresh, and completes nothing. -/
theorem fresh_of_isInner (hes : ∀ ev ∈ es, ev.occurrence.isInner = true) (p : Progress) :
    Throughout Fresh p es ∧ ∀ scene, (p.replay es).isCompleted scene = p.isCompleted scene := by
  constructor
  · intro i ev hi scene hscene
    obtain ⟨hstarting, hcompleting⟩ := Occurrence.of_isInner (hes ev (List.mem_of_getElem? hi))
    rw [hstarting, hcompleting] at hscene
    rcases hscene with hnone | hnone <;> cases hnone
  · intro scene
    rw [Bool.eq_iff_iff, isCompleted_replay, or_iff_left]
    rintro ⟨ev, hev, hcompleting⟩
    rw [(Occurrence.of_isInner (hes ev hev)).2] at hcompleting
    cases hcompleting

/-- **Where no scene is completed twice, each is completed at most once**, and not at all if it has
been before. -/
theorem countP_completes_le (hes : Throughout Fresh p es) (scene : String) :
    es.countP (·.occurrence.completing? = some scene) ≤
      if p.isCompleted scene = true then 0 else 1 := by
  induction es generalizing p with
  | nil => exact Nat.zero_le _
  | cons ev rest ih =>
      obtain ⟨hev, hrest⟩ := hes.of_cons
      have hlater := ih hrest
      have hdone := isCompleted_replayEvent p ev scene
      by_cases hcompleting : ev.occurrence.completing? = some scene
      · rw [if_pos (hdone.mpr (.inr hcompleting))] at hlater
        rw [List.countP_cons_of_pos (by simpa using hcompleting), Nat.le_zero.mp hlater,
          hev scene (.inr hcompleting)]
        exact Nat.le_refl 1
      · rw [or_iff_left hcompleting] at hdone
        rw [List.countP_cons_of_neg (by simpa using hcompleting)]
        simpa only [hdone] using hlater

end Progress

namespace Director

open Progress (Agrees Fresh Throughout Tells)

variable {σ ω : Type} {h : Host σ} {d e f : Director σ}

/-- The scene that is played has not been completed. -/
def Settled (d : Director σ) : Prop :=
  ∀ scene, d.active? = some scene → d.progress.isCompleted scene = false

/-- The scene of the active run is played. -/
theorem active?_eq_some {run : Run} (hrun : d.run = some run)
    (hactive : run.state.isActive = true) : d.active? = some run.scene.id := by
  rw [active?, activeRun?, hrun, Option.filter_some, if_pos hactive]
  rfl

/-- Where no run is active, no scene is played. -/
theorem active?_eq_none (hidle : d.activeRun? = none) : d.active? = none := by
  rw [active?, hidle]
  rfl

/-- Where no scene is played, nothing has to be settled. -/
theorem settled_of_idle (hidle : d.activeRun? = none) : Settled d := by
  intro scene hactive
  rw [active?_eq_none hidle] at hactive
  cases hactive

/-- Asking for places does not change what is played. -/
theorem active?_resolve (d : Director σ) : (d.resolve h).active? = d.active? :=
  resolve_induction (P := fun e => e.active? = d.active?) (by
    intro e ticket anchor he
    have hopen : (e.locate h ticket anchor).open? = e.open? := by
      obtain ⟨stage, run, heq, hrun⟩ := exists_locate h e ticket anchor
      rw [heq]
      rcases hrun with rfl | ⟨run', rect, hrun', rfl⟩
      · rfl
      · obtain ⟨highlight, state, presented, heq⟩ := run'.exists_applyGeometry ticket rect
        rw [open?_congr hrun' rfl] <;> rw [heq]
    have hactive : ∀ f : Director σ, f.active? = f.open?.map Prod.fst := fun f => by
      rw [active?, open?, Option.map_map]
      rfl
    rw [hactive, hopen, ← hactive, he]) rfl

/-! ### What is recorded once -/

/-- What was recorded between the directors says what has become of progress. If the scene that was
played had not been completed, no completed scene was started and none was completed twice; and the
scene that is played afterwards has not been completed either. -/
def Once (d e : Director σ) : Prop :=
  ∃ es, Logs d es e ∧ Agrees False (d.progress.replay es) e.progress ∧
    (Settled d → Throughout Fresh d.progress es ∧ Settled e)

namespace Once

/-- Nothing is recorded. -/
theorem silent (hevents : e.events = d.events) (hrecorded : e.recorded = d.recorded)
    (hprogress : e.progress = d.progress) (hactive : e.active? = d.active?) : Once d e := by
  refine ⟨[], .nil hevents hrecorded, hprogress ▸ .refl _, fun hd => ⟨.nil, ?_⟩⟩
  rw [Settled, hprogress, hactive]
  exact hd

/-- What is recorded once, and then once more, is recorded once. -/
theorem trans (hde : Once d e) (hef : Once e f) : Once d f := by
  obtain ⟨es, hes, hagrees, hfresh⟩ := hde
  obtain ⟨fs, hfs, hagrees', hfresh'⟩ := hef
  refine ⟨es ++ fs, hes.trans hfs, ?_, fun hd => ?_⟩
  · rw [Progress.replay_append]
    exact (hagrees.replay fs).trans hagrees'
  · obtain ⟨hearlier, he⟩ := hfresh hd
    obtain ⟨hlater, hf⟩ := hfresh' he
    exact ⟨hearlier.append (hagrees.symm.fresh hlater), hf⟩

end Once

/-- **Following a turn** completes the scene if it has ended by itself, and no other. -/
theorem once_follow {run : Run} {q : Progress} {es : List Effect}
    (htells : Tells d.progress es q) (hcloses : run.Closes es)
    (hscene : Settled d → d.progress.isCompleted run.scene.id = false) :
    Once d (d.follow h run q es) := by
  have hrun := run_follow (h := h) d run q es
  obtain ⟨all, hall, -, hagrees⟩ := replays_follow (h := h) .refl run htells
  refine ⟨all, hall, hagrees.mono False.elim, fun hd => ?_⟩
  obtain ⟨evs, hinner, ⟨hactive, hlogs⟩ | ⟨ending, ev, hended, ho, -, hlogs⟩⟩ :=
    logs_follow (h := h) d q hcloses
  · obtain ⟨hfresh, hsame⟩ :=
      Progress.fresh_of_isInner (fun ev hev => (hinner ev hev).1) d.progress
    obtain rfl := hall.unique hlogs
    refine ⟨hfresh, fun scene hplayed => ?_⟩
    rw [active?_eq_some hrun hactive, Option.some.injEq] at hplayed
    rw [← hplayed, ← hagrees.isCompleted_eq, hsame]
    exact hscene hd
  · obtain ⟨hfresh, hsame⟩ :=
      Progress.fresh_of_isInner (fun ev hev => (hinner ev hev).1) d.progress
    obtain rfl := hall.unique hlogs
    refine ⟨hfresh.append (.singleton fun scene hev => ?_), settled_of_idle ?_⟩
    · rw [hsame]
      rw [ho] at hev
      rcases hev with hev | hev
      · cases hev
      · dsimp only [Occurrence.completing?, Ending.report] at hev
        split at hev
        · exact Option.some.inj hev ▸ hscene hd
        · cases hev
    · rw [activeRun?, hrun, Option.filter_some, hended]
      rfl

/-- An answer that the run accepts completes its scene once at most. -/
theorem once_answer {run : Run} {turn : Turn} (hrun : d.run = some run)
    (hturn : run.Answers d.progress turn) :
    Once d (d.follow h turn.run turn.progress turn.effects) :=
  once_follow hturn.tells hturn.closes fun hd => by
    rw [hturn.same.2]
    exact hd _ (active?_eq_some hrun hturn.isActive)

/-- So does a turn that is taken, if there is one. -/
theorem once_take {turn? : Option Turn}
    (hturn : ∀ turn, turn? = some turn → ∃ run, d.run = some run ∧ run.Answers d.progress turn) :
    Once d (d.take h turn?).2 := by
  cases turn? with
  | none => exact .silent rfl rfl rfl rfl
  | some turn =>
      obtain ⟨run, hrun, hanswers⟩ := hturn turn rfl
      exact once_answer hrun hanswers

/-- Breaking off completes nothing. -/
theorem once_stop (d : Director σ) : Once d (d.stop h).2 := by
  rw [stop]
  cases hrun : d.activeRun? with
  | none => exact .silent rfl rfl rfl rfl
  | some run =>
      obtain ⟨hrun, hactive⟩ := Option.filter_eq_some_iff.mp hrun
      refine once_follow (Run.tells_interrupt _ _) (Run.closes_interrupt hactive _) fun hd => ?_
      rw [Run.interrupt, if_pos hactive]
      dsimp only
      rw [Run.scene_present]
      exact hd run.scene.id (active?_eq_some hrun hactive)

/-- Something is written from outside. -/
theorem once_record (hevents : e.events = d.events) (hrecorded : e.recorded = d.recorded)
    (hrun : e.run = d.run) {o : Occurrence} (ho : o.isInner = true)
    (hcompleted : e.progress.completed = d.progress.completed)
    (hagrees : Agrees False (d.progress.replayEvent (e.entry h (d.correlation h) o)) e.progress) :
    Once d (e.record h (d.correlation h) o) := by
  refine ⟨_, (logs_record e _ o).congr hevents.symm hrecorded.symm, hagrees, fun hd => ⟨?_, ?_⟩⟩
  · exact (Progress.fresh_of_isInner (fun ev hev => List.mem_singleton.mp hev ▸ ho) _).1
  · intro scene hactive
    have hplayed : d.active? = some scene := by
      rw [← hactive, active?, active?, activeRun?, activeRun?, ← hrun]
      rfl
    have hsame : (e.record h (d.correlation h) o).progress.completed = d.progress.completed :=
      hcompleted
    rw [Progress.isCompleted, hsame]
    exact hd scene hplayed

/-- **A scene that has not been completed may start** while none is played. -/
theorem once_debut (scene : Scene) (hidle : d.activeRun? = none)
    (hscene : d.progress.isCompleted scene.id = false) : Once d (d.debut h scene) := by
  have hsame := Run.same_advance (Run.start (h.ids.run d.started) scene d.progress)
    (d.progress.touch scene.id (h.now d.stage).1.stamp)
  have hcloses : (d.opening h scene).run.Closes (d.opening h scene).effects :=
    Run.closes_advance rfl _
  have hannounced : (d.announce h scene).progress.isCompleted scene.id = false := hscene
  have hannounce : Once d (d.announce h scene) := by
    obtain ⟨es, hes, -, hagrees⟩ := replays_announce (h := h) (d := d) .refl scene
    obtain rfl := hes.unique ((logs_record _ _ _).congr rfl rfl)
    refine ⟨_, hes, hagrees.mono False.elim, fun hd => ⟨.singleton ?_, ?_⟩⟩
    · rintro _ (⟨⟨⟩⟩ | ⟨⟨⟩⟩)
      exact hscene
    · exact settled_of_idle hidle
  refine hannounce.trans (once_follow (Run.tells_advance _ _) hcloses fun _ => ?_)
  rw [opening, hsame.2]
  exact hannounced

/-- An event starts only a scene that has not been completed. -/
theorem isCompleted_of_select? {scene : Scene} {event : GameEvent}
    (hselect : d.roster.select? event d.progress d.active? = some scene) :
    d.progress.isCompleted scene.id = false := by
  have hmem : scene ∈ d.roster.eligible event d.progress d.active? :=
    List.mem_of_head? hselect
  rw [Roster.eligible, List.mem_mergeSort, List.mem_filter, Roster.isEligible] at hmem
  simp only [Bool.and_eq_true, Bool.not_eq_true'] at hmem
  exact hmem.2.1.1.1

/-- An event of the game starts no scene that has been completed. -/
theorem once_notice (d : Director σ) (event : GameEvent) : Once d (d.notice h event).2 := by
  rw [notice]
  cases hselect : d.roster.select? event d.progress d.active? with
  | none => exact .silent rfl rfl rfl rfl
  | some scene =>
      change Once d (d.play h scene)
      rw [play_eq_debut]
      refine (once_stop d).trans (once_debut scene (activeRun?_stop d) ?_)
      rw [(breaksOff_stop d).progress_eq]
      exact isCompleted_of_select? hselect

/-- Setting a flag completes a scene once at most, by way of the run that waits for it. -/
theorem once_setFlag (d : Director σ) (flag : String) (value : Bool) :
    Once d (d.setFlag h flag value) := by
  have hwrite : Once d (d.writeFlag h flag value) := once_record (d := d)
    (e := { d with progress := d.progress.setFlag flag value, dirty := true }) rfl rfl rfl rfl rfl
    (.refl _)
  rw [setFlag_eq]
  refine hwrite.trans (once_take fun turn hturn => ?_)
  obtain ⟨run, hrun, hnotified⟩ := Option.bind_eq_some_iff.mp hturn
  exact ⟨run, hrun, .notifyFlag hnotified⟩

/-- So does a choice. -/
theorem once_choose (d : Director σ) (option : Nat) : Once d (d.choose h option).2 := by
  rw [choose]
  cases hrun : d.run with
  | none => exact .silent rfl rfl rfl rfl
  | some run =>
      dsimp only
      cases hturn : run.choose d.progress option with
      | error fault => exact .silent rfl rfl rfl rfl
      | ok turn => exact once_answer hrun (.choose option hturn)

/-- Asking for places completes nothing. -/
theorem once_resolve (d : Director σ) : Once d (d.resolve h) := by
  have hactive := active?_resolve (h := h) d
  obtain ⟨stage, run, heq⟩ := exists_resolve h d
  rw [heq] at hactive ⊢
  exact .silent rfl rfl rfl hactive

/-! ### Cues -/

section Perform

variable {store : Store (StateM ω)} {w w' : ω}

/-- Nor does saving. -/
theorem once_flush (store : Store (StateM ω)) (d : Director σ) (w : ω) :
    Once d ((d.flush store).run w).1.2 := by
  obtain ⟨yes, dirty, w', hflush⟩ := exists_flush store w d
  rw [hflush]
  exact .silent rfl rfl rfl rfl

/-- **No cue starts a completed scene or completes a scene twice**, unless it is to load or to start
a scene by its id. -/
theorem once_perform (store : Store (StateM ω)) (d : Director σ) (w : ω) {cue : Cue}
    (hload : ∀ ns, cue ≠ .load ns) (hstart : ∀ id, cue ≠ .start id) (htake : cue ≠ .takeEvents) :
    Once d ((d.perform h store cue).run w).1.2 := by
  cases cue with
  | load ns => exact absurd rfl (hload ns)
  | start id => exact absurd rfl (hstart id)
  | takeEvents => exact absurd rfl htake
  | flush =>
      simp only [perform, StateT.run_bind]
      exact once_flush store d w
  | settle =>
      simp only [perform, settle, StateT.run_bind]
      exact (once_resolve d).trans (once_flush store _ w)
  | resolve => exact once_resolve d
  | register | unregister => exact .silent rfl rfl rfl rfl
  | notice event => exact once_notice d event
  | stop => exact once_stop d
  | choose option => exact once_choose d option
  | acknowledge =>
      refine once_take (d := d) fun turn hturn => ?_
      obtain ⟨run, hrun, hturn⟩ := Option.bind_eq_some_iff.mp hturn
      exact ⟨run, hrun, .acknowledge hturn⟩
  | resume ticket =>
      refine once_take (d := d) fun turn hturn => ?_
      obtain ⟨run, hrun, hturn⟩ := Option.bind_eq_some_iff.mp hturn
      exact ⟨run, hrun, .resumeTimer ticket hturn⟩
  | setFlag flag value => exact once_setFlag d flag value
  | setCounter counter value =>
      exact once_record (d := d)
        (e := { d with progress := d.progress.setCounter counter value, dirty := true })
        rfl rfl rfl rfl rfl (.refl _)

/-- A scene that is broken off when progress is loaded leaves none that is played. -/
theorem settled_load (store : Store (StateM ω)) (d : Director σ) (ns : Namespace) (w : ω) :
    Settled ((d.perform h store (.load ns)).run w).1.2 := by
  have hidle := activeRun?_stop (h := h) d
  rw [perform_load]
  exact settled_of_idle hidle

/-! ### Histories -/

variable {past : List (Episode σ)}

/-- Induction on the history: each episode adds its events to those that have been recorded
since. -/
theorem History.once_news (hist : History h store d w past e w') (hd : Settled d)
    (hcues : ∀ ep ∈ past, (∀ ns, ep.cue ≠ .load ns) ∧ ∀ id, ep.cue ≠ .start id) :
    Settled e ∧ Throughout Fresh d.progress (past.flatMap Episode.news) ∧
      Agrees False (d.progress.replay (past.flatMap Episode.news)) e.progress := by
  induction hist with
  | nil => exact ⟨hd, .nil, .refl _⟩
  | @snoc past e f w' w'' reply hist stage cue hp ih =>
      obtain ⟨he, hfresh, hagrees⟩ := ih fun ep hep => hcues ep (List.mem_append_left _ hep)
      obtain ⟨hload, hstart⟩ := hcues _ List.mem_concat_self
      rw [List.flatMap_append, List.flatMap_singleton]
      rcases news_cases ⟨{ e with stage }, cue, reply, f⟩ hp with
        ⟨-, -, hafter, -, hnews⟩ | ⟨htake, -, hlogs⟩
      · dsimp only at hafter
        rw [hnews, hafter, List.append_nil]
        exact ⟨he, hfresh, hagrees⟩
      · obtain ⟨es, hes, hagrees', hfresh'⟩ :=
          once_perform (h := h) store { e with stage } w' hload hstart htake
        rw [hp] at hes hagrees' hfresh'
        obtain rfl := hes.unique hlogs
        obtain ⟨hlater, hf⟩ := hfresh' he
        refine ⟨hf, hfresh.append (hagrees.symm.fresh hlater), ?_⟩
        rw [Progress.replay_append]
        exact (hagrees.replay _).trans hagrees'

/-- **A scene is completed once.** Whatever progress has been loaded, and whatever a director is
told after that, as long as it neither loads again nor starts a scene by its id: what is recorded
since consists of what was recorded in each episode; no scene starts that has been completed by
then; each scene is completed at most once, and not at all if it had been completed before; the
events tell at each episode which scenes have been completed; and in the course of an episode just
those scenes are added whose end by themselves it has recorded, and none is taken away. -/
theorem History.completes_once {first : Episode σ} {ns : Namespace}
    (hist : History h store d w (first :: past) e w') (hload : first.cue = .load ns)
    (hcues : ∀ ep ∈ past, (∀ ns, ep.cue ≠ .load ns) ∧ ∀ id, ep.cue ≠ .start id) :
    let since := past.flatMap Episode.news
    log past e = first.after.events.toList ++ since ∧
      (∀ (i : Nat) (ev : Event) (scene : String), since[i]? = some ev →
        ev.occurrence.starting? = some scene →
        (first.after.progress.replay (since.take i)).isCompleted scene = false) ∧
      (∀ scene, since.countP (·.occurrence.completing? = some scene) ≤
        if first.after.progress.isCompleted scene = true then 0 else 1) ∧
      (∀ earlier ep later, past = earlier ++ ep :: later →
        (first.after.progress.replay (earlier.flatMap Episode.news)).completed =
          ep.before.progress.completed) ∧
      ∀ ep ∈ past, ∀ scene, ep.after.progress.isCompleted scene = true ↔
        ep.before.progress.isCompleted scene = true ∨
          ∃ ev ∈ ep.news, ev.occurrence.completing? = some scene := by
  rw [← List.nil_append (first :: past)] at hist
  obtain ⟨d₁, stage, w₁, w₂, -, hbefore, hp, -, hlater⟩ := hist.episode
  -- Loading breaks the scene off, so that no scene is under way.
  have hsettled : Settled first.after := by
    have hloaded := settled_load (h := h) store first.before ns w₁
    rw [← hload, hp] at hloaded
    exact hloaded
  obtain ⟨-, hfresh, -⟩ := hlater.once_news hsettled hcues
  refine ⟨hlater.log_eq_news, fun i ev scene hi hstarting => hfresh i ev hi scene (.inl hstarting),
    Progress.countP_completes_le hfresh, ?_, ?_⟩
  · rintro earlier ep later rfl
    obtain ⟨e₁, stage, w₁, w₂, hearlier, hbefore, -⟩ := hlater.episode
    obtain ⟨-, -, hagrees⟩ := hearlier.once_news hsettled
      fun ep hep => hcues ep (List.mem_append_left _ hep)
    rw [hbefore]
    exact hagrees.completed_eq
  · intro ep hep scene
    obtain ⟨earlier, later, rfl⟩ := List.append_of_mem hep
    obtain ⟨e₁, stage, w₁, w₂, -, -, hp, -⟩ := hlater.episode
    rw [← (agrees_news (hcues ep hep).1 hp).isCompleted_eq, Progress.isCompleted_replay]

end Perform

end Director

/-! ### A rehearsal -/

namespace Rehearsal

/-- Is over as soon as it begins. -/
def welcome : Scene where
  id := "welcome"
  triggers := [.firstLaunch]
  steps := [.setFlag "greeted" true]

/-- Waits for light. -/
def search : Scene where
  id := "search"
  triggers := [.enterScreen "cave"]
  steps := [.waitForFlag "torch" true]

/-- Welcomes once, however often the scene is registered, and searches until there is light. The
first search is broken off. -/
def voyage : List Cue :=
  [.register welcome, .notice .firstLaunch, .register { welcome with version := 2 },
    .notice .firstLaunch, .register search, .notice (.enterScreen "cave"), .stop,
    .notice (.enterScreen "cave"), .takeEvents, .setFlag "torch" true,
    .notice (.enterScreen "cave")]

end Rehearsal

namespace Director

open Rehearsal

/-- The search started twice and the welcome once. Each has been completed once. -/
theorem completes_once_voyage :
    ∃ first past e w, History Rehearsal.stage Records.store newcomer ∅ (first :: past) e w ∧
      first.cue = .load ⟨"ada"⟩ ∧ past.map Episode.cue = voyage ∧
      (∀ ep ∈ past, (∀ ns, ep.cue ≠ .load ns) ∧ ∀ id, ep.cue ≠ .start id) ∧
      (past.flatMap Episode.news).filterMap (·.occurrence.starting?) =
        ["welcome", "search", "search"] ∧
      (past.flatMap Episode.news).filterMap (·.occurrence.completing?) = ["welcome", "search"] ∧
      (∀ (i : Nat) (ev : Event) (scene : String), (past.flatMap Episode.news)[i]? = some ev →
        ev.occurrence.starting? = some scene →
        (first.after.progress.replay ((past.flatMap Episode.news).take i)).isCompleted scene =
          false) ∧
      ∀ scene, (past.flatMap Episode.news).countP (·.occurrence.completing? = some scene) ≤
        if first.after.progress.isCompleted scene = true then 0 else 1 := by
  have hist : History Rehearsal.stage Records.store newcomer ∅ _ _ _ :=
    history_episodes (.load ⟨"ada"⟩ :: voyage) newcomer ∅
  rw [episodes] at hist
  generalize hpast : episodes Rehearsal.stage Records.store _ _ voyage = past at hist
  have hcues : ∀ ep ∈ past, (∀ ns, ep.cue ≠ .load ns) ∧ ∀ id, ep.cue ≠ .start id := by
    intro ep hep
    have hmem : ep.cue ∈ voyage := by
      have hvoyage : past.map Episode.cue = voyage := by rw [← hpast]; rfl
      exact hvoyage ▸ List.mem_map_of_mem hep
    simp only [voyage, List.mem_cons, List.not_mem_nil, or_false] at hmem
    constructor <;> rintro _ heq <;> simp [heq] at hmem
  obtain ⟨-, hstarts, hcounts, -⟩ := hist.completes_once rfl hcues
  refine ⟨_, past, _, _, hist, rfl, ?_, hcues, ?_, ?_, hstarts, hcounts⟩ <;>
    rw [← hpast] <;> decide +kernel

end Director

end Cutscene
