import Cutscene.Proofs.Director.Replay
import Cutscene.Proofs.Director.Saving

/-!
# Turning From One Namespace to Another

Loading replaces progress and takes the mark of unsaved progress back. What has been written under
one namespace is therefore safe when the director turns to another one if it has been saved before:
then each namespace has all that was written under it stored as soon as a flush succeeds
(`Director.History.stores_written`). The store may refuse to save at any time, and the director may
turn to any namespace any number of times.

Progress that bears the mark when another namespace is loaded is dropped, and a flush that follows
succeeds all the same (`Director.detour_drops_written`).

What has been written under a namespace is read back from the events that were recorded while it
was the current one (`Director.written`): the last value of each flag and counter, and every scene
that was completed.

## Main results

* `Director.covers_reports`: the events that change progress leave the mark.
* `Director.History.stores_written`: with every turn to another namespace made without the mark,
  nothing that was written under any namespace is lost.
-/

namespace Cutscene

/-! ### Progress that has been kept -/

namespace Progress

/-- All that the one progress tells of flags, counters and completed scenes, the other tells. -/
structure Within (p q : Progress) : Prop where
  flags : ∀ (name : String) (value : Bool),
    p.flags[name]? = some value → q.flags[name]? = some value
  counters : ∀ (name : String) (value : Int64),
    p.counters[name]? = some value → q.counters[name]? = some value
  completed : ∀ scene, p.isCompleted scene = true → q.isCompleted scene = true

namespace Within

variable {steady : Prop} {p q r : Progress}

/-- Where nothing has been written, everything is kept. -/
theorem empty (q : Progress) : Within .empty q where
  flags name value hvalue := by simp [Progress.empty] at hvalue
  counters name value hvalue := by simp [Progress.empty] at hvalue
  completed scene hscene := by simp [Progress.empty, isCompleted] at hscene

/-- A flag that is set on both sides is kept. -/
theorem setFlag (hpq : Within p q) (name : String) (value : Bool) :
    Within (p.setFlag name value) (q.setFlag name value) where
  flags other held := by
    simp only [Progress.setFlag, Std.ExtTreeMap.getElem?_insert]
    split
    · exact id
    · exact hpq.flags other held
  counters := hpq.counters
  completed := hpq.completed

/-- So is a counter. -/
theorem setCounter (hpq : Within p q) (name : String) (value : Int64) :
    Within (p.setCounter name value) (q.setCounter name value) where
  flags := hpq.flags
  counters other held := by
    simp only [Progress.setCounter, Std.ExtTreeMap.getElem?_insert]
    split
    · exact id
    · exact hpq.counters other held
  completed := hpq.completed

/-- So is a scene that is completed on both sides. -/
theorem complete (hpq : Within p q) (scene : String) (s t : Int64) :
    Within (p.complete scene s) (q.complete scene t) where
  flags := hpq.flags
  counters := hpq.counters
  completed other := by
    simp only [Progress.complete, isCompleted, touch, Std.ExtTreeSet.contains_insert,
      Bool.or_eq_true]
    exact Or.imp_right (hpq.completed other)

/-- An event tells both of the same change. -/
theorem replayEvent (hpq : Within p q) (ev : Event) :
    Within (p.replayEvent ev) (q.replayEvent ev) := by
  rw [Progress.replayEvent, Progress.replayEvent]
  cases ev.occurrence with
  | flagChanged flag old new => exact hpq.setFlag flag new
  | counterChanged counter old new => exact hpq.setCounter counter new
  | sceneStarted scene version run => exact ⟨hpq.flags, hpq.counters, hpq.completed⟩
  | sceneEnded ended =>
      dsimp only
      split
      · exact hpq.complete ended.scene _ _
      · exact hpq
  | commandDispatched | commandFailed => exact hpq

/-- So is all that events tell of. Induction on the events. -/
theorem replay (hpq : Within p q) (es : List Event) : Within (p.replay es) (q.replay es) := by
  induction es generalizing p q with
  | nil => exact hpq
  | cons ev rest ih => exact ih (hpq.replayEvent ev)

/-- What is kept in progress is kept in any progress that agrees with it. -/
theorem agrees (hpq : Within p q) (hqr : Agrees steady q r) : Within p r where
  flags := hqr.flags_eq ▸ hpq.flags
  counters := hqr.counters_eq ▸ hpq.counters
  completed scene hscene := by
    rw [isCompleted, ← hqr.completed_eq]
    exact hpq.completed scene hscene

end Within

end Progress

/-- The event tells of no change of progress. -/
def Event.IsSilent (ev : Event) : Prop := ∀ p : Progress, p.replayEvent ev = p

/-- Silent events change nothing when they are read back. -/
theorem Progress.replay_of_silent {es : List Event} (hes : ∀ ev ∈ es, ev.IsSilent)
    (p : Progress) : p.replay es = p := by
  induction es with
  | nil => rfl
  | cons ev rest ih =>
      rw [replay, List.foldl_cons, hes ev List.mem_cons_self]
      exact ih fun f hf => hes f (List.mem_cons_of_mem _ hf)

namespace Director

open Progress (Within Agrees)

variable {σ ω : Type} {h : Host σ}

/-! ### Events and the mark -/

/-- A director that bears no mark afterwards bore none before, and has recorded no change of
progress. -/
def Reports (d : Director σ) (es : List Event) (e : Director σ) : Prop :=
  Logs d es e ∧ (e.dirty = false → d.dirty = false ∧ ∀ ev ∈ es, ev.IsSilent)

namespace Reports

variable {d e f : Director σ} {es fs : List Event}

/-- Nothing is recorded. -/
theorem nil (hevents : e.events = d.events) (hrecorded : e.recorded = d.recorded)
    (hdirty : e.dirty = d.dirty) : Reports d [] e :=
  ⟨.nil hevents hrecorded, fun hclean =>
    ⟨hdirty ▸ hclean, fun _ hev => absurd hev List.not_mem_nil⟩⟩

/-- There is a mark. -/
theorem of_dirty (hlogs : Logs d es e) (hdirty : e.dirty = true) : Reports d es e :=
  ⟨hlogs, fun hclean => absurd (hdirty.symm.trans hclean) (by decide)⟩

/-- What is recorded for one while and then for another is recorded in a row. -/
theorem trans (hde : Reports d es e) (hef : Reports e fs f) : Reports d (es ++ fs) f := by
  refine ⟨hde.1.trans hef.1, fun hclean => ?_⟩
  obtain ⟨hclean', hlater⟩ := hef.2 hclean
  obtain ⟨hclean'', hearlier⟩ := hde.2 hclean'
  refine ⟨hclean'', fun ev hev => ?_⟩
  rcases List.mem_append.mp hev with hev | hev
  · exact hearlier ev hev
  · exact hlater ev hev

/-- Scenes that are broken off are no change of progress. -/
theorem of_breaksOff (hde : BreaksOff d e) : ∃ es, Reports d es e := by
  obtain ⟨-, hdirty, -, es, hlogs, hended⟩ := hde
  refine ⟨es, hlogs, fun hclean => ⟨hdirty ▸ hclean, fun ev hev p => ?_⟩⟩
  obtain ⟨ended, hoccurrence, hreason⟩ := hended ev hev
  rw [Progress.replayEvent, hoccurrence]
  dsimp only
  rw [if_neg (by rw [hreason]; rintro ⟨⟩)]

end Reports

/-- Whatever an effect is, carrying it out records changes only along with the mark. -/
theorem reports_carryOut (scene : String) (run : Uuid) (d : Director σ) (e : Effect) :
    ∃ es, Reports d es (carryOut h scene run d e) := by
  cases e with
  | flagChanged | counterChanged =>
      exact ⟨_, .of_dirty ((logs_record _ _ _).congr rfl rfl) rfl⟩
  | dispatch command =>
      obtain ⟨es, hlogs, -, hcommand⟩ := logs_carryOut_silent h scene run d
        (e := .dispatch command) rfl fun ending heq => nomatch heq
      refine ⟨es, hlogs, fun hclean => ⟨hclean, fun ev hev p => ?_⟩⟩
      have hone : ∀ f ∈ [ev], f.occurrence.isCommand = true := fun f hf =>
        List.mem_singleton.mp hf ▸ (hcommand ev hev).1
      exact (Progress.replay_of_isCommand hone).1
  | measure | present => exact ⟨[], .nil rfl rfl rfl⟩
  | ended ending =>
      rw [carryOut]
      cases hreason : ending.reason with
      | completed =>
          rw [conclude_of_completed d scene run hreason]
          exact ⟨_, .of_dirty ((logs_record _ _ _).congr rfl rfl) rfl⟩
      | interrupted => exact Reports.of_breaksOff (breaksOff_conclude d scene run hreason)

/-- So does following a turn, effect by effect. -/
theorem reports_follow (d : Director σ) (run : Run) (q : Progress) (effects : List Effect) :
    ∃ es, Reports d es (d.follow h run q effects) :=
  follow_induction (P := fun e => ∃ es, Reports d es e)
    (fun {e} effect _ ⟨_, hes⟩ =>
      (reports_carryOut run.scene.id run.id e effect).elim fun _ hfs => ⟨_, hes.trans hfs⟩)
    ⟨[], .nil rfl rfl rfl⟩

/-- **The events that change progress leave the mark**, whatever a director does on its own. -/
theorem covers_reports (h : Host σ) : Covers h fun d _ e => ∃ es, Reports d es e where
  refl d := ⟨[], .nil rfl rfl rfl⟩
  trans := fun ⟨_, hde⟩ ⟨_, hef⟩ => ⟨_, hde.trans hef⟩
  manage d roster := ⟨[], .nil rfl rfl rfl⟩
  withdraw d := ⟨[], .nil rfl rfl rfl⟩
  locate d ticket anchor := by
    obtain ⟨stage, run, heq, -⟩ := exists_locate h d ticket anchor
    rw [heq]
    exact ⟨[], .nil rfl rfl rfl⟩
  setFlag d flag value := by
    have hwrite : Reports d _ (d.writeFlag h flag value) :=
      .of_dirty ((logs_record _ _ _).congr rfl rfl) rfl
    rw [setFlag_eq]
    cases d.run.bind (·.notifyFlag? (d.progress.setFlag flag value)) with
    | none => exact ⟨_, hwrite⟩
    | some turn =>
        obtain ⟨es, hes⟩ := reports_follow (h := h) (d.writeFlag h flag value) turn.run
          turn.progress turn.effects
        exact ⟨_, hwrite.trans hes⟩
  setCounter d counter value := ⟨_, .of_dirty ((logs_record _ _ _).congr rfl rfl) rfl⟩
  interrupt _ _ := reports_follow _ _ _ _
  answer _ _ := reports_follow _ _ _ _
  debut {d} scene _ := by
    have hannounce : Reports d _ (d.announce h scene) :=
      .of_dirty ((logs_record _ _ _).congr rfl rfl) rfl
    obtain ⟨es, hes⟩ := reports_follow (h := h) (d.announce h scene) (d.opening h scene).run
      (d.opening h scene).progress (d.opening h scene).effects
    exact ⟨_, hannounce.trans hes⟩

/-! ### What has been written -/

/-- What has been written under a namespace in the course of some episodes, as the events tell. -/
def written (ns : Namespace) (past : List (Episode σ)) : Progress :=
  Progress.empty.replay ((past.filter (·.before.ns = ns)).flatMap Episode.news)

/-- One more episode is written under the namespace that it began with. -/
theorem written_concat (past : List (Episode σ)) (ep : Episode σ) :
    (fun ns => written ns (past ++ [ep])) =
      Function.update (fun ns => written ns past) ep.before.ns
        ((written ep.before.ns past).replay ep.news) := by
  funext ns
  rw [written, List.filter_append, List.flatMap_append, Progress.replay_append, ← written]
  by_cases hns : ns = ep.before.ns
  · subst hns
    simp
  · simp [Function.update_of_ne hns, Ne.symm hns, Progress.replay]

/-- The director and its store hold what has been written: the director has what was written under
its namespace, and the store what was written under all others, and under this one too if there is
no mark. -/
structure Holds (record : ω → Namespace → Option Progress) (account : Namespace → Progress)
    (d : Director σ) (w : ω) : Prop where
  current : Within (account d.ns) d.progress
  stored : ∀ ns, (ns = d.ns → d.dirty = false) →
    Within (account ns) ((record w ns).getD .empty)

section Holds

variable {store : Store (StateM ω)} {sound : ω → Prop} {record : ω → Namespace → Option Progress}
  {account : Namespace → Progress} {d e : Director σ} {w : ω} {es : List Event}

/-- **What a director does on its own, it accounts for.** -/
theorem Holds.goesOn (hd : Holds record account d w) (hns : e.ns = d.ns)
    (hreports : Reports d es e)
    (hagrees : Agrees False (d.progress.replay es) e.progress) :
    Holds record (Function.update account d.ns ((account d.ns).replay es)) e w where
  current := by
    rw [hns, Function.update_self]
    exact (hd.current.replay es).agrees hagrees
  stored ns hclean := by
    by_cases hsame : ns = d.ns
    · subst hsame
      obtain ⟨hclean', hsilent⟩ := hreports.2 (hclean hns.symm)
      rw [Function.update_self, Progress.replay_of_silent hsilent]
      exact hd.stored d.ns fun _ => hclean'
    · rw [Function.update_of_ne hsame]
      exact hd.stored ns fun heq => absurd heq hsame

/-- A flush that succeeds leaves no mark. -/
theorem dirty_flush (d : Director σ) (w : ω) (hyes : ((d.flush store).run w).1.1 = true) :
    ((d.flush store).run w).1.2.dirty = false := by
  rw [Director.flush] at hyes ⊢
  cases hdirty : d.dirty with
  | false => exact hdirty
  | true =>
      rw [hdirty] at hyes
      simp only [if_true, StateT.run_bind] at hyes ⊢
      generalize (store.save d.ns d.progress).run w = saved at hyes ⊢
      obtain ⟨answer | answer, w'⟩ := saved
      · cases hyes
      · rfl

/-- Saving is no change of what has been written. -/
theorem Holds.flush (hd : Holds record account d w) (hstore : store.Keeps sound record)
    (hw : sound w) :
    Holds record account ((d.flush store).run w).1.2 ((d.flush store).run w).2 := by
  obtain ⟨yes, f, w', hflush, -, hcases⟩ := flush_cases hstore hw d
  rw [hflush]
  rcases hcases with ⟨-, -, rfl, rfl⟩ | ⟨-, rfl, hrecord⟩ | ⟨-, -, rfl, hrecord⟩
  · exact hd
  · refine ⟨hd.current, fun ns _ => ?_⟩
    dsimp only
    rw [hrecord]
    by_cases hsame : ns = d.ns
    · subst hsame
      rw [Function.update_self]
      exact hd.current
    · rw [Function.update_of_ne hsame]
      exact hd.stored ns fun heq => absurd heq hsame
  · refine ⟨hd.current, fun ns hclean => ?_⟩
    dsimp only
    rw [hrecord]
    exact hd.stored ns hclean

/-- **A director without the mark may turn to any namespace.** -/
theorem Holds.load (hd : Holds record account d w) (hclean : d.dirty = false)
    (hstore : store.Keeps sound record) (hw : sound w) {ns : Namespace}
    {found : Option Progress} (hfound : ((store.load ns).run w).1 = .ok found) :
    Holds record account { d with progress := loaded ((store.load ns).run w).1, ns, dirty := false }
      ((store.load ns).run w).2 := by
  obtain ⟨-, hrecord, hanswer⟩ := hstore.load ns w hw
  have hstored : ∀ ns, Within (account ns) ((record w ns).getD .empty) :=
    fun ns => hd.stored ns fun _ => hclean
  refine ⟨?_, fun ns' _ => ?_⟩
  · dsimp only
    rw [hfound, hanswer found hfound]
    have hloaded : loaded (.ok (record w ns)) = (record w ns).getD .empty := by
      cases record w ns <;> rfl
    rw [hloaded]
    exact hstored ns
  · rw [hrecord]
    exact hstored ns'

/-- What is the same but for the game, the run and the log holds the same. -/
theorem Holds.congr (hd : Holds record account d w) (hprogress : e.progress = d.progress)
    (hns : e.ns = d.ns) (hdirty : e.dirty = d.dirty) : Holds record account e w := by
  obtain ⟨hcurrent, hstored⟩ := hd
  refine ⟨?_, ?_⟩
  · rw [hns, hprogress]
    exact hcurrent
  · rw [hns, hdirty]
    exact hstored

/-- Saving records nothing. -/
theorem logs_perform_flush {cue : Cue} (hcue : cue = .flush ∨ cue = .settle) (d : Director σ)
    (w : ω) : Logs d [] ((d.perform h store cue).run w).1.2 := by
  have hflush : ∀ f : Director σ, Logs f [] ((f.flush store).run w).1.2 := fun f => by
    obtain ⟨yes, dirty, w', heq⟩ := exists_flush store w f
    rw [heq]
    exact .nil rfl rfl
  rcases hcue with rfl | rfl
  · exact hflush d
  · obtain ⟨stage, run, heq⟩ := exists_resolve h d
    have hlogs := hflush (d.resolve h)
    rw [heq] at hlogs
    simp only [Director.perform, settle, StateT.run_bind, heq]
    exact hlogs.congr rfl rfl

/-- Turning to another namespace without the mark adds to the account what breaking off the scene
has recorded. -/
theorem Holds.perform_load (hd : Holds record account d w) (hclean : d.dirty = false)
    (hstore : store.Keeps sound record) (hw : sound w) {ns : Namespace}
    {found : Option Progress} (hfound : ((store.load ns).run w).1 = .ok found) :
    ∃ es, Logs d es ((d.perform h store (.load ns)).run w).1.2 ∧
      Holds record (Function.update account d.ns ((account d.ns).replay es))
        ((d.perform h store (.load ns)).run w).1.2 ((d.perform h store (.load ns)).run w).2 := by
  have hstop := breaksOff_stop (h := h) d
  obtain ⟨es, hreports⟩ := Reports.of_breaksOff hstop
  have hclean' : (d.stop h).2.dirty = false := hstop.dirty_eq.trans hclean
  have hsame : d.progress.replay es = (d.stop h).2.progress := by
    rw [Progress.replay_of_silent (hreports.2 hclean').2, hstop.progress_eq]
  have hstopped := hd.goesOn hstop.ns_eq hreports (hsame ▸ .refl _)
  rw [Director.perform_load]
  obtain ⟨hevents, hrecorded, hnumbered⟩ := hreports.1
  exact ⟨es, ⟨hevents, hrecorded, hnumbered⟩, hstopped.load hclean' hstore hw hfound⟩

/-- **What a director has been told, it accounts for.** Each cue adds what is recorded on it to the
account of the namespace, unless another namespace is loaded while there is a mark. -/
theorem Holds.perform (hd : Holds record account d w) (hstore : store.Keeps sound record)
    (hw : sound w) {cue : Cue} (htake : cue ≠ .takeEvents)
    (hload : ∀ ns, cue = .load ns →
      d.dirty = false ∧ ∃ found, ((store.load ns).run w).1 = .ok found) :
    ∃ es, Logs d es ((d.perform h store cue).run w).1.2 ∧
      Holds record (Function.update account d.ns ((account d.ns).replay es))
        ((d.perform h store cue).run w).1.2 ((d.perform h store cue).run w).2 := by
  by_cases hloads : ∃ ns, cue = .load ns
  · obtain ⟨ns, rfl⟩ := hloads
    obtain ⟨hclean, found, hfound⟩ := hload ns rfl
    exact hd.perform_load hclean hstore hw hfound
  by_cases hsave : cue = .flush ∨ cue = .settle
  · obtain ⟨f, hprogress, hns, hdirty, hperform⟩ :=
      exists_perform_flush h store d w d.stage hsave
    refine ⟨[], logs_perform_flush hsave d w, ?_⟩
    rw [show (account d.ns).replay [] = account d.ns from rfl, Function.update_eq_self, hperform]
    exact (hd.congr hprogress hns hdirty).flush hstore hw
  · have hnone : ∀ ns, cue ≠ .load ns := fun ns hns => hloads ⟨ns, hns⟩
    have hflush : cue ≠ .flush := fun hcue => hsave (.inl hcue)
    have hsettle : cue ≠ .settle := fun hcue => hsave (.inr hcue)
    have hmarks := (covers_marks h).perform store w d hnone hflush hsettle htake
    obtain ⟨es, hreports⟩ := (covers_reports h).perform store w d hnone hflush hsettle htake
    have hreplays : Replays (h.Still d.stage) d ((d.perform h store cue).run w).1.2 :=
      replays_perform d hnone htake w
    obtain ⟨fs, hlogs, -, hagrees⟩ := hreplays
    obtain rfl : fs = es := hlogs.unique hreports.1
    rw [store_eq_of_perform h store w d hnone hflush hsettle]
    exact ⟨fs, hlogs, hd.goesOn hmarks.ns_eq hreports (hagrees.mono False.elim)⟩

end Holds

/-! ### Histories -/

section History

variable {store : Store (StateM ω)} {sound : ω → Prop} {record : ω → Namespace → Option Progress}
  {d e : Director σ} {w w' : ω} {past : List (Episode σ)}

/-- **What has been written is held.** Induction on the history: each episode adds its events to
the account of the namespace that was current before it. -/
theorem History.holds_written (hist : History h store d w past e w')
    (hstore : store.Keeps sound record) (hw : sound w) (hloads : LoadsSucceed h store d w past)
    (hclean : ∀ ep ∈ past, ∀ ns, ep.cue = .load ns → ep.before.dirty = false) :
    Holds record (fun ns => written ns past) e w' := by
  induction hist with
  | nil => exact ⟨.empty _, fun _ _ => .empty _⟩
  | @snoc past e f w' w'' reply hist stage cue hp ih =>
      have hd : Holds record (fun ns => written ns past) { e with stage } w' :=
        (ih hloads.of_concat fun ep hep => hclean ep (List.mem_append_left _ hep)).congr rfl rfl rfl
      rw [written_concat]
      rcases news_cases ⟨{ e with stage }, cue, reply, f⟩ hp with
        ⟨-, -, hafter, hsame, hnews⟩ | ⟨htake, -, hlogs⟩
      · dsimp only at hafter
        rw [hnews, hafter, hsame]
        exact (Function.update_eq_self e.ns fun ns => written ns past).symm ▸ hd.congr rfl rfl rfl
      · obtain ⟨es, hlogs', hperform⟩ := hd.perform (h := h) hstore (hist.store_sound hstore hw)
          htake fun ns hcue => ⟨hclean _ List.mem_concat_self ns hcue,
            hloads past [] _ e w' ns rfl hist hcue⟩
        rw [hp] at hlogs' hperform
        rw [hlogs.unique hlogs']
        exact hperform

/-- **Nothing that was written is lost.** The store keeps one record for each namespace and may
refuse to save at any time, but no load fails. Whatever a director has been told, as long as it
bore no mark whenever it turned to another namespace: once a flush or settling succeeds, each
namespace has stored the last value of each flag and counter, and every completed scene, that was
written while it was the current one. -/
theorem History.stores_written {ep : Episode σ} (hist : History h store d w (past ++ [ep]) e w')
    (hstore : store.Keeps sound record) (hw : sound w)
    (hloads : LoadsSucceed h store d w (past ++ [ep]))
    (hclean : ∀ earlier ∈ past, ∀ ns, earlier.cue = .load ns → earlier.before.dirty = false)
    (hcue : ep.cue = .flush ∨ ep.cue = .settle) (hreply : ep.reply = .answer true)
    (ns : Namespace) :
    Within (written ns (past ++ [ep])) ((record w' ns).getD .empty) := by
  have hnone : ∀ ns, ep.cue ≠ .load ns := by
    intro ns heq
    rcases hcue with hcue | hcue <;> cases hcue.symm.trans heq
  have hholds := hist.holds_written hstore hw hloads fun earlier hearlier ns hload => by
    rcases List.mem_append.mp hearlier with hearlier | hearlier
    · exact hclean earlier hearlier ns hload
    · exact absurd (List.mem_singleton.mp hearlier ▸ hload) (hnone ns)
  refine hholds.stored ns fun _ => ?_
  obtain ⟨e₁, stage, w₁, -, hbefore, hp, rfl⟩ := hist.last
  obtain ⟨f, -, -, -, hperform⟩ := exists_perform_flush h store e₁ w₁ stage hcue
  rw [hbefore, hperform, hreply] at hp
  obtain ⟨hanswer, -⟩ := Prod.mk.inj hp
  obtain ⟨hyes, hafter⟩ := Prod.mk.inj hanswer
  rw [← hafter]
  exact dirty_flush f w₁ (Reply.answer.inj hyes)

end History

end Director

/-! ### Errands for two players -/

namespace Rehearsal

/-- Writes something for one player, fails to save it, and turns to another. -/
def detour : List Cue :=
  [.load ⟨"ada"⟩, .setFlag "met" true, .flush, .load ⟨"bob"⟩, .flush]

/-- Saves again before turning to the other player, and turns back in the end. -/
def rounds : List Cue :=
  [.load ⟨"ada"⟩, .setFlag "met" true, .flush, .flush, .load ⟨"bob"⟩, .setCounter "gold" 3,
    .settle, .load ⟨"ada"⟩, .setCounter "gold" 7]

/-- A director who has been on the rounds. -/
def courier : Director Notes :=
  ((newcomer.performAll stage Shelf.store rounds).run (.memory ∅ 1)).1.2

end Rehearsal

namespace Director

open Rehearsal

/-- Both players find what was written for them, the one who was turned back to all of it. -/
theorem stores_written_rounds :
    ∃ past e shelf, History Rehearsal.stage Shelf.store newcomer (.memory ∅ 1) past e shelf ∧
      past.map Episode.cue = rounds ++ [.flush] ∧
      (∀ ns, (written ns past).Within ((shelf.record ns).getD .empty)) ∧
      (written ⟨"ada"⟩ past).flags["met"]? = some true ∧
      (written ⟨"ada"⟩ past).counters["gold"]? = some 7 ∧
      (written ⟨"bob"⟩ past).counters["gold"]? = some 3 := by
  have hist : History Rehearsal.stage Shelf.store newcomer (.memory ∅ 1) _ _ _ :=
    history_episodes rounds newcomer (Shelf.memory ∅ 1)
  have hmemory : Shelf.IsMemory (.memory ∅ 1) := ⟨∅, 1, rfl⟩
  have hlast := hist.snoc courier.stage .flush rfl
  refine ⟨_, _, _, hlast, rfl, fun ns => ?_, rfl, rfl, rfl⟩
  refine History.stores_written hlast Shelf.keeps hmemory ?_ ?_ (.inl rfl) rfl ns
  · rintro earlier later ep e w' ns - hearlier -
    obtain ⟨records, refusals, rfl⟩ := hearlier.store_sound Shelf.keeps hmemory
    exact ⟨_, rfl⟩
  · intro ep hep ns hcue
    simp only [rounds, episodes, List.mem_cons, List.not_mem_nil, or_false] at hep
    rcases hep with rfl | rfl | rfl | rfl | rfl | rfl | rfl | rfl | rfl <;>
      first | rfl | cases hcue

/-- **What was written for the first player is lost**, though the last flush succeeds: the shelf
refused to save it once, and then the director turned to the second player. -/
theorem detour_drops_written :
    ∃ past e shelf, History Rehearsal.stage Shelf.store newcomer (.memory ∅ 1) past e shelf ∧
      past.map Episode.cue = detour ∧ past.getLast?.map Episode.reply = some (.answer true) ∧
      (written ⟨"ada"⟩ past).flags["met"]? = some true ∧
      shelf.record ⟨"ada"⟩ = none ∧
      ¬ (written ⟨"ada"⟩ past).Within ((shelf.record ⟨"ada"⟩).getD .empty) := by
  refine ⟨_, _, _, history_episodes detour newcomer (Shelf.memory ∅ 1), rfl, rfl, rfl, rfl, ?_⟩
  intro hwithin
  have hfound := hwithin.flags "met" true rfl
  exact absurd hfound (by decide)

end Director

end Cutscene
