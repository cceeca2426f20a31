import Cutscene.Proofs.Director.History
import Cutscene.Proofs.Director.Log
import Cutscene.Proofs.Run.Effects
import Cutscene.Proofs.Store.Records
import Cutscene.Rehearsal

/-!
# What Is Stored Is What Is Believed to Be Saved

A director marks its progress as unsaved whenever it changes it, and takes the mark back when a
store has taken the progress, or has given it. As long as every change leaves the mark, a director
without it has the progress that is stored under its namespace. A store may refuse to save whenever
it likes.

Nothing is asked of a store but that it keeps one record for each namespace (`Store.Keeps`): what
it takes, it gives back until it takes something else, and what it refuses leaves no trace.

## Main results

* `Director.covers_marks`: whatever a director does on its own, a change of progress leaves the
  mark.
* `Director.flush_cases`: what saving leads to.
* `Director.History.saved`: a director without the mark has what is stored, and after a successful
  flush another one can go on from there.
-/

namespace Cutscene

/-! ### Stores that keep records -/

/-- **A store that keeps one record for each namespace.** `record` tells which record that is in
each state of the store, of those that are `sound`. The store may refuse to save in any of them. -/
structure Store.Keeps {ω : Type} (store : Store (StateM ω)) (sound : ω → Prop)
    (record : ω → Namespace → Option Progress) : Prop where
  /-- Loading changes no record, and finds the record of the namespace unless it fails. -/
  load : ∀ (ns : Namespace) (w : ω), sound w → sound ((store.load ns).run w).2 ∧
    record ((store.load ns).run w).2 = record w ∧
    ∀ found, ((store.load ns).run w).1 = .ok found → found = record w ns
  /-- Saving replaces the record of the namespace, or fails and changes no record. -/
  save : ∀ (ns : Namespace) (p : Progress) (w : ω), sound w →
    sound ((store.save ns p).run w).2 ∧
    ((((store.save ns p).run w).1 = .ok () ∧
        record ((store.save ns p).run w).2 = Function.update (record w) ns (some p)) ∨
      ∃ fault, ((store.save ns p).run w).1 = .error fault ∧
        record ((store.save ns p).run w).2 = record w)

/-- Effects that report no write leave progress as it was. -/
theorem Progress.Tells.eq_of_silent {p q : Progress} {es : List Effect} (h : Tells p es q)
    (hsilent : ∀ e ∈ es, e.isChange = false) : q = p := by
  induction h with
  | nil => rfl
  | flag | counter => cases hsilent _ (List.mem_append_right _ List.mem_cons_self)
  | silent _ _ ih => exact ih fun e he => hsilent e (List.mem_append_left _ he)

namespace Director

variable {σ ω : Type} {h : Host σ}

/-! ### The mark -/

/-- A director that bears no mark afterwards bore none before, and has the same progress. -/
structure Marks (d e : Director σ) : Prop where
  ns_eq : e.ns = d.ns
  dirty_of_clean : e.dirty = false → d.dirty = false
  progress_of_clean : e.dirty = false → e.progress = d.progress

namespace Marks

variable {d e f : Director σ}

/-- A director whose progress and mark are as they were has nothing to account for. -/
theorem of_eq (hns : e.ns = d.ns) (hdirty : e.dirty = d.dirty)
    (hprogress : e.progress = d.progress) : Marks d e :=
  ⟨hns, fun hclean => hdirty ▸ hclean, fun _ => hprogress⟩

/-- A mark accounts for any change of progress. -/
theorem of_dirty (hns : e.ns = d.ns) (hdirty : e.dirty = true) : Marks d e :=
  ⟨hns, fun hclean => absurd (hdirty.symm.trans hclean) (by decide),
    fun hclean => absurd (hdirty.symm.trans hclean) (by decide)⟩

/-- Marks are kept by one deed after another, since no deed takes a mark back. -/
theorem trans (hde : Marks d e) (hef : Marks e f) : Marks d f :=
  ⟨hef.ns_eq.trans hde.ns_eq, fun hclean => hde.dirty_of_clean (hef.dirty_of_clean hclean),
    fun hclean => (hef.progress_of_clean hclean).trans
      (hde.progress_of_clean (hef.dirty_of_clean hclean))⟩

end Marks

/-- **Carrying out an effect leaves the mark if progress changes**, or has changed before. -/
theorem marks_carryOut (scene : String) (run : Uuid) (d : Director σ) (e : Effect) :
    Marks d (carryOut h scene run d e) ∧
      (e.isChange = true → (carryOut h scene run d e).dirty = true) := by
  cases e with
  | flagChanged | counterChanged => exact ⟨.of_dirty rfl rfl, fun _ => rfl⟩
  | dispatch | measure | present => exact ⟨.of_eq rfl rfl rfl, fun hchange => nomatch hchange⟩
  | ended ending =>
      refine ⟨?_, fun hchange => nomatch hchange⟩
      rw [carryOut]
      cases hreason : ending.reason with
      | completed =>
          rw [conclude_of_completed d scene run hreason]
          exact .of_dirty rfl rfl
      | interrupted =>
          rw [conclude_of_interrupted d scene run hreason]
          exact .of_eq rfl rfl rfl

/-- Carrying out effects one of which reports a write leaves the mark. Induction on the effects. -/
theorem marks_foldl_carryOut (scene : String) (run : Uuid) (es : List Effect) (d : Director σ) :
    Marks d (es.foldl (carryOut h scene run) d) ∧
      ((es.foldl (carryOut h scene run) d).dirty = false → ∀ e ∈ es, e.isChange = false) := by
  induction es generalizing d with
  | nil => exact ⟨.of_eq rfl rfl rfl, fun _ _ he => absurd he List.not_mem_nil⟩
  | cons e rest ih =>
      obtain ⟨hlater, hsilent⟩ := ih (carryOut h scene run d e)
      obtain ⟨hnow, hchange⟩ := marks_carryOut (h := h) scene run d e
      refine ⟨hnow.trans hlater, fun hclean f hf => ?_⟩
      rcases List.mem_cons.mp hf with rfl | hf
      · cases hwrite : f.isChange with
        | false => rfl
        | true => exact absurd (hlater.dirty_of_clean hclean) (by rw [hchange hwrite]; decide)
      · exact hsilent hclean f hf

/-- **Following a turn that tells what it writes leaves the mark if it writes anything.** -/
theorem marks_follow {d : Director σ} {q : Progress} {es : List Effect}
    (htells : Progress.Tells d.progress es q) (run : Run) : Marks d (d.follow h run q es) := by
  obtain ⟨hmarks, hsilent⟩ := marks_foldl_carryOut (h := h) run.scene.id run.id es
    { d with run := some run, progress := q }
  exact ⟨hmarks.ns_eq, hmarks.dirty_of_clean, fun hclean =>
    (hmarks.progress_of_clean hclean).trans (htells.eq_of_silent (hsilent hclean))⟩

/-- A director that bears the mark bears it after a turn. -/
theorem Marks.follow_of_dirty {d e : Director σ} (hns : e.ns = d.ns) (hdirty : e.dirty = true)
    (run : Run) (q : Progress) (es : List Effect) : Marks d (e.follow h run q es) := by
  obtain ⟨hmarks, -⟩ := marks_foldl_carryOut (h := h) run.scene.id run.id es
    { e with run := some run, progress := q }
  have hmarked : Marks d { e with run := some run, progress := q } := .of_dirty hns hdirty
  exact hmarked.trans hmarks

/-- **Whatever a director does on its own, a change of progress leaves the mark.** -/
theorem covers_marks (h : Host σ) : Covers h fun d _ e => Marks d e where
  refl _ := .of_eq rfl rfl rfl
  trans hde hef := hde.trans hef
  manage _ _ := .of_eq rfl rfl rfl
  withdraw _ := .of_eq rfl rfl rfl
  locate d ticket anchor := by
    obtain ⟨stage, run, heq, -⟩ := exists_locate h d ticket anchor
    rw [heq]
    exact .of_eq rfl rfl rfl
  setFlag d flag value := by
    rw [setFlag_eq]
    cases d.run.bind (·.notifyFlag? (d.progress.setFlag flag value)) with
    | none => exact .of_dirty rfl rfl
    | some turn => exact .follow_of_dirty (d := d) (e := d.writeFlag h flag value) rfl rfl _ _ _
  setCounter _ _ _ := .of_dirty rfl rfl
  interrupt _ _ := marks_follow (Run.tells_interrupt _ _) _
  answer _ hturn := marks_follow hturn.tells _
  debut {d} scene _ :=
    .follow_of_dirty (d := d) (e := d.announce h scene) rfl rfl _ _ _

/-! ### Saving -/

section Store

variable {store : Store (StateM ω)} {sound : ω → Prop}
  {record : ω → Namespace → Option Progress}

/-- **What saving leads to.** There may be nothing to save; the store may take the progress, or
refuse it. -/
theorem flush_cases (hstore : store.Keeps sound record) {w : ω} (hw : sound w)
    (d : Director σ) :
    ∃ yes f w', (d.flush store).run w = ((yes, f), w') ∧ sound w' ∧
      ((d.dirty = false ∧ yes = true ∧ f = d ∧ w' = w) ∨
        (yes = true ∧ f = { d with dirty := false } ∧
          record w' = Function.update (record w) d.ns (some d.progress)) ∨
        (d.dirty = true ∧ yes = false ∧ f = d ∧ record w' = record w)) := by
  rw [Director.flush]
  cases hdirty : d.dirty with
  | false => exact ⟨_, _, w, rfl, hw, .inl ⟨rfl, rfl, rfl, rfl⟩⟩
  | true =>
      obtain ⟨hsound, hsave⟩ := hstore.save d.ns d.progress w hw
      simp only [if_true, StateT.run_bind]
      generalize (store.save d.ns d.progress).run w = saved at hsound hsave
      obtain ⟨answer, w'⟩ := saved
      rcases hsave with ⟨rfl, hrecord⟩ | ⟨fault, rfl, hrecord⟩
      · exact ⟨_, _, w', rfl, hsound, .inr (.inl ⟨rfl, rfl, hrecord⟩)⟩
      · exact ⟨_, _, w', rfl, hsound, .inr (.inr ⟨trivial, rfl, rfl, hrecord⟩)⟩

/-- A director without the mark has the progress that is stored under its namespace. -/
def Saved (record : ω → Namespace → Option Progress) (d : Director σ) (w : ω) : Prop :=
  d.dirty = false → (record w d.ns).getD .empty = d.progress

/-- What leaves a mark whenever it changes progress keeps a director saved. -/
theorem Marks.keeps_saved {d e : Director σ} {w : ω} (hmarks : Marks d e) (hd : Saved record d w) :
    Saved record e w := fun hclean => by
  rw [hmarks.ns_eq, hmarks.progress_of_clean hclean]
  exact hd (hmarks.dirty_of_clean hclean)

/-- **What saving leads to, for a director that has what is stored unless it bears the mark.** It
keeps its progress, and no other record changes. If it succeeds, the mark is gone and what is stored
is the progress; if it does not, the mark and all records are as they were. -/
theorem exists_flush_of_saved (hstore : store.Keeps sound record) {d : Director σ} {w : ω}
    (hw : sound w) (hd : Saved record d w) :
    ∃ yes f w', (d.flush store).run w = ((yes, f), w') ∧ sound w' ∧
      f.progress = d.progress ∧ f.ns = d.ns ∧
      (∀ ns, ns ≠ d.ns → record w' ns = record w ns) ∧
      (yes = true → f.dirty = false ∧ (record w' d.ns).getD .empty = d.progress) ∧
      (yes = false → f.dirty = d.dirty ∧ record w' = record w) := by
  obtain ⟨yes, f, w', hflush, hw', hcases⟩ := flush_cases hstore hw d
  refine ⟨yes, f, w', hflush, hw', ?_⟩
  rcases hcases with ⟨hclean, rfl, rfl, rfl⟩ | ⟨rfl, rfl, hrecord⟩ | ⟨-, rfl, rfl, hrecord⟩
  · exact ⟨rfl, rfl, fun _ _ => rfl, fun _ => ⟨hclean, hd hclean⟩, (nomatch ·)⟩
  · refine ⟨rfl, rfl, fun ns hns => ?_, fun _ => ⟨rfl, ?_⟩, (nomatch ·)⟩
    · rw [hrecord, Function.update_of_ne hns]
    · rw [hrecord, Function.update_self, Option.getD_some]
  · exact ⟨rfl, rfl, fun ns _ => congrFun hrecord ns, (nomatch ·), fun _ => ⟨rfl, hrecord⟩⟩

/-- What has just been saved is what is stored. -/
theorem saved_flush (hstore : store.Keeps sound record) {d : Director σ} {w : ω} (hw : sound w)
    (hd : Saved record d w) :
    sound ((d.flush store).run w).2 ∧
      Saved record ((d.flush store).run w).1.2 ((d.flush store).run w).2 := by
  obtain ⟨yes, f, w', hflush, hw', hprogress, hns, -, hyes, hno⟩ :=
    exists_flush_of_saved hstore hw hd
  rw [hflush]
  refine ⟨hw', fun hclean => ?_⟩
  rw [hns, hprogress]
  cases yes with
  | true => exact (hyes rfl).2
  | false =>
      obtain ⟨hdirty, hrecord⟩ := hno rfl
      rw [hrecord]
      exact hd (hdirty.symm.trans hclean)

/-- What has just been loaded is what is stored. -/
theorem saved_load (hstore : store.Keeps sound record) (d : Director σ) {w : ω} (hw : sound w)
    {ns : Namespace} {found : Option Progress} (hfound : ((store.load ns).run w).1 = .ok found) :
    Saved record ((d.perform h store (.load ns)).run w).1.2
      ((d.perform h store (.load ns)).run w).2 := by
  obtain ⟨-, hrecord, hanswer⟩ := hstore.load ns w hw
  obtain rfl := hanswer found hfound
  intro _
  rw [perform_load]
  dsimp only
  rw [hrecord, hfound]
  cases record w ns <;> rfl

end Store

/-! ### Histories -/

section History

variable {store : Store (StateM ω)} {sound : ω → Prop}
  {record : ω → Namespace → Option Progress} {d e : Director σ} {w w' : ω}
  {past : List (Episode σ)}

variable (h store d w) in
/-- No load has failed in the course of some episodes. -/
def LoadsSucceed (past : List (Episode σ)) : Prop :=
  ∀ (earlier later : List (Episode σ)) (ep : Episode σ) (e : Director σ) (w' : ω) (ns : Namespace),
    past = earlier ++ ep :: later → History h store d w earlier e w' → ep.cue = .load ns →
    ∃ found, ((store.load ns).run w').1 = .ok found

/-- If no load has failed in the end, none had failed before the last episode. -/
theorem LoadsSucceed.of_concat {ep : Episode σ} (hloads : LoadsSucceed h store d w (past ++ [ep])) :
    LoadsSucceed h store d w past := by
  rintro earlier later ep' e w' ns rfl hist hcue
  exact hloads earlier (later ++ [ep]) ep' e w' ns (by rw [List.append_assoc]; rfl) hist hcue

/-- Whatever a director is told, its store remains sound. -/
theorem History.store_sound (hist : History h store d w past e w')
    (hstore : store.Keeps sound record) (hw : sound w) : sound w' := by
  refine hist.keeps (P := fun _ w => sound w) (covers_marks h) (fun _ hw => hw) (fun _ hw => hw)
    (fun {d w} hw => ?_) (fun hw => hw) (fun {d w} ns hw => ?_) hw
  · obtain ⟨yes, f, w', hflush, hw', -⟩ := flush_cases hstore hw d
    rw [hflush]
    exact hw'
  · rw [perform_load]
    exact (hstore.load ns w hw).1

/-- **A director that has loaded its progress has what is stored, unless it bears the mark.**
Induction on the history: loading and saving settle what is stored, and all else leaves the mark if
it changes progress. -/
theorem History.keeps_saved (hist : History h store d w past e w')
    (hstore : store.Keeps sound record) (hw : sound w)
    (hfirst : ∀ ep, past.head? = some ep → ∃ ns, ep.cue = .load ns)
    (hloads : LoadsSucceed h store d w past) (hne : past ≠ []) : Saved record e w' := by
  induction hist with
  | nil => exact absurd rfl hne
  | @snoc past e f w' w'' reply hist stage cue hp ih =>
      obtain rfl : (({ e with stage }.perform h store cue).run w').1.2 = f := by rw [hp]
      obtain rfl : (({ e with stage }.perform h store cue).run w').2 = w'' := by rw [hp]
      have hsound : sound w' := hist.store_sound hstore hw
      by_cases hload : ∃ ns, cue = .load ns
      · obtain ⟨ns, rfl⟩ := hload
        obtain ⟨found, hfound⟩ := hloads past [] _ e w' ns rfl hist rfl
        exact saved_load hstore { e with stage } hsound hfound
      · have hearlier : past ≠ [] := by
          rintro rfl
          exact hload (hfirst _ rfl)
        have hsaved : Saved record e w' := ih
          (fun ep hep => hfirst ep (by rw [List.head?_append, hep]; rfl)) hloads.of_concat hearlier
        exact (perform_keeps (P := fun d w => sound w ∧ Saved record d w) h store
          (covers_marks h) (fun hmarks hd => ⟨hd.1, hmarks.keeps_saved hd.2⟩)
          (fun hd => saved_flush hstore hd.1 hd.2) (fun hd => hd) (fun ns hns => hload ⟨ns, hns⟩)
          (d := { e with stage }) ⟨hsound, hsaved⟩).2

variable (h store e w') in
/-- What a flush leads to, or settling. The store is asked to save the same progress under the same
namespace. -/
theorem exists_perform_flush (stage : σ) {cue : Cue} (hcue : cue = .flush ∨ cue = .settle) :
    ∃ d : Director σ, d.progress = e.progress ∧ d.ns = e.ns ∧ d.dirty = e.dirty ∧
      ({ e with stage }.perform h store cue).run w' =
        ((.answer ((d.flush store).run w').1.1, ((d.flush store).run w').1.2),
          ((d.flush store).run w').2) := by
  rcases hcue with rfl | rfl
  · exact ⟨{ e with stage }, rfl, rfl, rfl, rfl⟩
  · obtain ⟨stage', run, heq⟩ := exists_resolve h { e with stage }
    refine ⟨({ e with stage } : Director σ).resolve h, ?_, ?_, ?_, rfl⟩ <;> rw [heq]

/-- **What is stored is what is believed to be saved.** The store keeps one record for each
namespace and may refuse to save at any time. Whatever a director has been told that loaded its
progress to begin with, as long as no load failed: without the mark it has the progress that is
stored under its namespace, where no record counts as nothing done. When it then flushes or
settles, no other record changes; if it succeeds, the mark is gone, what is stored is the progress,
and any director that loads the namespace has exactly this progress; if it does not, progress, the
mark and all records are as they were. -/
theorem History.saved (hist : History h store d w past e w') (hstore : store.Keeps sound record)
    (hw : sound w) (hfirst : ∃ ns, (past.head?).map Episode.cue = some (.load ns))
    (hloads : LoadsSucceed h store d w past) :
    (e.dirty = false → (record w' e.ns).getD .empty = e.progress) ∧
    ∀ (stage : σ) (cue : Cue), cue = .flush ∨ cue = .settle →
      ∃ yes f w'', ({ e with stage }.perform h store cue).run w' = ((.answer yes, f), w'') ∧
        f.progress = e.progress ∧ f.ns = e.ns ∧
        (∀ ns, ns ≠ e.ns → record w'' ns = record w' ns) ∧
        (yes = true → f.dirty = false ∧ (record w'' e.ns).getD .empty = e.progress ∧
          ∀ {τ : Type} (game : Host τ) (fresh : Director τ),
            (∃ found, ((store.load e.ns).run w'').1 = .ok found) →
            ((fresh.perform game store (.load e.ns)).run w'').1.2.progress = e.progress) ∧
        (yes = false → f.dirty = e.dirty ∧ record w'' = record w') := by
  obtain ⟨ns, hns⟩ := hfirst
  have hsound : sound w' := hist.store_sound hstore hw
  have hsaved : Saved record e w' := hist.keeps_saved hstore hw
    (fun ep hep => ⟨ns, by rw [hep] at hns; exact Option.some.inj hns⟩) hloads
    (by rintro rfl; cases hns)
  refine ⟨hsaved, fun stage cue hcue => ?_⟩
  -- Asking for places does not touch progress, so that settling saves what flushing does.
  obtain ⟨d, hprogress, hns, hdirty, hperform⟩ := exists_perform_flush h store e w' stage hcue
  have hsaved : Saved record d w' := by
    rw [Saved, hns, hprogress, hdirty]
    exact hsaved
  obtain ⟨yes, f, w'', hflush, hsound'', hfprogress, hfns, hothers, hyes, hno⟩ :=
    exists_flush_of_saved hstore hsound hsaved
  rw [hns, hprogress] at hyes
  rw [hns] at hothers
  rw [hdirty] at hno
  rw [hflush] at hperform
  refine ⟨yes, f, w'', hperform, hfprogress.trans hprogress, hfns.trans hns, hothers,
    fun hsuccess => ?_, hno⟩
  obtain ⟨hclean, hstored⟩ := hyes hsuccess
  refine ⟨hclean, hstored, fun game fresh ⟨found, hfound⟩ => ?_⟩
  have hloaded := saved_load (h := game) hstore fresh hsound'' hfound rfl
  rw [perform_load] at hloaded
  rw [perform_load, ← hstored, ← (hstore.load e.ns w'' hsound'').2.1]
  exact hloaded.symm

end History

end Director

/-! ### A memory that refuses -/

namespace Rehearsal.Shelf

/-- The shelf is a memory. -/
def IsMemory (shelf : Shelf) : Prop := ∃ records refusals, shelf = .memory records refusals

/-- The record of a namespace in memory. -/
def record : Shelf → Namespace → Option Progress
  | memory records _, ns => records[ns.key]?
  | recording .., _ | empty, _ | failing _, _ | disk .., _ => none

/-- **A memory that refuses so many records first keeps the others.** -/
theorem keeps : store.Keeps IsMemory record where
  load ns shelf hshelf := by
    obtain ⟨records, refusals, rfl⟩ := hshelf
    refine ⟨⟨records, refusals, rfl⟩, rfl, ?_⟩
    rintro found ⟨⟩
    rfl
  save ns p shelf hshelf := by
    obtain ⟨records, refusals, rfl⟩ := hshelf
    cases refusals with
    | zero =>
        exact ⟨⟨_, 0, rfl⟩, .inl ⟨rfl, Records.getElem?_insert records ns p⟩⟩
    | succ refusals => exact ⟨⟨records, refusals, rfl⟩, .inr ⟨_, rfl, rfl⟩⟩

end Rehearsal.Shelf

namespace Rehearsal

/-- Loads, writes a flag, and tries to save. -/
def errand : List Cue := [.load ⟨"ada"⟩, .setFlag "met" true, .flush]

/-- A director whose shelf has refused to save. -/
def messenger : Director Notes :=
  ((newcomer.performAll stage Shelf.store errand).run (.memory ∅ 1)).1.2

end Rehearsal

namespace Director

open Rehearsal

/-- The shelf has refused, and the mark has remained. At the second attempt it takes the progress,
and another director finds the flag. -/
theorem saved_errand :
    messenger.dirty = true ∧ ∃ f shelf,
      (messenger.perform Rehearsal.stage Shelf.store .flush).run (.memory ∅ 0) =
        ((.answer true, f), shelf) ∧
      f.dirty = false ∧ (shelf.record ⟨"ada"⟩).getD .empty = messenger.progress ∧
      ((newcomer.perform Rehearsal.stage Shelf.store (.load ⟨"ada"⟩)).run shelf).1.2.progress =
        messenger.progress ∧
      messenger.progress.flag "met" = true := by
  obtain ⟨past, hist, hcues, -⟩ :
      ∃ past, History Rehearsal.stage Shelf.store newcomer (.memory ∅ 1) past messenger
        (.memory ∅ 0) ∧ past.map Episode.cue = errand ∧ _ :=
    history_of_performAll errand newcomer (Shelf.memory ∅ 1)
  have hmemory : Shelf.IsMemory (.memory ∅ 1) := ⟨∅, 1, rfl⟩
  obtain ⟨-, hflush⟩ := History.saved hist Shelf.keeps hmemory
    ⟨⟨"ada"⟩, by rw [← List.head?_map, hcues]; rfl⟩ (by
      rintro earlier later ep e w' ns - hearlier -
      obtain ⟨records, refusals, rfl⟩ := hearlier.store_sound Shelf.keeps hmemory
      exact ⟨_, rfl⟩)
  obtain ⟨yes, f, shelf, hperform, -, -, -, hyes, -⟩ := hflush messenger.stage .flush (.inl rfl)
  have hanswer : yes = true := by cases hperform; rfl
  obtain ⟨hclean, hstored, hloaded⟩ := hyes hanswer
  subst hanswer
  exact ⟨rfl, f, shelf, hperform, hclean, hstored,
    hloaded Rehearsal.stage newcomer (by cases hperform; exact ⟨_, rfl⟩), rfl⟩

end Director

end Cutscene
