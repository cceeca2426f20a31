import Cutscene.Proofs.Director.Saving

/-!
# What Is Recorded Is Kept

A store that mirrors records never fails. A director that has loaded its progress from such a store,
and has just saved what there is to save, has all its progress stored. There may be no record only
as long as nothing has been recorded: the first event, whatever it is, comes with a change of
progress.

## Main results

* `Director.covers_opens`: the first event leaves the mark.
* `Director.Kept.perform`: whatever a director does, unless it loads, what it has saved is stored.
* `Director.Kept.flush`, `Director.Kept.settle`: after saving nothing is left to be saved.
-/

namespace Cutscene

namespace Director

variable {σ ω : Type} {h : Host σ}

/-! ### The first event -/

/-- Changes of progress leave the mark, and so does whatever is recorded while no run has started,
or a run that starts. -/
structure Opens (d e : Director σ) : Prop where
  marks : Marks d e
  of_clean : d.run = none → e.dirty = false → e.run = none ∧ e.recorded = d.recorded

namespace Opens

variable {d e f : Director σ}

/-- Nothing is recorded, and no run starts. -/
theorem silent (hmarks : Marks d e) (hrun : d.run = none → e.run = none)
    (hrecorded : e.recorded = d.recorded) : Opens d e :=
  ⟨hmarks, fun hnone _ => ⟨hrun hnone, hrecorded⟩⟩

/-- There is a mark. -/
theorem of_dirty (hmarks : Marks d e) (hdirty : e.dirty = true) : Opens d e :=
  ⟨hmarks, fun _ hclean => absurd (hdirty.symm.trans hclean) (by decide)⟩

/-- A run has started before. -/
theorem of_run {run : Run} (hmarks : Marks d e) (hrun : d.run = some run) : Opens d e :=
  ⟨hmarks, fun hnone => absurd (hrun.symm.trans hnone) (Option.some_ne_none run)⟩

/-- The first event leaves the mark, whichever deed it belongs to. -/
theorem trans (hde : Opens d e) (hef : Opens e f) : Opens d f := by
  refine ⟨hde.marks.trans hef.marks, fun hnone hclean => ?_⟩
  obtain ⟨hnone', hrecorded⟩ := hde.of_clean hnone (hef.marks.dirty_of_clean hclean)
  obtain ⟨hnone'', hrecorded'⟩ := hef.of_clean hnone' hclean
  exact ⟨hnone'', hrecorded'.trans hrecorded⟩

end Opens

/-- A mark remains when a turn is followed. -/
theorem dirty_follow {d : Director σ} (hdirty : d.dirty = true) (run : Run) (q : Progress)
    (es : List Effect) : (d.follow h run q es).dirty = true := by
  obtain ⟨hmarks, -⟩ := marks_foldl_carryOut (h := h) run.scene.id run.id es
    { d with run := some run, progress := q }
  cases hclean : (d.follow h run q es).dirty with
  | true => rfl
  | false => exact absurd (hdirty.symm.trans (hmarks.dirty_of_clean hclean)) (by decide)

/-- **The first event leaves the mark**, whatever a director does on its own. -/
theorem covers_opens (h : Host σ) : Covers h fun d _ e => Opens d e where
  refl d := .silent ((covers_marks h).refl d) (fun hnone => hnone) rfl
  trans hde hef := hde.trans hef
  manage d roster := .silent ((covers_marks h).manage d roster) (fun hnone => hnone) rfl
  withdraw d := .silent ((covers_marks h).withdraw d) (fun hnone => hnone) rfl
  locate d ticket anchor := by
    have hmarks := (covers_marks h).locate d ticket anchor
    obtain ⟨stage, run, heq, hrun⟩ := exists_locate h d ticket anchor
    refine .silent hmarks (fun hnone => ?_) (by rw [heq])
    rw [heq]
    rcases hrun with hsame | ⟨run', rect, hsome, -⟩
    · exact hsame.trans hnone
    · exact absurd (hsome.symm.trans hnone) (Option.some_ne_none run')
  setFlag d flag value := by
    refine .of_dirty ((covers_marks h).setFlag d flag value) ?_
    rw [setFlag_eq]
    cases d.run.bind (·.notifyFlag? (d.progress.setFlag flag value)) with
    | none => rfl
    | some turn => exact dirty_follow rfl _ _ _
  setCounter d counter value := .of_dirty ((covers_marks h).setCounter d counter value) rfl
  interrupt hrun hactive := .of_run ((covers_marks h).interrupt hrun hactive) hrun
  answer hrun hanswers := .of_run ((covers_marks h).answer hrun hanswers) hrun
  debut scene hidle := .of_dirty ((covers_marks h).debut scene hidle) (dirty_follow rfl _ _ _)

/-! ### A store that never fails -/

section Store

variable {store : Store (StateM ω)} {fits : Namespace → Prop}
  {mirrors : ω → (Namespace → Option Progress) → Prop} {ns : Namespace} {d e : Director σ}
  {w : ω}

/-- **Without the mark, all progress is stored** under the namespace, except that there may be no
record as long as nothing has been recorded. -/
structure Kept (mirrors : ω → (Namespace → Option Progress) → Prop) (ns : Namespace)
    (d : Director σ) (w : ω) : Prop where
  ns_eq : d.ns = ns
  exists_records : ∃ records, mirrors w records ∧ (d.dirty = false →
    records ns = some d.progress ∨
      (d.run = none ∧ d.recorded = 0 ∧ (records ns).getD .empty = d.progress))

/-- What opens a log with the mark leaves progress kept. -/
theorem Opens.kept (hopens : Opens d e) (hd : Kept mirrors ns d w) : Kept mirrors ns e w := by
  obtain ⟨hns, records, hrecords, hkept⟩ := hd
  refine ⟨hopens.marks.ns_eq.trans hns, records, hrecords, fun hclean => ?_⟩
  have hprogress := hopens.marks.progress_of_clean hclean
  rcases hkept (hopens.marks.dirty_of_clean hclean) with hstored | ⟨hnone, hrecorded, hstored⟩
  · exact .inl (hstored.trans (congrArg some hprogress.symm))
  · obtain ⟨hnone', hsame⟩ := hopens.of_clean hnone hclean
    exact .inr ⟨hnone', hsame.trans hrecorded, hstored.trans hprogress.symm⟩

namespace Kept

/-- **After saving nothing is left to be saved.** -/
theorem flush (hd : Kept mirrors ns d w) (hstore : store.Mirrors fits mirrors) (hfits : fits ns) :
    Kept mirrors ns ((d.flush store).run w).1.2 ((d.flush store).run w).2 ∧
      ((d.flush store).run w).1.2.dirty = false := by
  obtain ⟨hns, records, hrecords, hkept⟩ := hd
  cases hdirty : d.dirty with
  | false =>
      rw [Director.flush, hdirty]
      exact ⟨⟨hns, records, hrecords, hkept⟩, hdirty⟩
  | true =>
      obtain ⟨hanswer, hmirrors⟩ := hstore.save d.progress hfits hrecords
      have hflush : (d.flush store).run w =
          ((true, { d with dirty := false }), ((store.save ns d.progress).run w).2) := by
        rw [Director.flush, hdirty, if_pos rfl, StateT.run_bind, hns]
        generalize (store.save ns d.progress).run w = saved at hanswer
        obtain ⟨answer, w'⟩ := saved
        obtain rfl : answer = .ok () := hanswer
        rfl
      rw [hflush]
      exact ⟨⟨hns, _, hmirrors, fun _ => .inl (Function.update_self ..)⟩, rfl⟩

/-- After settling nothing is left to be saved. -/
theorem settle (hd : Kept mirrors ns d w) (hstore : store.Mirrors fits mirrors) (hfits : fits ns) :
    Kept mirrors ns ((d.settle h store).run w).1.2 ((d.settle h store).run w).2 ∧
      ((d.settle h store).run w).1.2.dirty = false :=
  (((covers_opens h).resolve d).kept hd).flush hstore hfits

/-- **Whatever a director does, unless it loads, what it has saved is stored.** -/
theorem perform (hd : Kept mirrors ns d w) (hstore : store.Mirrors fits mirrors) (hfits : fits ns)
    {cue : Cue} (hload : ∀ ns, cue ≠ .load ns) :
    Kept mirrors ns ((d.perform h store cue).run w).1.2 ((d.perform h store cue).run w).2 :=
  perform_keeps (P := Kept mirrors ns) h store (covers_opens h) (fun hopens hd => hopens.kept hd)
    (fun hd => (hd.flush hstore hfits).1) (fun hd => ⟨hd.ns_eq, hd.exists_records⟩) hload hd

/-- Nothing has been recorded, or all progress is stored. -/
theorem load_eq (hd : Kept mirrors ns d w) (hstore : store.Mirrors fits mirrors) (hfits : fits ns)
    (hclean : d.dirty = false) : ∃ found, ((store.load ns).run w).1 = .ok found ∧
      found.getD .empty = d.progress ∧ (d.recorded ≠ 0 → found = some d.progress) := by
  obtain ⟨-, records, hrecords, hkept⟩ := hd
  obtain ⟨hanswer, -⟩ := hstore.load hfits hrecords
  refine ⟨records ns, hanswer, ?_⟩
  rcases hkept hclean with hstored | ⟨-, hrecorded, hstored⟩
  · rw [hstored]
    exact ⟨rfl, fun _ => rfl⟩
  · exact ⟨hstored, fun hne => absurd hrecorded hne⟩

end Kept

end Store

end Director

end Cutscene
