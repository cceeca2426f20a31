import Cutscene.Proofs.Run.Operations
import Cutscene.Proofs.Run.Snapshot
import Cutscene.Proofs.Run.Tickets
import Mathlib.Data.List.Chain

/-!
# What Is Shown of a Run

A run keeps a copy of the last snapshot that it has handed over, and hands one over only if it
looks different from the copy. While steps are executed the snapshot runs ahead of the copy; at the
end of every operation the two look the same again.

* `Run.Hands last r es`: since the copy was `last`, the snapshots among the effects `es` are what
  has been handed over, each unlike the one before, and the copy is the last of them.
* `Run.InStep r`: the copy looks like the snapshot. A run that has not advanced has no copy.

Looking the same is reflexive only among legible snapshots, so places have to be numeric here.

## Main results

* `Run.Lasting.hands`: the strokes of a running run hand over no snapshot twice in a row.
* `Run.InStep.operate`: every operation leaves the run in step.
* `Run.InStep.snapshots_operate`: an operation after which the run looks as before hands nothing
  over.
* `Run.shows_operateAll`: all of this over any sequence of operations.
-/

namespace Cutscene

/-- The snapshot that an effect hands over. -/
def Effect.snapshot? : Effect → Option Snapshot
  | present s => some s
  | flagChanged .. | counterChanged .. | dispatch _ | measure .. | ended _ => none

/-- The snapshots that are handed over among some effects. -/
def snapshots (es : List Effect) : List Snapshot := es.filterMap Effect.snapshot?

/-- Of two rows of effects the snapshots are handed over one row after the other. -/
@[simp] theorem snapshots_append (es fs : List Effect) :
    snapshots (es ++ fs) = snapshots es ++ snapshots fs :=
  List.filterMap_append

/-- Each snapshot looks different from the one before. -/
def Differing (ss : List Snapshot) : Prop := ss.IsChain fun s t => s.looksLike t = false

/-- One more snapshot may follow if it looks different from the last. -/
theorem Differing.concat {ss : List Snapshot} (h : Differing ss) {t : Snapshot}
    (ht : ∀ s, ss.getLast? = some s → s.looksLike t = false) : Differing (ss ++ [t]) := by
  refine List.isChain_append.mpr ⟨h, List.isChain_singleton t, fun s hs u hu => ?_⟩
  rw [List.head?_cons, Option.mem_some_iff] at hu
  rw [← hu]
  exact ht s hs

/-- What differs from the last of them on goes on differing. -/
theorem Differing.append {ss ts : List Snapshot} (h : Differing ss)
    (hts : Differing (ss.getLast?.toList ++ ts)) : Differing (ss ++ ts) := by
  obtain ⟨-, htail, hjoint⟩ := List.isChain_append.mp hts
  refine List.isChain_append.mpr ⟨h, htail, fun s hs t ht => hjoint s ?_ t ht⟩
  rw [Option.mem_def.mp hs]
  rfl

/-- What is last behind the last of some snapshots is last behind all of them. -/
theorem getLast?_toList_append (ss ts : List Snapshot) :
    (ss.getLast?.toList ++ ts).getLast? = (ss ++ ts).getLast? := by
  rw [List.getLast?_append, List.getLast?_append]
  cases ss.getLast? <;> rfl

namespace Run

variable {last : Option Snapshot} {r : Run} {es : List Effect}

/-! ### Handing over -/

/-- Since the last snapshot was `last`, those among the effects have been handed over. -/
structure Hands (last : Option Snapshot) (r : Run) (es : List Effect) : Prop where
  presented_eq : r.presented = (last.toList ++ snapshots es).getLast?
  differing : Differing (last.toList ++ snapshots es)
  /-- They all are of this run. -/
  run_eq_of_mem : ∀ s ∈ snapshots es, s.run = some r.id
  run_eq : r.snapshot.run = some r.id
  legible : r.snapshot.Legible

/-- Nothing has been handed over yet. -/
theorem hands_nil (hrun : r.snapshot.run = some r.id) (hlegible : r.snapshot.Legible) :
    Hands r.presented r [] := by
  refine ⟨?_, ?_, fun s hs => absurd hs List.not_mem_nil, hrun, hlegible⟩
  · cases r.presented <;> rfl
  · cases r.presented with
    | none => exact .nil
    | some s => exact List.isChain_singleton s

/-- What hands nothing over. -/
theorem Hands.quiet (h : Hands last r es) {r' : Run} {more : List Effect}
    (hpresented : r'.presented = r.presented) (hmore : snapshots more = []) (hid : r'.id = r.id)
    (hrun : r'.snapshot.run = some r.id) (hlegible : r'.snapshot.Legible) :
    Hands last r' (es ++ more) := by
  have heq : snapshots (es ++ more) = snapshots es := by
    rw [snapshots_append, hmore, List.append_nil]
  refine ⟨?_, ?_, ?_, by rw [hid]; exact hrun, hlegible⟩
  · rw [hpresented, heq]
    exact h.presented_eq
  · rw [heq]
    exact h.differing
  · rw [heq, hid]
    exact h.run_eq_of_mem

/-- Presenting hands over the snapshot, unless it looks like the copy. -/
theorem Hands.present (h : Hands last r es) : Hands last r.present.1 (es ++ r.present.2) := by
  rcases r.present_cases with ⟨s, -, -, heq⟩ | ⟨hdiffers, heq⟩
  · rw [heq]
    exact h.quiet rfl rfl rfl h.run_eq h.legible
  · rw [heq]
    have hall : last.toList ++ snapshots (es ++ [.present r.view]) =
        (last.toList ++ snapshots es) ++ [r.view] := by
      rw [snapshots_append, List.append_assoc]
      rfl
    refine ⟨?_, ?_, fun s hs => ?_, h.run_eq, h.legible⟩
    · rw [hall, List.getLast?_concat]
    · rw [hall]
      exact h.differing.concat fun s hs => hdiffers s (h.presented_eq.trans hs)
    · rw [snapshots_append] at hs
      rcases List.mem_append.mp hs with hs | hs
      · exact h.run_eq_of_mem s hs
      · rw [List.mem_singleton.mp hs]
        exact h.run_eq

/-- Ending hands nothing over by itself. -/
theorem Hands.finish (h : Hands last r es) (p : Progress) (reason : EndReason)
    (diagnostic : Option Diagnostic) :
    Hands last (r.finish p reason diagnostic).1 (es ++ (r.finish p reason diagnostic).2) :=
  h.quiet rfl rfl rfl rfl (Snapshot.legible_of_highlight_eq_none rfl)

/-- Nor does going on. -/
theorem Hands.follow (h : Hands last r es) (p : Progress) (flow : Flow) :
    Hands last (r.follow p flow).1 (es ++ (r.follow p flow).2) := by
  rcases follow_cases r p flow with
    ⟨state, -, heq⟩ | ⟨-, ⟨index, -, heq⟩ | ⟨reason, diagnostic, heq⟩⟩
  · rw [heq]; exact h.quiet rfl rfl rfl h.run_eq h.legible
  · rw [heq]; exact h.quiet rfl rfl rfl h.run_eq h.legible
  · rw [heq]; exact h.finish p reason diagnostic

/-- Nor does executing a step. -/
theorem snapshots_execute (r : Run) (p : Progress) (s : Step) :
    snapshots (r.execute p s).effects = [] := by
  cases s with
  | choice prompt options => rw [execute]; split <;> rfl
  | _ => rfl

/-- A step does not change which run the snapshot is of. -/
theorem snapshot_run_execute (r : Run) (p : Progress) (s : Step) :
    (r.execute p s).run.snapshot.run = r.snapshot.run := by
  cases s with
  | choice prompt options => rw [execute]; split <;> rfl
  | _ => rfl

/-- A highlight that has just been put up has no place yet. -/
theorem legible_execute (h : r.snapshot.Legible) (p : Progress) (s : Step) :
    (r.execute p s).run.snapshot.Legible := by
  cases s with
  | choice prompt options => rw [execute]; split <;> exact h
  | highlight anchor maskInput =>
      rintro shown ⟨⟩ rect ⟨⟩
  | clearHighlight => exact Snapshot.legible_of_highlight_eq_none rfl
  | _ => exact h

/-- What has been handed over remains as it is while a step is executed. -/
theorem Hands.execute (h : Hands last r es) (p : Progress) (s : Step) :
    Hands last (r.execute p s).run (es ++ (r.execute p s).effects) := by
  refine h.quiet (presented_execute r p s) (snapshots_execute r p s) (id_execute r p s) ?_
    (legible_execute h.legible p s)
  rw [snapshot_run_execute]
  exact h.run_eq

/-- **The strokes of a running run hand over no snapshot twice in a row.** -/
theorem Lasting.hands (last : Option Snapshot) : Lasting fun r _ es => Hands last r es where
  execute {r p es s} _ _ h := by
    have hsilent : Hands last { r with snapshot.sound := none } es :=
      ⟨h.presented_eq, h.differing, h.run_eq_of_mem, h.run_eq, h.legible⟩
    exact (hsilent.execute p s).follow _ _
  finish reason diagnostic _ _ h := h.finish _ reason diagnostic
  present h := h.present

/-! ### Operations -/

/-- Writing the flags of an option hands nothing over. -/
theorem snapshots_writeFlags (p : Progress) (flags : NameMap Bool) :
    snapshots (writeFlags p flags).2 = [] := by
  refine writeFlags_induction (P := fun _ es => snapshots es = []) rfl
    fun q es name value h => ?_
  rw [snapshots_append, h]
  rfl

/-- Preparing a run to go on hands nothing over. -/
theorem Hands.resumes (h : Hands last r es) {r' : Run} {p p' : Progress} {more : List Effect}
    (hr : r.Resumes p r' p' more) : Hands last r' (es ++ more) := by
  cases hr with
  | @choice prompt options option =>
      have hleft : Hands last { r with snapshot.choice := none }.resume
          (es ++ (writeFlags p option.setFlags).2) :=
        h.quiet rfl (snapshots_writeFlags _ _) rfl h.run_eq h.legible
      rw [← List.append_assoc]
      exact hleft.follow _ _
  | highlight =>
      exact h.quiet rfl rfl rfl h.run_eq (Snapshot.legible_of_highlight_eq_none rfl)
  | line | timer | flag => exact h.quiet rfl rfl rfl h.run_eq h.legible

/-- Advancing hands over no snapshot twice in a row. -/
theorem Hands.advance (h : Hands last r es) (p : Progress) :
    Hands last (r.advance p).run (es ++ (r.advance p).effects) :=
  (Lasting.hands last).advance es h

/-- Nor does an answer. -/
theorem Hands.answers (h : Hands last r es) {p : Progress} {turn : Turn}
    (hturn : r.Answers p turn) : Hands last turn.run (es ++ turn.effects) := by
  obtain ⟨r', p', more, hr, rfl⟩ := hturn.exists_resumes
  have hdone := (h.resumes hr).advance p'
  rw [List.append_assoc] at hdone
  exact hdone

/-- Nor does breaking off. -/
theorem Hands.interrupt (h : Hands last r es) (p : Progress) :
    Hands last (r.interrupt p).1 (es ++ (r.interrupt p).2) := by
  rw [Run.interrupt]
  split
  · have hdone := (h.finish p .interrupted none).present
    rw [List.append_assoc] at hdone
    exact hdone
  · rw [List.append_nil]
    exact h

/-- A snapshot stays legible if the place that is put into it is numeric. -/
theorem legible_locate {highlight : Highlight} {rect : Option Rect}
    (hrect : ∀ place, rect = some place → place.IsNumeric) :
    (r.locate highlight rect).snapshot.Legible := by
  rintro shown ⟨⟩
  exact hrect

/-- Noting a place hands over no snapshot twice in a row. -/
theorem Hands.applyGeometry (h : Hands last r es) (ticket : Ticket) {rect : Option Rect}
    (hrect : ∀ place, rect = some place → place.IsNumeric) :
    Hands last (r.applyGeometry ticket rect).1
      (es ++ ((r.applyGeometry ticket rect).2.map Effect.present).toList) := by
  rcases r.applyGeometry_cases ticket rect with heq | ⟨highlight, -, -, hrun, heffects⟩
  · rw [heq, Option.map_none, Option.toList_none, List.append_nil]
    exact h
  · rw [hrun, heffects]
    have hlocated : Hands last (r.locate highlight rect) es :=
      ⟨h.presented_eq, h.differing, h.run_eq_of_mem, h.run_eq, legible_locate hrect⟩
    exact hlocated.present

/-! ### In step -/

/-- What has been handed over last looks like what there is to see. -/
structure InStep (r : Run) : Prop where
  /-- A run hands its snapshot over when it advances for the first time. -/
  presented_eq_none_iff : r.presented = none ↔ r.state = .running
  looksLike : ∀ s, r.presented = some s → s.looksLike r.snapshot = true
  state_eq : r.snapshot.state = r.state
  run_eq : r.snapshot.run = some r.id
  legible : r.snapshot.Legible
  /-- A run that has not advanced shows no highlight. -/
  highlight_eq_none : r.state = .running → r.snapshot.highlight = none

/-- A run that has not advanced is in step. -/
theorem inStep_start (id : Uuid) (scene : Scene) (p : Progress) : (start id scene p).InStep where
  presented_eq_none_iff := ⟨fun _ => rfl, fun _ => rfl⟩
  looksLike := by rintro s ⟨⟩
  state_eq := rfl
  run_eq := rfl
  legible := Snapshot.legible_of_highlight_eq_none rfl
  highlight_eq_none _ := rfl

/-- Once the snapshot has been presented, the run is in step. -/
theorem inStep_present (hstate : r.state ≠ .running) (hrun : r.snapshot.run = some r.id)
    (hlegible : r.snapshot.Legible) : r.present.1.InStep := by
  rcases r.present_cases with ⟨s, hs, hlooks, heq⟩ | ⟨-, heq⟩
  · rw [heq]
    refine ⟨?_, ?_, rfl, hrun, hlegible, fun hrunning => absurd hrunning hstate⟩
    · dsimp only
      rw [hs]
      exact ⟨fun h => (by cases h), fun h => absurd h hstate⟩
    · intro t ht
      dsimp only at ht ⊢
      rw [hs, Option.some.injEq] at ht
      rw [← ht]
      exact hlooks
  · rw [heq]
    refine ⟨⟨fun h => (by cases h), fun h => absurd h hstate⟩, ?_, rfl, hrun, hlegible,
      fun hrunning => absurd hrunning hstate⟩
    rintro t ⟨⟩
    exact Snapshot.looksLike_self hlegible

/-- After advancing a run is in step, whatever it was before. -/
theorem Hands.inStep_advance (h : Hands last r es) (p : Progress) : (r.advance p).run.InStep := by
  have hloop := (Lasting.hands last).loop budget h (p := p)
  exact inStep_present (state_loop_ne_running budget r p) hloop.run_eq hloop.legible

namespace InStep

variable (h : r.InStep)
include h

/-- A run in step has nothing to hand over. -/
theorem hands : Hands r.presented r [] := hands_nil h.run_eq h.legible

/-- A run that has advanced has handed something over. -/
theorem exists_presented (hstate : r.state ≠ .running) :
    ∃ s, r.presented = some s ∧ s.looksLike r.snapshot = true := by
  cases hs : r.presented with
  | none => exact absurd (h.presented_eq_none_iff.mp hs) hstate
  | some s => exact ⟨s, rfl, h.looksLike s hs⟩

/-- What has been handed over is not handed over again. -/
theorem present_eq (hstate : r.state ≠ .running) : r.present = (r, []) := by
  obtain ⟨s, hs, hlooks⟩ := h.exists_presented hstate
  exact present_eq_self hs hlooks h.state_eq

/-- A run in step is in step after it has advanced. -/
theorem advance (p : Progress) : (r.advance p).run.InStep := h.hands.inStep_advance p

/-- It is in step after an answer. -/
theorem answers {p : Progress} {turn : Turn} (hturn : r.Answers p turn) : turn.run.InStep := by
  obtain ⟨r', p', more, hr, rfl⟩ := hturn.exists_resumes
  exact (h.hands.resumes hr).inStep_advance p'

/-- It is in step after it has been broken off. -/
theorem interrupt (p : Progress) : (r.interrupt p).1.InStep := by
  rw [Run.interrupt]
  split
  · exact inStep_present (r := (r.finish p .interrupted none).1) (by rintro ⟨⟩) rfl
      (Snapshot.legible_of_highlight_eq_none rfl)
  · exact h

/-- It is in step after a place has been noted, as long as the place is numeric. -/
theorem applyGeometry (ticket : Ticket) {rect : Option Rect}
    (hrect : ∀ place, rect = some place → place.IsNumeric) :
    (r.applyGeometry ticket rect).1.InStep := by
  rcases r.applyGeometry_cases ticket rect with heq | ⟨highlight, hshown, -, hrun, -⟩
  · rw [heq]
    exact h
  · rw [hrun]
    refine inStep_present (r := r.locate highlight rect) (fun hstate => ?_) h.run_eq
      (legible_locate hrect)
    rw [h.highlight_eq_none hstate] at hshown
    cases hshown

/-! ### What changes nothing visible -/

/-- A run that waits or has ended does not advance. -/
theorem advance_eq (hstate : r.state ≠ .running) (p : Progress) :
    r.advance p = { run := r, progress := p } :=
  advance_eq_self hstate (h.present_eq hstate) p

/-- Where advancing changes nothing visible, it does nothing. -/
theorem effects_advance {p : Progress}
    (hsame : r.snapshot.looksLike (r.advance p).run.snapshot = true) :
    (r.advance p).effects = [] := by
  have hstate : r.state ≠ .running := by
    rw [← h.state_eq, Snapshot.state_eq_of_looksLike hsame, (h.advance p).state_eq]
    exact state_advance_ne_running r p
  rw [h.advance_eq hstate]

/-- An active run that is broken off looks different. -/
theorem not_looksLike_interrupt (hactive : r.state.isActive = true) (p : Progress) :
    r.snapshot.looksLike (r.interrupt p).1.snapshot = false := by
  refine Bool.eq_false_iff.mpr fun hsame => ?_
  have hstate := Snapshot.state_eq_of_looksLike hsame
  rw [h.state_eq, (h.interrupt p).state_eq, Run.interrupt, if_pos hactive] at hstate
  rw [hstate, state_present] at hactive
  cases hactive

/-- A place that looks as before is not handed over. -/
theorem applyGeometry_eq_none {ticket : Ticket} {rect : Option Rect}
    (hsame : r.snapshot.looksLike (r.applyGeometry ticket rect).1.snapshot = true) :
    ((r.applyGeometry ticket rect).2.map Effect.present).toList = [] := by
  rcases r.applyGeometry_cases ticket rect with heq | ⟨highlight, hshown, -, hrun, heffects⟩
  · rw [heq]
    rfl
  · have hstate : r.state ≠ .running := fun hstate => by
      rw [h.highlight_eq_none hstate] at hshown
      cases hshown
    obtain ⟨s, hs, hlooks⟩ := h.exists_presented hstate
    rw [hrun] at hsame
    rw [heffects]
    rcases (r.locate highlight rect).present_cases with ⟨-, -, -, heq⟩ | ⟨hdiffers, heq⟩
    · rw [heq]
    · -- The copy looks like what there was to see, and so like what there is to see.
      rw [heq] at hsame
      have hcopy := Snapshot.looksLike_trans hlooks hsame
      dsimp only at hcopy
      rw [hdiffers s hs] at hcopy
      cases hcopy

end InStep

/-- A run that has been answered waits under another ticket, and so looks different. -/
theorem Coherent.not_looksLike_answers (h : r.Coherent) (hcounts : r.Counts) {p : Progress}
    {turn : Turn} (hturn : r.Answers p turn) :
    r.snapshot.looksLike turn.run.snapshot = false := by
  refine Bool.eq_false_iff.mpr fun hsame => ?_
  have hsome : r.snapshot.ticket.isSome := h.isSome_ticket_iff.mpr hturn.isWaiting
  obtain ⟨t, ht⟩ := Option.isSome_iff_exists.mp hsome
  refine hcounts.ticket?_ne hturn ht ?_
  rw [← ht]
  exact (Snapshot.ticket_eq_of_looksLike hsame).symm

/-- Putting the place in again that is there changes nothing. -/
theorem locate_eq_self {highlight : Highlight} (hshown : r.snapshot.highlight = some highlight) :
    r.locate highlight highlight.rect = r := by
  rw [locate, ← hshown]

/-- The same place, noted again, is not handed over again. -/
theorem InStep.applyGeometry_again (h : r.InStep) (ticket : Ticket) {rect : Option Rect}
    (hrect : ∀ place, rect = some place → place.IsNumeric) :
    ((r.applyGeometry ticket rect).1.applyGeometry ticket rect).2 = none := by
  rcases r.applyGeometry_cases ticket rect with heq | ⟨highlight, hshown, -, hrun, -⟩
  · rw [heq, heq]
  have hplaced := h.applyGeometry ticket hrect
  have hstate : (r.applyGeometry ticket rect).1.state ≠ .running := fun hstate => by
    rw [hrun, state_present] at hstate
    rw [h.highlight_eq_none hstate] at hshown
    cases hshown
  have hrect' : (r.applyGeometry ticket rect).1.snapshot.highlight =
      some { highlight with rect } := by
    obtain ⟨presented, shown, heq, -⟩ := (r.locate highlight rect).exists_present
    rw [hrun, heq]
    rfl
  generalize (r.applyGeometry ticket rect).1 = r' at hplaced hstate hrect' ⊢
  rcases r'.applyGeometry_cases ticket rect with heq | ⟨highlight', hshown', -, -, heffects⟩
  · rw [heq]
  · rw [hrect', Option.some.injEq] at hshown'
    rw [← hshown'] at heffects
    have hsame : r'.locate { highlight with rect } rect = r' := locate_eq_self hrect'
    rw [hsame, hplaced.present_eq hstate] at heffects
    exact Option.map_eq_none_iff.mp (Option.toList_eq_nil_iff.mp heffects)

/-! ### Whole runs -/

/-- The place that is noted, if one is, is numeric. -/
def Operation.IsNumeric (op : Operation) : Prop :=
  ∀ ticket place, op = .applyGeometry ticket (some place) → place.IsNumeric

/-- **Every operation leaves a run in step.** -/
theorem InStep.operate (h : r.InStep) (p : Progress) {op : Operation} (hop : op.IsNumeric) :
    (r.operate p op).run.InStep := by
  have hleads := r.leads_operate p op
  generalize r.operate p op = turn at hleads ⊢
  cases hleads with
  | advance => exact h.advance p
  | answer hturn => exact h.answers hturn
  | interrupt => exact h.interrupt p
  | applyGeometry ticket rect =>
      exact h.applyGeometry ticket fun place hrect => hop ticket place (by rw [hrect])
  | rejected => exact h

/-- No operation hands a snapshot over twice in a row. -/
theorem Hands.operate (h : Hands last r es) (p : Progress) {op : Operation}
    (hop : op.IsNumeric) :
    Hands last (r.operate p op).run (es ++ (r.operate p op).effects) := by
  have hleads := r.leads_operate p op
  generalize r.operate p op = turn at hleads ⊢
  cases hleads with
  | advance => exact h.advance p
  | answer hturn => exact h.answers hturn
  | interrupt => exact h.interrupt p
  | applyGeometry ticket rect =>
      exact h.applyGeometry ticket fun place hrect => hop ticket place (by rw [hrect])
  | rejected =>
      rw [List.append_nil]
      exact h

/-- **An operation after which the run looks as before hands nothing over.** -/
theorem InStep.snapshots_operate (h : r.InStep) (hcoherent : r.Coherent) (hcounts : r.Counts)
    {p : Progress} {op : Operation}
    (hsame : r.snapshot.looksLike (r.operate p op).run.snapshot = true) :
    snapshots (r.operate p op).effects = [] := by
  have hleads := r.leads_operate p op
  generalize r.operate p op = turn at hleads hsame ⊢
  cases hleads with
  | advance => rw [h.effects_advance hsame]; rfl
  | answer hturn =>
      rw [hcoherent.not_looksLike_answers hcounts hturn] at hsame
      cases hsame
  | interrupt =>
      by_cases hactive : r.state.isActive = true
      · dsimp only at hsame
        rw [h.not_looksLike_interrupt hactive] at hsame
        cases hsame
      · rw [Run.interrupt, if_neg hactive]
        rfl
  | applyGeometry ticket rect =>
      dsimp only at hsame ⊢
      rw [h.applyGeometry_eq_none hsame]
      rfl
  | rejected => rfl

/-- Tickets are counted all through a course. Induction on the course. -/
theorem Course.counts {r₀ : Run} (h : Course r₀ es r) (h₀ : r₀.Counts) : r.Counts := by
  induction h with
  | nil => exact h₀
  | advance _ p ih => exact Lasting.counts.advance [] ih
  | answer _ hturn _ => exact .answers hturn
  | interrupt _ p ih => exact ih.interrupt p
  | applyGeometry _ ticket rect ih => exact ih.applyGeometry ticket rect

/-- What the snapshots among its effects tell of a run. -/
structure Shows (r : Run) (es : List Effect) : Prop where
  /-- Nothing has been handed over exactly as long as the run has not advanced. -/
  snapshots_eq_nil_iff : snapshots es = [] ↔ r.state = .running
  /-- What was handed over last looks like what there is to see. -/
  looksLike : ∀ s, (snapshots es).getLast? = some s → s.looksLike r.snapshot = true
  looksLike_self : r.snapshot.looksLike r.snapshot = true
  /-- Nothing is handed over twice in a row. -/
  differing : Differing (snapshots es)
  /-- Nothing is handed over by an operation that changes nothing visible. -/
  quiet : ∀ (p : Progress) (op : Operation),
    r.snapshot.looksLike (r.operate p op).run.snapshot = true →
      snapshots (r.operate p op).effects = []
  /-- A run that waits or has ended does not advance. -/
  advance_eq : r.state ≠ .running → ∀ p, r.advance p = { run := r, progress := p }
  /-- The same place is not handed over again. -/
  again : ∀ (ticket : Ticket) (rect : Option Rect),
    (∀ place, rect = some place → place.IsNumeric) →
      ((r.applyGeometry ticket rect).1.applyGeometry ticket rect).2 = none

/-- **What is handed over keeps in step with a run**, whatever is done to it from its start on, as
long as the places that are noted are numeric. -/
theorem shows_operateAll (id : Uuid) (scene : Scene) (p : Progress)
    {calls : List (Progress × Operation)} (hcalls : ∀ call ∈ calls, call.2.IsNumeric) :
    ((start id scene p).operateAll calls).1.Shows ((start id scene p).operateAll calls).2 := by
  have hcourse := (start id scene p).course_operateAll calls
  have hcoherent := hcourse.coherent (coherent_start id scene p)
  have hcounts := hcourse.counts (by rintro t ⟨⟩)
  have hinStep := operateAll_induction calls (P := fun r _ => r.InStep)
    (inStep_start id scene p) fun _ _ q op hmem h => h.operate q (hcalls _ hmem)
  have hhands := operateAll_induction calls (P := Hands none)
    (inStep_start id scene p).hands fun _ _ q op hmem h => h.operate q (hcalls _ hmem)
  generalize (start id scene p).operateAll calls = all at *
  have hpresented := hhands.presented_eq
  have hdiffering := hhands.differing
  rw [Option.toList_none, List.nil_append] at hpresented hdiffering
  refine ⟨?_, fun s hs => hinStep.looksLike s (hpresented.trans hs),
    Snapshot.looksLike_self hinStep.legible, hdiffering,
    fun _ _ hsame => hinStep.snapshots_operate hcoherent hcounts hsame, hinStep.advance_eq,
    fun ticket _ hrect => hinStep.applyGeometry_again ticket hrect⟩
  rw [← List.getLast?_eq_none_iff, ← hpresented]
  exact hinStep.presented_eq_none_iff

end Run

end Cutscene
