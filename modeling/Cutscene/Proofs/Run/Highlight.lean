import Cutscene.Proofs.Run.Effects
import Cutscene.Proofs.Run.Tickets

/-!
# The Highlight of a Run

A run shows at most one highlight, and it wants the place of that one: the ticket under which it
has asked for it is kept beside it until it is taken down (`Run.Points`). A turn leaves the
highlight alone, puts up another one and asks for its place, or takes it down (`Run.Aims`). So a
place that was asked for under another ticket is never taken for that of the highlight.

## Main results

* `Run.Lasting.aims`, `Run.Answers.aims`: what a turn makes of the highlight.
* `Run.Reachable.points`: a run keeps the ticket of its highlight, and of no other.
* `Run.applyGeometry_wanted`, `Run.applyGeometry_unwanted`: which places are noted.
-/

namespace Cutscene

/-- The step that puts a highlight up. -/
def Highlight.step (highlight : Highlight) : Step := .highlight highlight.anchor highlight.maskInput

/-- The request for a place that an effect makes: the ticket, and what is to be measured. -/
def Effect.request? : Effect → Option (Ticket × String)
  | measure ticket anchor => some (ticket, anchor)
  | flagChanged .. | counterChanged .. | dispatch _ | present _ | ended _ => none

/-- The requests for places among some effects. -/
def requests (es : List Effect) : List (Ticket × String) := es.filterMap Effect.request?

/-- The requests of two rows of effects are made one after the other. -/
theorem requests_append (es fs : List Effect) : requests (es ++ fs) = requests es ++ requests fs :=
  List.filterMap_append

/-- Places are asked for under the tickets of the requests. -/
theorem map_fst_requests (es : List Effect) : (requests es).map Prod.fst = asked es := by
  rw [requests, asked, List.map_filterMap]
  refine List.filterMap_congr fun e _ => ?_
  cases e <;> rfl

namespace Run

/-! ### What becomes of the highlight -/

/-- What the effects since a run was `r₀` have made of its highlight. -/
inductive Aims (r₀ r : Run) (es : List Effect) : Prop
  /-- It is still the same one, with the place that it had. -/
  | kept (hticket : r.highlightTicket = r₀.highlightTicket)
      (hhighlight : r.snapshot.highlight = r₀.snapshot.highlight)
  /-- It is one whose place has been asked for since, and is not known yet. -/
  | fresh {ticket : Ticket} {highlight : Highlight}
      (hrequest : (ticket, highlight.anchor) ∈ requests es)
      (hticket : r.highlightTicket = some ticket)
      (hhighlight : r.snapshot.highlight = some highlight) (hrect : highlight.rect = none)
  /-- There is none. -/
  | gone (hticket : r.highlightTicket = none) (hhighlight : r.snapshot.highlight = none)

namespace Aims

variable {r₀ r r' : Run} {es fs : List Effect}

/-- Of a run it matters which highlight it shows. -/
theorem congr (h : Aims r₀ r es) (hticket : r'.highlightTicket = r.highlightTicket)
    (hhighlight : r'.snapshot.highlight = r.snapshot.highlight) : Aims r₀ r' es := by
  cases h with
  | kept hticket₀ hhighlight₀ =>
      exact .kept (hticket.trans hticket₀) (hhighlight.trans hhighlight₀)
  | fresh hrequest hticket₀ hhighlight₀ hrect =>
      exact .fresh hrequest (hticket.trans hticket₀) (hhighlight.trans hhighlight₀) hrect
  | gone hticket₀ hhighlight₀ =>
      exact .gone (hticket.trans hticket₀) (hhighlight.trans hhighlight₀)

/-- Of the effects it matters which places they ask for. -/
theorem mono (h : Aims r₀ r es) (hes : requests es ⊆ requests fs) : Aims r₀ r fs := by
  cases h with
  | kept hticket hhighlight => exact .kept hticket hhighlight
  | fresh hrequest hticket hhighlight hrect =>
      exact .fresh (hes hrequest) hticket hhighlight hrect
  | gone hticket hhighlight => exact .gone hticket hhighlight

/-- More effects do not matter for what became of the highlight. -/
theorem append (h : Aims r₀ r es) (more : List Effect) : Aims r₀ r (es ++ more) :=
  h.mono (by rw [requests_append]; exact List.subset_append_left _ _)

/-- A run that has ended shows no highlight. -/
theorem finish (es : List Effect) (p : Progress) (reason : EndReason)
    (diagnostic : Option Diagnostic) : Aims r₀ (r.finish p reason diagnostic).1 es :=
  .gone rfl rfl

/-- Handing the snapshot over leaves the highlight alone. -/
theorem present (h : Aims r₀ r es) : Aims r₀ r.present.1 (es ++ r.present.2) := by
  obtain ⟨presented, shown, heq, -⟩ := r.exists_present
  rw [heq]
  exact (h.append shown).congr rfl rfl

/-- A step puts a highlight up, takes it down, or leaves it alone. -/
theorem execute (h : Aims r₀ r es) (p : Progress) (s : Step) :
    Aims r₀ (r.execute p s).run (es ++ (r.execute p s).effects) := by
  cases s with
  | highlight anchor maskInput =>
      have hrequest : (r.nextTicket, anchor) ∈
          requests (es ++ (r.execute p (.highlight anchor maskInput)).effects) := by
        rw [requests_append]
        exact List.mem_append_right _ List.mem_cons_self
      exact .fresh hrequest rfl rfl rfl
  | clearHighlight => exact .gone rfl rfl
  | choice prompt options => rw [Run.execute]; split <;> exact (h.append _).congr rfl rfl
  | _ => exact (h.append _).congr rfl rfl

/-- Going on leaves it alone, unless the run ends. -/
theorem follow (h : Aims r₀ r es) (p : Progress) (flow : Flow) :
    Aims r₀ (r.follow p flow).1 (es ++ (r.follow p flow).2) := by
  rcases follow_cases r p flow with
    ⟨state, -, heq⟩ | ⟨-, ⟨index, -, heq⟩ | ⟨reason, diagnostic, heq⟩⟩
  · rw [heq]; exact (h.append _).congr rfl rfl
  · rw [heq]; exact (h.append _).congr rfl rfl
  · rw [heq]; exact .finish _ p reason diagnostic

end Aims

/-- **The strokes of a running run put highlights up and take them down.** -/
theorem Lasting.aims (r₀ : Run) : Lasting fun r _ es => Aims r₀ r es where
  execute {r p es s} _ _ h := by
    have hquiet : Aims r₀ { r with snapshot.sound := none } es := h.congr rfl rfl
    exact (hquiet.execute p s).follow _ _
  finish reason diagnostic _ _ _ := .finish _ _ reason diagnostic
  present h := h.present

/-- An answer leaves the highlight alone or takes it down. -/
theorem Resumes.aims {r r' : Run} {p p' : Progress} {es : List Effect}
    (hr : r.Resumes p r' p' es) : Aims r r' es := by
  cases hr with
  | choice =>
      have hleft : Aims r { r with snapshot.choice := none }.resume [] := .kept rfl rfl
      refine (hleft.follow (writeFlags p _).1 (Flow.toLabel _)).mono ?_
      rw [List.nil_append, requests_append]
      exact List.subset_append_right _ _
  | highlight => exact .gone rfl rfl
  | line | timer | flag => exact .kept rfl rfl

/-- **What an accepted answer makes of the highlight.** -/
theorem Answers.aims {r : Run} {p : Progress} {turn : Turn} (h : r.Answers p turn) :
    Aims r turn.run turn.effects :=
  (Lasting.aims r).answers h fun _ _ _ hr => hr.aims

/-- A run begins without a highlight. -/
theorem aims_advance_start (id : Uuid) (scene : Scene) (p q : Progress) :
    Aims (start id scene p) ((start id scene p).advance q).run
      ((start id scene p).advance q).effects :=
  (Lasting.aims _).advance [] (.kept rfl rfl)

/-! ### The ticket of the highlight -/

/-- **A run keeps the ticket of the highlight that it shows**, as long as it shows it. -/
structure Points (r : Run) : Prop where
  isSome_iff : r.highlightTicket.isSome ↔ r.snapshot.highlight.isSome
  /-- The ticket is one that the run has given out. -/
  counted : ∀ t, r.highlightTicket = some t → t.run = r.id ∧ t.number ≤ r.tickets
  /-- The ticket names the step that has put the highlight up. -/
  step : ∀ t, r.highlightTicket = some t → ∀ highlight, r.snapshot.highlight = some highlight →
    r.scene.steps[t.step]? = some highlight.step
  /-- A run that has ended shows no highlight. -/
  isActive : r.snapshot.highlight.isSome → r.state.isActive = true

namespace Points

variable {r : Run}

/-- A highlight that is shown has a ticket. -/
theorem exists_ticket (h : r.Points) {highlight : Highlight}
    (hshown : r.snapshot.highlight = some highlight) : ∃ t, r.highlightTicket = some t :=
  Option.isSome_iff_exists.mp (h.isSome_iff.mpr (Option.isSome_of_eq_some hshown))

/-- A ticket that is kept is that of a highlight that is shown. -/
theorem exists_highlight (h : r.Points) {t : Ticket} (hticket : r.highlightTicket = some t) :
    ∃ highlight, r.snapshot.highlight = some highlight :=
  Option.isSome_iff_exists.mp (h.isSome_iff.mp (Option.isSome_of_eq_some hticket))

/-- A run without a highlight. -/
theorem of_none (hticket : r.highlightTicket = none) (hhighlight : r.snapshot.highlight = none) :
    r.Points where
  isSome_iff := by rw [hticket, hhighlight]; rfl
  counted t ht := by rw [hticket] at ht; cases ht
  step t ht := by rw [hticket] at ht; cases ht
  isActive hshown := by rw [hhighlight] at hshown; cases hshown

/-- Of a run it matters which step has put its highlight up, under which ticket, and that it is
active. -/
theorem congr {r' : Run} (h : r.Points) (hid : r'.id = r.id) (hscene : r'.scene = r.scene)
    (hticket : r'.highlightTicket = r.highlightTicket)
    (hhighlight : r'.snapshot.highlight.map Highlight.step =
      r.snapshot.highlight.map Highlight.step)
    (htickets : r.tickets ≤ r'.tickets)
    (hactive : r.state.isActive = true → r'.state.isActive = true) : r'.Points := by
  have hsome : r'.snapshot.highlight.isSome = r.snapshot.highlight.isSome := by
    rw [← Option.isSome_map, hhighlight, Option.isSome_map]
  refine ⟨by rw [hticket, hsome]; exact h.isSome_iff, fun t ht => ?_,
    fun t ht highlight hshown => ?_, fun hshown => hactive (h.isActive (hsome ▸ hshown))⟩
  · rw [hticket] at ht
    rw [hid]
    exact ⟨(h.counted t ht).1, Nat.le_trans (h.counted t ht).2 htickets⟩
  · rw [hshown, Option.map_some] at hhighlight
    obtain ⟨shown, hshown', heq⟩ := Option.map_eq_some_iff.mp hhighlight.symm
    rw [hscene, ← heq]
    exact h.step t (hticket ▸ ht) shown hshown'

/-- A run that has ended keeps no ticket and shows no highlight. -/
theorem finish (r : Run) (p : Progress) (reason : EndReason) (diagnostic : Option Diagnostic) :
    (r.finish p reason diagnostic).1.Points :=
  .of_none rfl rfl

/-- Handing the snapshot over leaves both as they are. -/
theorem present (h : r.Points) : r.present.1.Points := by
  obtain ⟨presented, shown, heq, -⟩ := r.exists_present
  rw [heq]
  exact h.congr rfl rfl rfl rfl (Nat.le_refl _) fun hactive => hactive

/-- A step that puts up a highlight keeps its ticket, and no other step touches either. -/
theorem execute (h : r.Points) (hrun : r.state = .running) (p : Progress) {s : Step}
    (hs : r.currentStep? = some s) : (r.execute p s).run.Points := by
  cases s with
  | highlight anchor maskInput =>
      refine ⟨Iff.rfl, ?_, ?_, fun _ => ?_⟩
      · rintro t ⟨⟩
        exact ⟨rfl, Nat.le_refl _⟩
      · rintro t ⟨⟩ highlight ⟨⟩
        exact hs
      · rw [state_execute, hrun]
        rfl
  | clearHighlight => exact .of_none rfl rfl
  | choice prompt options =>
      rw [Run.execute]
      split <;> exact h.congr rfl rfl rfl rfl (Nat.le_refl _) fun hactive => hactive
  | _ => exact h.congr rfl rfl rfl rfl (Nat.le_refl _) fun hactive => hactive

end Points

/-- **The strokes of a running run keep the ticket of its highlight.** -/
theorem Lasting.points : Lasting fun r _ _ => r.Points where
  execute {r p es s} hrun hs h := by
    dsimp only
    have hquiet : Points { r with snapshot.sound := none } :=
      h.congr rfl rfl rfl rfl (Nat.le_refl _) fun hactive => hactive
    have hdone := hquiet.execute hrun p hs
    have hwaits : ∀ state, ({ r with snapshot.sound := none }.execute p s).flow = .suspend state →
        state = .waitingForChoice ∨ ∃ wait, state = .waiting wait := fun _ => waits_of_execute
    generalize { r with snapshot.sound := none }.execute p s = done at *
    rcases follow_cases done.run done.progress done.flow with
      ⟨state, hflow, heq⟩ | ⟨-, ⟨index, -, heq⟩ | ⟨reason, diagnostic, heq⟩⟩
    · rw [heq]
      refine hdone.congr rfl rfl rfl rfl (Nat.le_succ _) fun _ => ?_
      rcases hwaits state hflow with rfl | ⟨wait, rfl⟩ <;> rfl
    · rw [heq]
      exact hdone.congr rfl rfl rfl rfl (Nat.le_refl _) fun hactive => hactive
    · rw [heq]
      exact .finish _ _ reason diagnostic
  finish reason diagnostic _ _ _ := .finish _ _ reason diagnostic
  present h := h.present

/-- An answer leaves both as they are or takes both down. -/
theorem Resumes.points {r r' : Run} {p p' : Progress} {es : List Effect}
    (hr : r.Resumes p r' p' es) (h : r.Points) : r'.Points := by
  cases hr with
  | @choice prompt options option =>
      rw [leaveChoice]
      rcases follow_cases { r with snapshot.choice := none }.resume
          (writeFlags p option.setFlags).1 (Flow.toLabel option.goto) with
        ⟨state, hflow, -⟩ | ⟨-, ⟨index, -, heq⟩ | ⟨reason, diagnostic, heq⟩⟩
      · exact absurd hflow (toLabel_ne_suspend _ _)
      · rw [heq]
        exact h.congr rfl rfl rfl rfl (Nat.le_refl _) fun _ => rfl
      · rw [heq]
        exact .finish _ _ reason diagnostic
  | highlight => exact .of_none rfl rfl
  | line | timer | flag => exact h.congr rfl rfl rfl rfl (Nat.le_refl _) fun _ => rfl

/-- A run that accepts an answer keeps the ticket of the highlight that it shows. -/
theorem Points.answers {r : Run} (h : r.Points) {p : Progress} {turn : Turn}
    (hturn : r.Answers p turn) : turn.run.Points :=
  Lasting.points.answers hturn fun _ _ _ hr => hr.points h

/-- A run that is broken off takes its highlight down. -/
theorem highlight_interrupt {r : Run} (hactive : r.state.isActive = true) (p : Progress) :
    (r.interrupt p).1.highlightTicket = none ∧ (r.interrupt p).1.snapshot.highlight = none := by
  obtain ⟨presented, shown, heq, -⟩ := (r.finish p .interrupted none).1.exists_present
  rw [interrupt, if_pos hactive]
  dsimp only
  rw [heq]
  exact ⟨rfl, rfl⟩

/-- Breaking off takes both down. -/
theorem Points.interrupt {r : Run} (h : r.Points) (p : Progress) : (r.interrupt p).1.Points := by
  by_cases hactive : r.state.isActive = true
  · obtain ⟨hticket, hhighlight⟩ := highlight_interrupt hactive p
    exact .of_none hticket hhighlight
  · rw [Run.interrupt, if_neg hactive]
    exact h

/-! ### Places -/

/-- **A place that the run does not want changes nothing.** -/
theorem applyGeometry_unwanted {r : Run} {t : Ticket} (ht : r.highlightTicket ≠ some t)
    (rect : Option Rect) : r.applyGeometry t rect = (r, none) := by
  rw [applyGeometry, if_neg ht]

/-- **The place that the run wants becomes that of the highlight**, which otherwise remains the
same. -/
theorem applyGeometry_wanted {r : Run} {t : Ticket} (ht : r.highlightTicket = some t)
    {highlight : Highlight} (hshown : r.snapshot.highlight = some highlight)
    (rect : Option Rect) :
    (r.applyGeometry t rect).1.snapshot.highlight = some { highlight with rect } := by
  rw [applyGeometry, if_pos ht, hshown]
  dsimp only
  obtain ⟨presented, shown, heq, -⟩ :=
    exists_present { r with snapshot.highlight := some { highlight with rect } }
  rw [heq]

/-- Noting a place changes nothing but the place. -/
theorem Points.applyGeometry {r : Run} (h : r.Points) (t : Ticket) (rect : Option Rect) :
    (r.applyGeometry t rect).1.Points := by
  by_cases ht : r.highlightTicket = some t
  · obtain ⟨highlight, hshown⟩ := h.exists_highlight ht
    have hplaced := applyGeometry_wanted ht hshown rect
    obtain ⟨placed, state, presented, heq⟩ := r.exists_applyGeometry t rect
    rw [heq] at hplaced ⊢
    refine h.congr rfl rfl rfl ?_ (Nat.le_refl _) fun hactive => hactive
    rw [hplaced, hshown]
    rfl
  · rw [applyGeometry_unwanted ht]
    exact h

/-- **Every operation keeps the ticket of the highlight.** -/
theorem Reachable.points {r : Run} (h : r.Reachable) : r.Points := by
  induction h with
  | start id scene p q => exact Lasting.points.advance [] (.of_none rfl rfl)
  | advance _ p ih => exact Lasting.points.advance [] ih
  | choose _ p option hturn ih => exact ih.answers (.choose option hturn)
  | acknowledge _ p hturn ih => exact ih.answers (.acknowledge hturn)
  | resumeTimer _ p ticket hturn ih => exact ih.answers (.resumeTimer ticket hturn)
  | notifyFlag _ p hturn ih => exact ih.answers (.notifyFlag hturn)
  | interrupt _ p ih => exact ih.interrupt p
  | applyGeometry _ ticket rect ih => exact ih.applyGeometry ticket rect

end Run

end Cutscene
