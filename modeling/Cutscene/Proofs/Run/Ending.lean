import Cutscene.Proofs.Run.Operations
import Cutscene.Proofs.Run.Snapshot

/-!
# How a Run Ends

A run ends in the middle of its steps, on leaving a choice, or when it is broken off, and each
time its snapshot is blanked. The end is complete once that blank snapshot, the curtain, has been
handed over. Before that a run is active or closing:

* `Run.Plays r es`: the run is active, and none of the effects `es` ends it.
* `Run.Closing r es`: the last effect has ended the run, and the curtain has not been shown.
* `Run.Over r es`: the effects finish with the one that ends the run and the curtain.

The strokes of a running run lead from one of these to another, and between two operations no run
is closing.

## Main results

* `Run.plays_or_over_operate`: between operations a run is active or over.
* `Run.Over.inert`: a run that is over cannot be operated on.
* `Run.ends_once`: whatever is done to a run, it ends at most once, and is inert afterwards.
-/

namespace Cutscene

/-- The ending that an effect reports. -/
def Effect.ending? : Effect → Option Ending
  | ended ending => some ending
  | flagChanged .. | counterChanged .. | dispatch _ | measure .. | present _ => none

/-- The endings among some effects. -/
def endings (es : List Effect) : List Ending := es.filterMap Effect.ending?

/-- Of two rows of effects the endings come one row after the other. -/
@[simp] theorem endings_append (es fs : List Effect) :
    endings (es ++ fs) = endings es ++ endings fs :=
  List.filterMap_append

/-- Effects none of which ends the run have no endings. -/
theorem endings_eq_nil {es : List Effect} (h : ∀ ending, .ended ending ∉ es) :
    endings es = [] := by
  refine List.filterMap_eq_nil_iff.mpr fun e he => ?_
  cases e with
  | ended ending => exact absurd he (h ending)
  | flagChanged | counterChanged | dispatch | measure | present => rfl

/-- Where there is a diagnostic, the run was broken off. -/
def Ending.Sound (e : Ending) : Prop := e.diagnostic ≠ none → e.reason = .interrupted

namespace Run

/-- What remains to be seen of a run that has ended. -/
def curtain (r : Run) (reason : EndReason) : Snapshot where
  scene := some r.scene.id
  run := some r.id
  state := .ended reason

/-! ### On the way to the end -/

/-- The run is active, has only been shown so, and none of the effects ends it. -/
structure Plays (r : Run) (es : List Effect) : Prop where
  isActive : r.state.isActive = true
  isActive_presented : ∀ s, r.presented = some s → s.state.isActive = true
  endings_eq : endings es = []

/-- The last effect has just ended the run, which is still being shown as active. -/
inductive Closing (r : Run) : List Effect → Prop
  | intro {body : List Effect} {ending : Ending} (hstate : r.state = .ended ending.reason)
      (hview : r.view = r.curtain ending.reason)
      (hpresented : ∀ s, r.presented = some s → s.state.isActive = true)
      (hbody : endings body = []) (hsound : ending.Sound) : Closing r (body ++ [.ended ending])

/-- The run has ended, and after that only the curtain has been shown. -/
inductive Over (r : Run) : List Effect → Prop
  | intro {body : List Effect} {ending : Ending} (hstate : r.state = .ended ending.reason)
      (hsnapshot : r.snapshot = r.curtain ending.reason)
      (hpresented : r.presented = some (r.curtain ending.reason))
      (hbody : endings body = []) (hsound : ending.Sound) :
      Over r (body ++ [.ended ending, .present (r.curtain ending.reason)])

variable {r : Run} {es : List Effect}

/-- A run that is closing is not running. -/
theorem Closing.state_ne_running (h : r.Closing es) : r.state ≠ .running := by
  cases h with
  | intro hstate => rw [hstate]; rintro ⟨⟩

/-- Nor is one that is over. -/
theorem Over.state_ne_running (h : r.Over es) : r.state ≠ .running := by
  cases h with
  | intro hstate => rw [hstate]; rintro ⟨⟩

/-- A run that is finished is closing. -/
theorem Plays.finish (h : r.Plays es) (p : Progress) {reason : EndReason}
    {diagnostic : Option Diagnostic} (hsound : diagnostic ≠ none → reason = .interrupted) :
    (r.finish p reason diagnostic).1.Closing (es ++ (r.finish p reason diagnostic).2) :=
  .intro rfl rfl h.isActive_presented h.endings_eq hsound

/-- Going on keeps a run active or ends it. -/
theorem Plays.follow (h : r.Plays es) (p : Progress) {flow : Flow}
    (hflow : ∀ state, flow = .suspend state → state.isActive = true) :
    (r.follow p flow).1.Plays (es ++ (r.follow p flow).2) ∨
      (r.follow p flow).1.Closing (es ++ (r.follow p flow).2) := by
  have hnone : endings (es ++ []) = [] := by rw [List.append_nil]; exact h.endings_eq
  cases flow with
  | next => exact .inl ⟨h.isActive, h.isActive_presented, hnone⟩
  | suspend state => exact .inl ⟨hflow state rfl, h.isActive_presented, hnone⟩
  | jump target =>
      rw [Run.follow, jump]
      split
      · exact .inl ⟨h.isActive, h.isActive_presented, hnone⟩
      · exact .inr (h.finish p fun _ => rfl)
  | finish => exact .inr (h.finish p fun hd => absurd rfl hd)
  | abort diagnostic => exact .inr (h.finish p fun _ => rfl)

/-- A step that is executed does not end the run by itself. -/
theorem Plays.execute (h : r.Plays es) (p : Progress) (s : Step) :
    (r.execute p s).run.Plays (es ++ (r.execute p s).effects) where
  isActive := by rw [state_execute]; exact h.isActive
  isActive_presented := by rw [presented_execute]; exact h.isActive_presented
  endings_eq := by
    rw [endings_append, h.endings_eq, endings_eq_nil (ended_not_mem_execute r p s)]
    rfl

/-! ### Handing over -/

/-- An active run is handed over as active. -/
theorem Plays.present (h : r.Plays es) : r.present.1.Plays (es ++ r.present.2) := by
  rcases r.present_cases with ⟨s, -, -, heq⟩ | ⟨-, heq⟩
  · rw [heq, List.append_nil]
    exact ⟨h.isActive, h.isActive_presented, h.endings_eq⟩
  · rw [heq]
    refine ⟨h.isActive, ?_, by rw [endings_append, h.endings_eq]; rfl⟩
    rintro s ⟨⟩
    exact h.isActive

/-- The curtain does not look like anything that was shown before. -/
theorem Closing.present (h : r.Closing es) : r.present.1.Over (es ++ r.present.2) := by
  cases h with
  | @intro body ending hstate hview hpresented hbody hsound =>
      rcases r.present_cases with ⟨s, hs, hlooks, -⟩ | ⟨-, heq⟩
      · -- Whatever was shown before was shown of an active run.
        have hactive := hpresented s hs
        rw [hview] at hlooks
        rw [Snapshot.state_eq_of_looksLike hlooks] at hactive
        cases hactive
      · rw [heq, hview, List.append_assoc]
        exact .intro hstate rfl rfl hbody hsound

/-- The curtain is legible, so that it looks like itself. -/
theorem curtain_looksLike_self (r : Run) (reason : EndReason) :
    (r.curtain reason).looksLike (r.curtain reason) = true :=
  Snapshot.looksLike_self (Snapshot.legible_of_highlight_eq_none rfl)

/-- Once the curtain has been shown, nothing more is. -/
theorem Over.present_eq (h : r.Over es) : r.present = (r, []) := by
  cases h with
  | intro hstate hsnapshot hpresented =>
      refine present_eq_self hpresented ?_ ?_
      · rw [hsnapshot]
        exact curtain_looksLike_self r _
      · rw [hsnapshot, hstate]
        rfl

/-! ### The strokes of a running run -/

/-- A run that is running is active. -/
theorem plays_of_running (h : r.Plays es ∨ r.Closing es ∨ r.Over es)
    (hrun : r.state = .running) : r.Plays es := by
  rcases h with h | h | h
  · exact h
  · exact absurd hrun h.state_ne_running
  · exact absurd hrun h.state_ne_running

/-- Once the snapshot has been handed over, no run is closing. -/
theorem plays_or_over_present (h : r.Plays es ∨ r.Closing es ∨ r.Over es) :
    r.present.1.Plays (es ++ r.present.2) ∨ r.present.1.Over (es ++ r.present.2) := by
  rcases h with h | h | h
  · exact .inl h.present
  · exact .inr h.present
  · rw [h.present_eq, List.append_nil]
    exact .inr h

/-- **The strokes of a running run lead on to its end**, from which there is no way back. -/
theorem Lasting.concludes : Lasting fun r _ es => r.Plays es ∨ r.Closing es ∨ r.Over es where
  execute {r p es s} hrun _ h := by
    have hplays := plays_of_running h hrun
    have hquiet : { r with snapshot.sound := none }.Plays es :=
      ⟨hplays.isActive, hplays.isActive_presented, hplays.endings_eq⟩
    have hwaits : ∀ state, ({ r with snapshot.sound := none }.execute p s).flow = .suspend state →
        state.isActive = true := by
      intro state hflow
      rcases waits_of_execute hflow with rfl | ⟨wait, rfl⟩ <;> rfl
    rcases (hquiet.execute p s).follow _ hwaits with h | h
    · exact .inl h
    · exact .inr (.inl h)
  finish reason diagnostic hexpires hrun h := by
    refine .inr (.inl ((plays_of_running h hrun).finish _ fun hd => ?_))
    cases hexpires with
    | completed => exact absurd rfl hd
    | budget => rfl
  present h := by
    rcases plays_or_over_present h with h | h
    · exact .inl h
    · exact .inr (.inr h)

/-- A run that advances hands over its curtain before it stops. -/
theorem plays_or_over_advance (h : r.Plays es ∨ r.Closing es ∨ r.Over es) (p : Progress) :
    (r.advance p).run.Plays (es ++ (r.advance p).effects) ∨
      (r.advance p).run.Over (es ++ (r.advance p).effects) := by
  have hdone := plays_or_over_present (Lasting.concludes.loop budget h (p := p))
  rw [List.append_assoc] at hdone
  exact hdone

/-! ### Operations -/

/-- A run that goes on is active, unless its choice has led nowhere. -/
theorem Plays.resumes (h : r.Plays es) {r' : Run} {p p' : Progress} {more : List Effect}
    (hr : r.Resumes p r' p' more) : r'.Plays (es ++ more) ∨ r'.Closing (es ++ more) := by
  have hnone : endings (es ++ []) = [] := by rw [List.append_nil]; exact h.endings_eq
  cases hr with
  | @choice prompt options option =>
      have hleft : { r with snapshot.choice := none }.resume.Plays
          (es ++ (writeFlags p option.setFlags).2) := by
        refine ⟨rfl, h.isActive_presented, ?_⟩
        rw [endings_append, h.endings_eq,
          endings_eq_nil (ended_not_mem_writeFlags p option.setFlags)]
        rfl
      rw [← List.append_assoc]
      exact hleft.follow _ fun state hflow => absurd hflow (toLabel_ne_suspend _ _)
  | line | highlight | timer | flag => exact .inl ⟨rfl, h.isActive_presented, hnone⟩

/-- An active run that accepts an answer is active afterwards or over. -/
theorem Plays.answers (h : r.Plays es) {p : Progress} {turn : Turn} (hturn : r.Answers p turn) :
    turn.run.Plays (es ++ turn.effects) ∨ turn.run.Over (es ++ turn.effects) := by
  obtain ⟨r', p', more, hr, rfl⟩ := hturn.exists_resumes
  rw [← List.append_assoc]
  refine plays_or_over_advance ?_ p'
  rcases h.resumes hr with h | h
  · exact .inl h
  · exact .inr (.inl h)

/-- An active run that is broken off is over. -/
theorem Plays.interrupt (h : r.Plays es) (p : Progress) :
    (r.interrupt p).1.Over (es ++ (r.interrupt p).2) := by
  rw [Run.interrupt, if_pos h.isActive]
  have hended : (r.finish p .interrupted none).1.Closing (es ++ (r.finish p .interrupted none).2) :=
    h.finish p fun _ => rfl
  have hdone := hended.present
  rw [List.append_assoc] at hdone
  exact hdone

/-- Noting a place ends no run. -/
theorem Plays.applyGeometry (h : r.Plays es) (ticket : Ticket) (rect : Option Rect) :
    (r.applyGeometry ticket rect).1.Plays
      (es ++ ((r.applyGeometry ticket rect).2.map Effect.present).toList) := by
  rcases r.applyGeometry_cases ticket rect with heq | ⟨highlight, -, -, hrun, heffects⟩
  · rw [heq, Option.map_none, Option.toList_none, List.append_nil]
    exact h
  · rw [hrun, heffects]
    have hlocated : (r.locate highlight rect).Plays es :=
      ⟨h.isActive, h.isActive_presented, h.endings_eq⟩
    exact hlocated.present

/-- Every operation is rejected, or leads to nothing. -/
def Inert (r : Run) : Prop := ∀ (p : Progress) (op : Operation),
  (∃ fault, r.operate? p op = .error fault) ∨ r.operate? p op = .ok none ∨
    r.operate? p op = .ok (some { run := r, progress := p })

/-- A run that is over cannot be operated on. -/
theorem Over.inert (h : r.Over es) : r.Inert := by
  have hpresent := h.present_eq
  cases h with
  | intro hstate hsnapshot =>
      intro p op
      cases op with
      | advance =>
          have hidle := advance_eq_self (by rw [hstate]; rintro ⟨⟩) hpresent p
          exact .inr (.inr (by rw [operate?, hidle]))
      | choose option => exact .inl ⟨_, by rw [operate?, choose, hstate]; rfl⟩
      | acknowledge => exact .inr (.inl (by rw [operate?, acknowledge?, hstate]; rfl))
      | resumeTimer ticket => exact .inr (.inl (by rw [operate?, resumeTimer?, hstate]))
      | notifyFlag => exact .inr (.inl (by rw [operate?, notifyFlag?, hstate]))
      | interrupt => exact .inr (.inr (by rw [operate?, interrupt, hstate]; rfl))
      | applyGeometry ticket rect =>
          have hnone : r.snapshot.highlight = none := by rw [hsnapshot]; rfl
          rcases r.applyGeometry_cases ticket rect with heq | ⟨highlight, hsome, -⟩
          · exact .inr (.inr (by rw [operate?, heq]; rfl))
          · rw [hnone] at hsome
            cases hsome

/-- An operation on a run that is inert does nothing. -/
theorem Inert.operate_eq (h : r.Inert) (p : Progress) (op : Operation) :
    r.operate p op = { run := r, progress := p } := by
  rw [operate]
  rcases h p op with ⟨fault, heq⟩ | heq | heq <;> rw [heq]

/-- Between operations a run plays or is over. -/
theorem plays_or_over_operate (h : r.Plays es ∨ r.Over es) (p : Progress) (op : Operation) :
    (r.operate p op).run.Plays (es ++ (r.operate p op).effects) ∨
      (r.operate p op).run.Over (es ++ (r.operate p op).effects) := by
  rcases h with h | h
  · have hleads := r.leads_operate p op
    generalize r.operate p op = turn at hleads ⊢
    cases hleads with
    | advance => exact plays_or_over_advance (.inl h) p
    | answer hturn => exact h.answers hturn
    | interrupt => exact .inr (h.interrupt p)
    | applyGeometry ticket rect => exact .inl (h.applyGeometry ticket rect)
    | rejected =>
        rw [List.append_nil]
        exact .inl h
  · rw [h.inert.operate_eq, List.append_nil]
    exact .inr h

/-! ### Whole runs -/

/-- The effects of a run end it at most once, and nothing happens to it after that. -/
structure EndsOnce (r : Run) (es : List Effect) : Prop where
  length_endings_le : (endings es).length ≤ 1
  /-- The effects end the run exactly if it has ended. -/
  endings_ne_nil_iff : endings es ≠ [] ↔ ∃ reason, r.state = .ended reason
  /-- The run has ended as the ending says. -/
  state_eq : ∀ ending ∈ endings es, r.state = .ended ending.reason
  /-- The ending is followed by the curtain, which is what remains, and by nothing else. -/
  eq_append : ∀ ending ∈ endings es, r.snapshot = r.curtain ending.reason ∧
    ∃ body, es = body ++ [.ended ending, .present (r.curtain ending.reason)]
  /-- A run that ends with a diagnostic was broken off. -/
  sound : ∀ ending ∈ endings es, ending.diagnostic ≠ none → ending.reason = .interrupted
  /-- Once the run has ended, no operation has effects or changes anything. -/
  inert : endings es ≠ [] → r.Inert

/-- As long as a run is active nothing has ended it. -/
theorem Plays.endsOnce (h : r.Plays es) : r.EndsOnce es := by
  have hne : ¬ ∃ reason, r.state = .ended reason := by
    rintro ⟨reason, hstate⟩
    have hactive := h.isActive
    rw [hstate] at hactive
    cases hactive
  constructor <;> simp [h.endings_eq, hne]

/-- A run that is over has been ended once. -/
theorem Over.endsOnce (h : r.Over es) : r.EndsOnce es := by
  have hinert := h.inert
  cases h with
  | @intro body ending hstate hsnapshot hpresented hbody hsound =>
      have heq : endings (body ++ [.ended ending, .present (r.curtain ending.reason)]) =
          [ending] := by rw [endings_append, hbody]; rfl
      have hmem : ∀ e ∈ endings (body ++ [.ended ending, .present (r.curtain ending.reason)]),
          e = ending := fun e he => List.mem_singleton.mp (heq ▸ he)
      refine ⟨by rw [heq]; exact Nat.le_refl 1, ?_, ?_, ?_, ?_, fun _ => hinert⟩
      · rw [heq]
        exact ⟨fun _ => ⟨_, hstate⟩, fun _ => List.cons_ne_nil _ _⟩
      · intro e he
        rw [hmem e he]
        exact hstate
      · intro e he
        rw [hmem e he]
        exact ⟨hsnapshot, body, rfl⟩
      · intro e he
        rw [hmem e he]
        exact hsound

/-- **A run ends once, and is inert afterwards.** Whatever is done to it from its start on, in
whatever order and at whatever progress, the effects of all the operations hold at most one
ending. There is one exactly if the run has ended. It names the reason, has a diagnostic only if
the run was broken off, and is followed by the blank snapshot alone. From then on every operation
is rejected or leads to nothing. -/
theorem ends_once (id : Uuid) (scene : Scene) (p : Progress)
    (calls : List (Progress × Operation)) :
    ((start id scene p).operateAll calls).1.EndsOnce ((start id scene p).operateAll calls).2 := by
  have hstart : (start id scene p).Plays [] := ⟨rfl, by rintro s ⟨⟩, rfl⟩
  rcases operateAll_induction calls (P := fun r es => r.Plays es ∨ r.Over es) (.inl hstart)
    fun _ _ q op _ h => plays_or_over_operate h q op with h | h
  · exact h.endsOnce
  · exact h.endsOnce

/-- A scene that has ended cannot be broken off any more. -/
example : (endings ((start default { id := "gate", steps := [.say { text := "Halt!" }] }
    .empty).operateAll [(.empty, .advance), (.empty, .acknowledge), (.empty, .interrupt)]).2).map
      Ending.reason = [.completed] := by decide

end Run

end Cutscene
