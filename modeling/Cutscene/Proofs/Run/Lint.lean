import Cutscene.Proofs.Digits
import Cutscene.Proofs.Run.Effects
import Cutscene.Scene.Lint

/-!
# Lint Foresees What Breaks a Run Off

A scene is examined before it is played, and the same defects break a run off while it is played:
a jump to a label that is nowhere, and a choice without options. The examination goes through the
labels of a scene and through the jumps that each kind of step may take; a run looks for a label
at the moment at which it jumps. This module shows that the two agree: whatever breaks a run off,
apart from the budget, has been found before, at the step at which it happens.

## Main results

* `Scene.undefinedLabel_mem_lint`, `Scene.emptyChoice_mem_lint`: what is found.
* `Run.mem_jumpTargets_of_execute`, `Run.emptyChoice_of_execute`: a step jumps only where it says
  that it may, and only an empty choice breaks a run off by itself.
* `Run.Course.foreseen`: whatever a run is told, it is broken off only for what was found.
* `Run.Course.reported_by_lint`: the same, in the words of diagnostics and findings.
-/

namespace Cutscene

/-! ### Findings -/

namespace Scene

/-- The names of the labels are those that the label steps carry. -/
theorem mem_labelNames_iff {steps : List Step} {name : String} :
    name ∈ labelNames steps ↔ .label name ∈ steps := by
  rw [labelNames, List.mem_filterMap]
  constructor
  · rintro ⟨step, hmem, hname⟩
    cases step with
    | label other => cases hname; exact hmem
    | _ => cases hname
  · exact fun hmem => ⟨_, hmem, rfl⟩

/-- A label is not found exactly if no step defines it. -/
theorem findLabel?_eq_none_iff {steps : List Step} {name : String} :
    findLabel? steps name = none ↔ .label name ∉ steps := by
  rw [findLabel?, List.findIdx?_eq_none_iff]
  constructor
  · intro h hmem
    simpa using h _ hmem
  · rintro h step hmem
    exact decide_eq_false fun heq => h (heq ▸ hmem)

/-- What is found at a step is found in the scene. -/
theorem mem_lint_of_mem_stepFindings {s : Scene} {finding : Finding} {step : Step} {index : Nat}
    (hstep : s.steps[index]? = some step)
    (h : finding ∈ stepFindings (labelNames s.steps) step index) : finding ∈ s.lint := by
  rw [lint, List.mem_append, List.mem_append]
  exact .inl (.inr (List.mem_flatMap.mpr
    ⟨(step, index), List.mk_mem_zipIdx_iff_getElem?.mpr hstep, h⟩))

/-- A jump that a step may take to a label that no step defines is found. -/
theorem undefinedLabel_mem_lint {s : Scene} {step : Step} {index : Nat} {target : String}
    (hstep : s.steps[index]? = some step) (htarget : target ∈ step.jumpTargets)
    (hlabel : .label target ∉ s.steps) :
    .undefinedLabel index step.kind target ∈ s.lint := by
  refine mem_lint_of_mem_stepFindings hstep (List.mem_append_left _ ?_)
  refine List.mem_map.mpr ⟨target, List.mem_filter.mpr ⟨htarget, ?_⟩, rfl⟩
  exact decide_eq_true (mt mem_labelNames_iff.mp hlabel)

/-- A choice without options is found. -/
theorem emptyChoice_mem_lint {s : Scene} {prompt : Option String} {index : Nat}
    (hstep : s.steps[index]? = some (.choice prompt [])) : .emptyChoice index ∈ s.lint :=
  mem_lint_of_mem_stepFindings hstep (List.mem_append_right _ (List.mem_singleton.mpr rfl))

end Scene

/-! ### What breaks a run off -/

/-- The scene's lint has found the defect, at the step at which it breaks a run off. The budget is
none of the scene's findings. -/
def Diagnostic.Foreseen (scene : Scene) : Diagnostic → Prop
  | undefinedLabel index target => ∃ step, scene.steps[index]? = some step ∧
      .undefinedLabel index step.kind target ∈ scene.lint
  | emptyChoice index => .emptyChoice index ∈ scene.lint
  | budget steps => steps = Run.budget

namespace Run

/-- A jump to an optional label is one to that label. -/
theorem eq_some_of_toLabel_eq_jump {label : Option String} {target : String}
    (h : Flow.toLabel label = .jump target) : label = some target := by
  cases label with
  | none => cases h
  | some other => cases h; rfl

/-- A step that does not end the run by itself jumps only where it says that it may. -/
theorem mem_jumpTargets_of_execute {r : Run} {p : Progress} {s : Step} {target : String}
    (h : (r.execute p s).flow = .jump target) : target ∈ s.jumpTargets := by
  cases s with
  | goto label => cases h; exact List.mem_singleton.mpr rfl
  | branch flag thenLabel elseLabel | checkCounter counter min max thenLabel elseLabel =>
      have hlabel := eq_some_of_toLabel_eq_jump h
      rw [Step.jumpTargets, List.mem_append, Option.mem_toList, Option.mem_toList]
      split at hlabel
      · exact .inl hlabel
      · exact .inr hlabel
  | choice prompt options =>
      rw [execute] at h
      split at h <;> cases h
  | waitForFlag name value =>
      rw [execute] at h
      split at h <;> cases h
  | highlight anchor maskInput => cases maskInput <;> cases h
  | _ => cases h

/-- Only a choice without options breaks the run off by itself. -/
theorem emptyChoice_of_execute {r : Run} {p : Progress} {s : Step} {diagnostic : Diagnostic}
    (h : (r.execute p s).flow = .abort diagnostic) :
    diagnostic = .emptyChoice r.index ∧ ∃ prompt, s = .choice prompt [] := by
  have toLabel_ne_abort (label : Option String) : Flow.toLabel label ≠ .abort diagnostic := by
    cases label <;> rintro ⟨⟩
  cases s with
  | choice prompt options =>
      rw [execute] at h
      split at h
      · next hempty =>
        cases h
        exact ⟨rfl, prompt, hempty ▸ rfl⟩
      · cases h
  | branch flag thenLabel elseLabel | checkCounter counter min max thenLabel elseLabel =>
      exact absurd h (toLabel_ne_abort _)
  | waitForFlag name value =>
      rw [execute] at h
      split at h <;> cases h
  | highlight anchor maskInput => cases maskInput <;> cases h
  | _ => cases h

/-- What a run is broken off for in going where a step leads. -/
theorem diagnostic_of_follow {r : Run} {p : Progress} {flow : Flow} {ending : Ending}
    {diagnostic : Diagnostic} (hmem : .ended ending ∈ (r.follow p flow).2)
    (hdiagnostic : ending.diagnostic = some diagnostic) :
    flow = .abort diagnostic ∨ ∃ target, flow = .jump target ∧
      .label target ∉ r.scene.steps ∧ diagnostic = .undefinedLabel r.index target := by
  cases flow with
  | next | suspend => cases hmem
  | finish =>
      cases List.mem_singleton.mp hmem
      cases hdiagnostic
  | abort other =>
      cases List.mem_singleton.mp hmem
      cases hdiagnostic
      exact .inl rfl
  | jump target =>
      rw [follow, jump] at hmem
      cases hlabel : Scene.findLabel? r.scene.steps target with
      | some index => rw [hlabel] at hmem; cases hmem
      | none =>
          rw [hlabel] at hmem
          cases List.mem_singleton.mp hmem
          cases hdiagnostic
          exact .inr ⟨target, rfl, Scene.findLabel?_eq_none_iff.mp hlabel, rfl⟩

/-- **Going where a step leads breaks the run off only for what was found.** -/
theorem foreseen_of_follow {r : Run} {p : Progress} {flow : Flow} {s : Step} {ending : Ending}
    {diagnostic : Diagnostic} (hs : r.currentStep? = some s)
    (hjump : ∀ target, flow = .jump target → target ∈ s.jumpTargets)
    (habort : ∀ diagnostic, flow = .abort diagnostic →
      diagnostic = .emptyChoice r.index ∧ ∃ prompt, s = .choice prompt [])
    (hmem : .ended ending ∈ (r.follow p flow).2)
    (hdiagnostic : ending.diagnostic = some diagnostic) : diagnostic.Foreseen r.scene := by
  rcases diagnostic_of_follow hmem hdiagnostic with hflow | ⟨target, hflow, hlabel, rfl⟩
  · obtain ⟨rfl, prompt, rfl⟩ := habort diagnostic hflow
    exact Scene.emptyChoice_mem_lint hs
  · exact ⟨s, hs, Scene.undefinedLabel_mem_lint hs (hjump target hflow) hlabel⟩

/-! ### Courses -/

/-- Whatever the effects break the run off for has been found in its scene. -/
def Foresees (scene : Scene) (r : Run) (es : List Effect) : Prop :=
  r.scene = scene ∧ ∀ ending diagnostic, .ended ending ∈ es →
    ending.diagnostic = some diagnostic → diagnostic.Foreseen scene

namespace Foresees

variable {scene : Scene} {r r' : Run} {es more : List Effect}

/-- What is foreseen of two turns is foreseen of them together. -/
theorem append (h : Foresees scene r es) (hmore : Foresees scene r' more) :
    Foresees scene r' (es ++ more) :=
  ⟨hmore.1, fun ending diagnostic hmem =>
    (List.mem_append.mp hmem).elim (h.2 ending diagnostic) (hmore.2 ending diagnostic)⟩

/-- Effects that do not end the run do not matter. -/
theorem of_not_mem (hscene : r.scene = scene) (hes : ∀ ending, .ended ending ∉ es) :
    Foresees scene r es :=
  ⟨hscene, fun ending _ hmem => absurd hmem (hes ending)⟩

/-- Showing something breaks nothing off. -/
theorem present (h : Foresees scene r es) : Foresees scene r.present.1 (es ++ r.present.2) := by
  refine h.append (.of_not_mem ((scene_present r).trans h.1) fun ending hmem => ?_)
  obtain ⟨presented, shown, heq, hshown⟩ := r.exists_present
  rw [heq] at hmem
  obtain ⟨s, hs⟩ := hshown _ hmem
  cases hs

/-- An ending is foreseen if its diagnostic is. -/
theorem finish (h : Foresees scene r es) (p : Progress) (reason : EndReason)
    {diagnostic : Option Diagnostic} (hdiagnostic : ∀ d, diagnostic = some d → d.Foreseen scene) :
    Foresees scene (r.finish p reason diagnostic).1
      (es ++ (r.finish p reason diagnostic).2) := by
  refine h.append ⟨h.1, fun ending d hmem hd => ?_⟩
  cases List.mem_singleton.mp hmem
  exact hdiagnostic d hd

end Foresees

/-- **The strokes of a running run break it off only for what was found.** -/
theorem Lasting.foresees (scene : Scene) : Lasting fun r _ es => Foresees scene r es where
  execute {r p es s} _ hs h := by
    dsimp only
    generalize hr : { r with snapshot.sound := none } = r'
    have hscene : r'.scene = scene := by rw [← hr]; exact h.1
    have hs' : r'.currentStep? = some s := by rw [← hr]; exact hs
    have hsame := (same_follow (r'.execute p s).run (r'.execute p s).progress
      (r'.execute p s).flow).2
    rw [scene_execute] at hsame
    refine (h.append (.of_not_mem (r := r) h.1 (ended_not_mem_execute r' p s))).append
      ⟨hsame.trans hscene, fun ending diagnostic hmem hdiagnostic => ?_⟩
    have hcurrent : (r'.execute p s).run.currentStep? = some s := by
      rw [currentStep?, scene_execute, index_execute]
      exact hs'
    have hforeseen := foreseen_of_follow hcurrent (fun _ => mem_jumpTargets_of_execute)
      (fun _ habort => by rw [index_execute]; exact emptyChoice_of_execute habort) hmem hdiagnostic
    rw [scene_execute, hscene] at hforeseen
    exact hforeseen
  finish reason diagnostic hexpires _ h := by
    refine h.finish _ reason ?_
    cases hexpires with
    | completed => rintro d ⟨⟩
    | budget => rintro d ⟨⟩; rfl
  present h := h.present

/-- An option is one of the jumps of its choice. -/
theorem Resumes.foresees {r r' : Run} {p p' : Progress} {es : List Effect}
    (hr : r.Resumes p r' p' es) : Foresees r.scene r' es := by
  have hscene := hr.same.2
  cases hr with
  | @choice prompt options option hstate hstep hoption =>
      have hwritten := ended_not_mem_writeFlags p option.setFlags
      refine (Foresees.of_not_mem (r := r) rfl hwritten).append
        ⟨hscene, fun ending diagnostic hmem hdiagnostic => ?_⟩
      refine foreseen_of_follow (r := { r with snapshot.choice := none }.resume)
        (s := .choice prompt options) hstep (fun target hflow => ?_) (fun _ hflow => ?_) hmem
        hdiagnostic
      · exact List.mem_filterMap.mpr ⟨option, hoption, eq_some_of_toLabel_eq_jump hflow⟩
      · cases hgoto : option.goto <;> (rw [hgoto] at hflow; cases hflow)
  | line | highlight | timer | flag => exact .of_not_mem hscene fun _ => List.not_mem_nil

/-- **Whatever a run is told, it is broken off only for what was found.** -/
theorem Course.foreseen {r₀ r : Run} {es : List Effect} (h : Course r₀ es r) :
    Foresees r₀.scene r es := by
  induction h with
  | nil => exact .of_not_mem rfl fun _ => List.not_mem_nil
  | @advance es r _ p ih =>
      exact (Lasting.foresees r₀.scene).advance es ih
  | @answer es r _ p turn hturn ih =>
      refine ih.append ?_
      rw [← ih.1]
      exact (Lasting.foresees r.scene).answers hturn fun _ _ _ hr => hr.foresees
  | @interrupt es r _ p ih =>
      rw [Run.interrupt]
      split
      · dsimp only
        rw [← List.append_assoc]
        exact (ih.finish p .interrupted (by rintro d ⟨⟩)).present
      · rw [List.append_nil]
        exact ih
  | @applyGeometry es r _ ticket rect ih =>
      obtain ⟨highlight, state, presented, heq⟩ := r.exists_applyGeometry ticket rect
      refine ih.append (.of_not_mem ?_ fun ending hmem => ?_)
      · rw [heq]
        exact ih.1
      · obtain ⟨s, -, hs⟩ := Option.map_eq_some_iff.mp (Option.mem_toList.mp hmem)
        cases hs

end Run

/-! ### Words -/

namespace Diagnostic

/-- The first letter of the words of a diagnostic, which tells the kind of it. -/
def initial : Diagnostic → Char
  | undefinedLabel .. => 's'
  | emptyChoice _ => 'c'
  | budget _ => 'e'

/-- A text begins as its front part does. -/
theorem head?_append {front : String} {c : Char} (hfront : front.toList.head? = some c)
    (back : String) : (front ++ back).toList.head? = some c := by
  rw [String.toList_append, List.head?_append, hfront, Option.some_or]

/-- The words of a diagnostic begin with the letter of its kind. -/
theorem head?_message : ∀ d : Diagnostic, d.message.toList.head? = some d.initial
  | undefinedLabel .. =>
      head?_append (head?_append (head?_append (head?_append rfl _) _) _) _
  | emptyChoice _ | budget _ => head?_append (head?_append rfl _) _

/-- The words of a jump that leads nowhere, taken apart at the number. -/
theorem message_undefinedLabel (index : Nat) (target : String) :
    message (.undefinedLabel index target) =
      "step " ++ toString index ++ (" jumps to undefined label `" ++ (target ++ "`")) :=
  (String.append_assoc ..).trans (String.append_assoc ..)

/-- **The words of a diagnostic tell which one it is**: its first letter tells the kind, and the
number and the label stand between fixed words. -/
theorem message_injective : Function.Injective message := by
  intro a b h
  have hinitial : a.initial = b.initial :=
    Option.some.inj (by rw [← head?_message, h, head?_message])
  cases a with
  | undefinedLabel m target =>
      cases b with
      | undefinedLabel n other =>
          have hback (label : String) : Stops Char.isDigit
              (" jumps to undefined label `" ++ (label ++ "`")).toList := by
            rw [String.toList_append]
            exact stops_cons (by decide)
          rw [message_undefinedLabel, message_undefinedLabel] at h
          obtain ⟨rfl, hlabel⟩ := append_toString_inj (hback target) (hback other) h
          rw [String.append_right_inj, String.append_left_inj] at hlabel
          rw [hlabel]
      | _ => simp [initial] at hinitial
  | emptyChoice m =>
      cases b with
      | emptyChoice n =>
          have hback : Stops Char.isDigit " has no options".toList := stops_cons (by decide)
          rw [(append_toString_inj hback hback h).1]
      | _ => simp [initial] at hinitial
  | budget m =>
      cases b with
      | budget n =>
          have hback : Stops Char.isDigit " steps without suspending".toList :=
            stops_cons (by decide)
          rw [(append_toString_inj hback hback h).1]
      | _ => simp [initial] at hinitial

end Diagnostic

/-- A defect for which a run can be broken off. -/
def Finding.breaksOff : Finding → Bool
  | undefinedLabel .. | emptyChoice _ => true
  | duplicateLabel _ | noTriggers => false

namespace Run

/-- **Lint reports whatever a run is broken off for**, apart from the budget: the very step and the
very label of a jump that leads nowhere, and the very step of an empty choice. So a scene with no
such finding is never broken off, except by the budget, whatever its run is told. -/
theorem Course.reported_by_lint {id : Uuid} {scene : Scene} {p : Progress} {r : Run}
    {es : List Effect} (h : Course (start id scene p) es r) {ending : Ending}
    {diagnostic : Diagnostic} (hmem : .ended ending ∈ es)
    (hdiagnostic : ending.diagnostic = some diagnostic) :
    (∀ (index : Nat) (target : String), diagnostic.message =
        "step " ++ toString index ++ " jumps to undefined label `" ++ target ++ "`" →
      ∃ step : Step, scene.steps[index]? = some step ∧
        "step " ++ toString index ++ " (" ++ step.kind ++ ") jumps to undefined label `" ++
          target ++ "`" ∈ scene.lint.map Finding.message) ∧
    (∀ index : Nat,
      diagnostic.message = "choice at step " ++ toString index ++ " has no options" →
      "step " ++ toString index ++ " (choice) has no options" ∈
        scene.lint.map Finding.message) ∧
    ((∀ finding ∈ scene.lint, finding.breaksOff = false) → diagnostic = .budget budget) := by
  have hforeseen : diagnostic.Foreseen scene := h.foreseen.2 ending diagnostic hmem hdiagnostic
  refine ⟨fun index target hmessage => ?_, fun index hmessage => ?_, fun hclean => ?_⟩
  · obtain rfl : diagnostic = .undefinedLabel index target :=
      Diagnostic.message_injective hmessage
    obtain ⟨step, hstep, hfound⟩ := hforeseen
    exact ⟨step, hstep, List.mem_map.mpr ⟨_, hfound, rfl⟩⟩
  · obtain rfl : diagnostic = .emptyChoice index :=
      Diagnostic.message_injective hmessage
    exact List.mem_map.mpr ⟨_, hforeseen, rfl⟩
  · cases diagnostic with
    | undefinedLabel index target =>
        obtain ⟨step, -, hfound⟩ := hforeseen
        cases hclean _ hfound
    | emptyChoice index => cases hclean _ hforeseen
    | budget steps => rw [hforeseen]

/-- A scene with a choice one of whose options leads nowhere. -/
def dike : Scene where
  id := "dike"
  steps := [.label "top", .choice (some "Stay?") [{ label := "yes" },
    { label := "no", goto := some "shore" }]]

/-- A run that takes the option. -/
theorem reported_at_dike :
    ∃ es r ending diagnostic, Course (start default dike .empty) es r ∧ .ended ending ∈ es ∧
      ending.diagnostic = some diagnostic ∧
      diagnostic.message = "step 1 jumps to undefined label `shore`" ∧
      "step 1 (choice) jumps to undefined label `shore`" ∈ dike.lint.map Finding.message := by
  obtain ⟨turn, ending, hturn, hmem, hdiagnostic⟩ : ∃ turn ending,
      ((start default dike .empty).advance .empty).run.choose .empty 1 = .ok turn ∧
        .ended ending ∈ turn.effects ∧ ending.diagnostic = some (.undefinedLabel 1 "shore") :=
    ⟨_, _, rfl, .head _, rfl⟩
  have hcourse := (Course.nil.advance .empty).answer (.choose 1 hturn)
  have hended := List.mem_append_right
    ([] ++ ((start default dike .empty).advance .empty).effects) hmem
  obtain ⟨step, hstep, hfound⟩ :=
    (hcourse.reported_by_lint hended hdiagnostic).1 1 "shore" rfl
  cases hstep
  exact ⟨_, _, ending, _, hcourse, hended, hdiagnostic, rfl, hfound⟩

end Run

end Cutscene
