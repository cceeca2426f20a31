import Cutscene.Proofs.Run.Path
import Cutscene.Proofs.Run.Renaming

/-!
# Scenes That Are Played Alike

A run looks at its scene only for the step at its place, for the place of a label that it jumps to,
and for the id. So two scenes are played alike if they have the same id, if at every place stands
the same step or one that does the same, and if the labels that their steps name are found at the
same places (`Scene.PlayedAs`). Any label does what any other does, and the end behind the last step
does what a step does that ends the scene.

Put into the other scene (`Run.withScene`), a run goes through the same strokes, and so nothing that
is done to the one run and to the other tells the two apart.

## Main results

* `Run.step_withScene`, `Run.operate?_withScene`: one step, and one operation, in the other scene.
* `Scene.PlayedAs.indistinguishable`: runs of scenes that are played alike.
* `Run.indistinguishable_closed`: a scene may end with or without a step that ends it.
* `Run.indistinguishable_relabel`: a label that is defined before may have any other name.
-/

namespace Cutscene

/-- Steps, or the ends behind the last step, that do the same. -/
inductive DoAlike : Option Step → Option Step → Prop
  | same (s : Option Step) : DoAlike s s
  | label (name other : String) : DoAlike (some (.label name)) (some (.label other))
  | finish : DoAlike none (some .finish)

/-- The first scene is played as the second one is. -/
structure Scene.PlayedAs (s t : Scene) : Prop where
  id_eq : t.id = s.id
  alike : ∀ i : Nat, DoAlike s.steps[i]? t.steps[i]?
  /-- The labels that steps jump to are found where they were. -/
  findLabel?_eq : ∀ step ∈ s.steps, ∀ target ∈ step.jumpTargets,
    findLabel? t.steps target = findLabel? s.steps target

/-- What is told of a turn. -/
def Turn.told (turn : Turn) : Progress × List Effect := (turn.progress, turn.effects)

namespace Run

/-- A run put into another scene. -/
def withScene (t : Scene) (r : Run) : Run := { r with scene := t }

/-- A run put into another scene, and the same effects. -/
def inScene (t : Scene) (x : Run × List Effect) : Run × List Effect := (x.1.withScene t, x.2)

end Run

/-- A turn put into another scene. -/
def Turn.withScene (t : Scene) (turn : Turn) : Turn := { turn with run := turn.run.withScene t }

namespace Run

variable {r : Run} {p : Progress} {t : Scene}

/-- The state is the same in the other scene. -/
@[simp] theorem state_withScene (t : Scene) (r : Run) : (r.withScene t).state = r.state := rfl

/-! ### Strokes -/

/-- The same is handed over. -/
theorem present_withScene (t : Scene) (r : Run) :
    (r.withScene t).present = inScene t r.present := by
  change (if r.presented.any (·.looksLike r.view) = true then _ else _) =
    inScene t (if r.presented.any (·.looksLike r.view) = true then _ else _)
  split <;> rfl

/-- The run ends in the same way, since the scenes have one id. -/
theorem finish_withScene (hid : t.id = r.scene.id) (p : Progress) (reason : EndReason)
    (diagnostic : Option Diagnostic) :
    (r.withScene t).finish p reason diagnostic = inScene t (r.finish p reason diagnostic) := by
  have hscene : (r.withScene t).scene.id = r.scene.id := hid
  rw [finish, finish, hscene]
  rfl

/-- It goes to the same place if the label that it may jump to is found there. -/
theorem follow_withScene (hid : t.id = r.scene.id) {flow : Flow}
    (hlabel : ∀ target, flow = .jump target →
      Scene.findLabel? t.steps target = Scene.findLabel? r.scene.steps target) (p : Progress) :
    (r.withScene t).follow p flow = inScene t (r.follow p flow) := by
  cases flow with
  | next => rfl
  | suspend state => rfl
  | finish => exact finish_withScene hid p _ _
  | abort diagnostic => exact finish_withScene hid p _ _
  | jump target =>
      have hfound : Scene.findLabel? (r.withScene t).scene.steps target =
          Scene.findLabel? r.scene.steps target := hlabel target rfl
      change (r.withScene t).jump p target = inScene t (r.jump p target)
      rw [jump, jump, hfound]
      cases Scene.findLabel? r.scene.steps target with
      | some index => rfl
      | none => exact finish_withScene hid p _ _

/-- A given step does the same in any scene. -/
theorem execute_withScene (t : Scene) (r : Run) (p : Progress) (s : Step) :
    (r.withScene t).execute p s =
      { r.execute p s with run := (r.execute p s).run.withScene t } := by
  cases s with
  | choice prompt options => rw [execute, execute]; split <;> rfl
  | _ => rfl

/-- What the run does at its place, it does in the other scene too. -/
structure PlayedHere (r : Run) (t : Scene) : Prop where
  id_eq : t.id = r.scene.id
  alike : DoAlike r.currentStep? (r.withScene t).currentStep?
  /-- The labels that the step jumps to are found where they were. -/
  findLabel?_eq : ∀ step, r.currentStep? = some step → ∀ target ∈ step.jumpTargets,
    Scene.findLabel? t.steps target = Scene.findLabel? r.scene.steps target

/-- Where scenes are played alike, they are at each place. -/
theorem playedHere_of_playedAs (h : r.scene.PlayedAs t) : r.PlayedHere t where
  id_eq := h.id_eq
  alike := h.alike r.index
  findLabel?_eq step hs := h.findLabel?_eq step (List.mem_of_getElem? hs)

/-- A given step is executed and left in the same way. -/
theorem tread_withScene (h : r.PlayedHere t) {s : Step} (hs : r.currentStep? = some s)
    (p : Progress) : (r.withScene t).tread p s = inScene t (r.tread p s) := by
  have hquiet : (r.withScene t).hushed = r.hushed.withScene t := rfl
  have hscene : (r.hushed.execute p s).run.scene = r.scene := scene_execute _ _ _
  rw [tread, hquiet, execute_withScene]
  refine follow_withScene (by rw [hscene]; exact h.id_eq) (fun target hflow => ?_) _
  rw [hscene]
  exact h.findLabel?_eq s hs target (mem_jumpTargets_of_execute hflow)

/-! ### Executing steps -/

/-- **A step of a scene, and a step that does the same at the same place of another scene.** -/
theorem step_withScene (h : r.PlayedHere t) (p : Progress) :
    (r.withScene t).step p = (r.step p).withScene t := by
  have halike : DoAlike r.currentStep? (r.withScene t).currentStep? := h.alike
  generalize hs : r.currentStep? = s, ht : (r.withScene t).currentStep? = s' at halike
  cases halike with
  | same =>
      cases s with
      | none =>
          rw [step_of_none hs, step_of_none ht, finish_withScene h.id_eq, inScene,
            present_withScene, inScene]
          rfl
      | some s =>
          have hquiet : (r.withScene t).hushed = r.hushed.withScene t := rfl
          rw [step_of_some hs, step_of_some ht, tread_withScene h hs,
            hquiet, execute_withScene, inScene, present_withScene, inScene]
          rfl
  | label name other =>
      have hsame : (r.withScene t).tread p (.label other) = inScene t (r.tread p (.label name)) :=
        rfl
      rw [step_of_some hs, step_of_some ht, hsame, inScene, present_withScene, inScene]
      rfl
  | finish =>
      have hends : (r.withScene t).tread p .finish =
          inScene t (r.finish p .completed none) :=
        finish_withScene (r := r.hushed) h.id_eq p .completed none
      rw [step_of_none hs, step_of_some ht, hends, inScene, present_withScene, inScene]
      rfl

/-- Induction on the steps that are left. -/
theorem loop_withScene (left : Nat) (h : r.scene.PlayedAs t) (p : Progress) :
    loop left (r.withScene t) p = (loop left r p).withScene t := by
  induction left generalizing r p with
  | zero =>
      rw [loop, loop, state_withScene]
      split
      · rw [finish_withScene h.id_eq, inScene]
        rfl
      · rfl
  | succ left ih =>
      rw [loop, loop, state_withScene]
      split
      · next hrun =>
        have hlater : (r.step p).run.scene.PlayedAs t := by rw [scene_step hrun]; exact h
        have hnow : (r.withScene t).step p = (r.step p).withScene t :=
          step_withScene (playedHere_of_playedAs h) p
        have hloop := ih hlater (r.step p).progress
        dsimp only
        rw [hnow]
        dsimp only [Turn.withScene] at hloop ⊢
        rw [hloop]
      · rfl

/-- The run advances in the same way. -/
theorem advance_withScene (h : r.scene.PlayedAs t) (p : Progress) :
    (r.withScene t).advance p = (r.advance p).withScene t := by
  rw [advance, advance, loop_withScene budget h]
  dsimp only [Turn.withScene]
  rw [present_withScene]
  rfl

/-! ### Operations -/

/-- It goes on behind a step in the same way. -/
theorem proceed_withScene (h : r.scene.PlayedAs t) (p : Progress) :
    (r.withScene t).proceed p = (r.proceed p).withScene t :=
  advance_withScene (r := { r.resume with index := r.index + 1 }) h p

/-- An option that is taken leads to the same turn. -/
theorem takeOption_withScene (h : r.scene.PlayedAs t) (p : Progress)
    {prompt : Option String} {options : List ChoiceOption}
    (hs : r.currentStep? = some (.choice prompt options)) {option : ChoiceOption}
    (hoption : option ∈ options) :
    (r.withScene t).takeOption p option = (r.takeOption p option).withScene t := by
  have hleft (q : Progress) :
      (r.withScene t).leaveChoice q option = inScene t (r.leaveChoice q option) := by
    refine follow_withScene (r := { r with snapshot.choice := none }.resume) h.id_eq
      (fun target hflow => ?_) q
    refine h.findLabel?_eq _ (List.mem_of_getElem? hs) target ?_
    exact List.mem_filterMap.mpr ⟨option, hoption, eq_some_of_toLabel_eq_jump hflow⟩
  have hscene : (r.leaveChoice (writeFlags p option.setFlags).1 option).1.scene = r.scene :=
    (same_follow _ _ _).2
  rw [takeOption, takeOption, hleft, inScene]
  dsimp only
  rw [advance_withScene (by rw [hscene]; exact h)]
  rfl

/-- Where no choice stands, none can be taken. -/
theorem choose_of_ne_choice
    (hs : ∀ prompt options, r.currentStep? ≠ some (.choice prompt options)) (p : Progress)
    (option : Nat) : r.choose p option = .error (.validation "no choice is pending") := by
  rw [choose]
  split
  · next hstep => exact absurd hstep (hs _ _)
  · rfl

/-- Choosing leads to the same turn or the same fault. -/
theorem choose_withScene (h : r.scene.PlayedAs t) (p : Progress) (option : Nat) :
    (r.withScene t).choose p option = (r.choose p option).map (Turn.withScene t) := by
  have halike : DoAlike r.currentStep? (r.withScene t).currentStep? := h.alike r.index
  generalize hs : r.currentStep? = s, ht : (r.withScene t).currentStep? = s' at halike
  cases halike with
  | same =>
      rw [choose, choose, state_withScene, hs, ht]
      split
      · next prompt options hstate =>
        cases hoption : options[option]? with
        | none => rfl
        | some chosen =>
            exact congrArg Except.ok
              (takeOption_withScene h p hs (List.mem_of_getElem? hoption))
      · rfl
  | label name other =>
      rw [choose_of_ne_choice (by rw [ht]; rintro _ _ ⟨⟩),
        choose_of_ne_choice (by rw [hs]; rintro _ _ ⟨⟩)]
      rfl
  | finish =>
      rw [choose_of_ne_choice (by rw [ht]; rintro _ _ ⟨⟩),
        choose_of_ne_choice (by rw [hs]; rintro _ _ ⟨⟩)]
      rfl

/-- A masked highlight stands at the same places. -/
theorem isAtMaskedHighlight_withScene (h : r.scene.PlayedAs t) :
    (r.withScene t).isAtMaskedHighlight = r.isAtMaskedHighlight := by
  have halike : DoAlike r.currentStep? (r.withScene t).currentStep? := h.alike r.index
  rw [isAtMaskedHighlight, isAtMaskedHighlight]
  generalize r.currentStep? = s, (r.withScene t).currentStep? = s' at halike
  cases halike <;> rfl

/-- What follows an acknowledgement is the same. -/
theorem acknowledge?_withScene (h : r.scene.PlayedAs t) (p : Progress) :
    (r.withScene t).acknowledge? p = (r.acknowledge? p).map (Turn.withScene t) := by
  rw [acknowledge?, acknowledge?, state_withScene, isAtMaskedHighlight_withScene h]
  split
  · rw [Option.map_some]
    cases r.isAtMaskedHighlight with
    | false =>
        exact congrArg some (proceed_withScene (r := { r with snapshot.dialogue := none }) h p)
    | true =>
        exact congrArg some (proceed_withScene
          (r := { r with
            highlightTicket := none
            snapshot.dialogue := none
            snapshot.highlight := none
            snapshot.inputMasked := false }) h p)
  · rfl

/-- What follows a timer is the same. -/
theorem resumeTimer?_withScene (h : r.scene.PlayedAs t) (p : Progress) (ticket : Ticket) :
    (r.withScene t).resumeTimer? p ticket = (r.resumeTimer? p ticket).map (Turn.withScene t) := by
  have hticket : (r.withScene t).ticket? = r.ticket? := rfl
  rw [resumeTimer?, resumeTimer?, state_withScene, hticket, proceed_withScene h]
  split
  · split <;> rfl
  · rfl

/-- What follows a change of flags is the same. -/
theorem notifyFlag?_withScene (h : r.scene.PlayedAs t) (p : Progress) :
    (r.withScene t).notifyFlag? p = (r.notifyFlag? p).map (Turn.withScene t) := by
  rw [notifyFlag?, notifyFlag?, state_withScene, proceed_withScene h]
  split
  · split <;> rfl
  · rfl

/-- The run is broken off in the same way. -/
theorem interrupt_withScene (h : r.scene.PlayedAs t) (p : Progress) :
    (r.withScene t).interrupt p = inScene t (r.interrupt p) := by
  rw [interrupt, interrupt, state_withScene]
  split
  · rw [finish_withScene h.id_eq, inScene]
    dsimp only
    rw [present_withScene]
    rfl
  · rfl

/-- The same place is put into the same highlight. -/
theorem applyGeometry_withScene (t : Scene) (r : Run) (ticket : Ticket) (rect : Option Rect) :
    (r.withScene t).applyGeometry ticket rect =
      ((r.applyGeometry ticket rect).1.withScene t, (r.applyGeometry ticket rect).2) := by
  have hticket : (r.withScene t).highlightTicket = some ticket ↔
      r.highlightTicket = some ticket := Iff.rfl
  have hhighlight : (r.withScene t).snapshot.highlight = r.snapshot.highlight := rfl
  rw [applyGeometry, applyGeometry, if_congr hticket rfl rfl, hhighlight]
  split
  · cases r.snapshot.highlight with
    | none => rfl
    | some highlight =>
        have hplaced : ({ r.withScene t with snapshot.highlight := some { highlight with rect } }
            : Run) = (r.locate highlight rect).withScene t := rfl
        dsimp only
        rw [hplaced, present_withScene]
        rfl
  · rfl

/-- **An operation in a scene that is played alike** answers the same. -/
theorem operate?_withScene (h : r.scene.PlayedAs t) (p : Progress) (op : Operation) :
    (r.withScene t).operate? p op = (r.operate? p op).map (Option.map (Turn.withScene t)) := by
  cases op with
  | advance =>
      rw [operate?, operate?, advance_withScene h]
      rfl
  | choose option =>
      rw [operate?, operate?, choose_withScene h]
      cases r.choose p option <;> rfl
  | acknowledge => exact congrArg Except.ok (acknowledge?_withScene h p)
  | resumeTimer ticket => exact congrArg Except.ok (resumeTimer?_withScene h p ticket)
  | notifyFlag => exact congrArg Except.ok (notifyFlag?_withScene h p)
  | interrupt =>
      rw [operate?, operate?, interrupt_withScene h]
      rfl
  | applyGeometry ticket rect =>
      rw [operate?, operate?, applyGeometry_withScene]
      rfl

/-- Every operation does the same. -/
theorem operate_withScene (h : r.scene.PlayedAs t) (p : Progress) (op : Operation) :
    (r.withScene t).operate p op = (r.operate p op).withScene t := by
  rw [operate, operate, operate?_withScene h]
  cases r.operate? p op with
  | error fault => rfl
  | ok answer => cases answer <;> rfl

/-- Any operations, one after the other, in a scene that is played alike. -/
theorem operateAll_withScene (h : r.scene.PlayedAs t) (calls : List (Progress × Operation)) :
    (r.withScene t).operateAll calls = inScene t (r.operateAll calls) := by
  induction calls using List.reverseRecOn with
  | nil => rfl
  | append_singleton calls call ih =>
      have hplayed : (r.operateAll calls).1.scene.PlayedAs t := by rw [scene_operateAll]; exact h
      rw [operateAll_concat, operateAll_concat, ih, inScene, operate_withScene hplayed]
      rfl

/-! ### Runs that nothing tells apart -/

/-- **Nothing that is done to two runs tells them apart.** -/
structure Indistinguishable (r q : Run) : Prop where
  effects_eq : ∀ calls, (q.operateAll calls).2 = (r.operateAll calls).2
  state_eq : ∀ calls, (q.operateAll calls).1.state = (r.operateAll calls).1.state
  ticket?_eq : ∀ calls, (q.operateAll calls).1.ticket? = (r.operateAll calls).1.ticket?
  snapshot_eq : ∀ calls, (q.operateAll calls).1.snapshot = (r.operateAll calls).1.snapshot
  /-- Every operation, whatever was done before, answers the same: with the same progress and
  effects, with nothing, or with the same fault. -/
  told_eq : ∀ (calls : List (Progress × Operation)) (p : Progress) (op : Operation),
    ((q.operateAll calls).1.operate? p op).map (Option.map Turn.told) =
      ((r.operateAll calls).1.operate? p op).map (Option.map Turn.told)

/-- A run and the same run in a scene that is played alike. -/
theorem indistinguishable_withScene (h : r.scene.PlayedAs t) :
    Indistinguishable r (r.withScene t) := by
  refine ⟨fun calls => ?_, fun calls => ?_, fun calls => ?_, fun calls => ?_,
    fun calls p op => ?_⟩
  all_goals rw [operateAll_withScene h calls]
  · rfl
  · rfl
  · rfl
  · rfl
  · have hplayed : (r.operateAll calls).1.scene.PlayedAs t := by rw [scene_operateAll]; exact h
    rw [inScene]
    dsimp only
    rw [operate?_withScene hplayed]
    cases (r.operateAll calls).1.operate? p op with
    | error fault => rfl
    | ok answer => cases answer <;> rfl

end Run

/-- **Nothing tells runs of two scenes apart that are played alike.** -/
theorem Scene.PlayedAs.indistinguishable {s t : Scene} (h : s.PlayedAs t) (id : Uuid)
    (p : Progress) : (Run.start id s p).Indistinguishable (Run.start id t p) := by
  have hstart : Run.start id t p = (Run.start id s p).withScene t := by
    rw [Run.start, h.id_eq]
    rfl
  rw [hstart]
  exact Run.indistinguishable_withScene h

namespace Scene

variable {s : Scene} {steps : List Step} {name target : String}

/-! ### Where labels are found -/

/-- A label is found at the first step that defines it. -/
theorem findLabel?_eq_some_iff {i : Nat} :
    findLabel? steps name = some i ↔
      steps[i]? = some (.label name) ∧ ∀ j < i, steps[j]? ≠ some (.label name) := by
  rw [findLabel?, List.findIdx?_eq_some_iff_getElem]
  constructor
  · rintro ⟨hi, hlabel, hfirst⟩
    refine ⟨List.getElem?_eq_some_iff.mpr ⟨hi, of_decide_eq_true hlabel⟩, fun j hj hother => ?_⟩
    obtain ⟨hother, heq⟩ := List.getElem?_eq_some_iff.mp hother
    exact hfirst j hj (decide_eq_true heq)
  · rintro ⟨hlabel, hfirst⟩
    obtain ⟨hi, heq⟩ := List.getElem?_eq_some_iff.mp hlabel
    refine ⟨hi, decide_eq_true heq, fun j hj hother => hfirst j hj ?_⟩
    exact List.getElem?_eq_some_iff.mpr ⟨_, of_decide_eq_true hother⟩

/-- A label is found at the same place in two scenes if the same steps define it. -/
theorem findLabel?_congr {others : List Step}
    (h : ∀ i : Nat, others[i]? = some (.label name) ↔ steps[i]? = some (.label name)) :
    findLabel? others name = findLabel? steps name := by
  refine Option.ext fun i => ?_
  rw [findLabel?_eq_some_iff, findLabel?_eq_some_iff, h i]
  simp only [ne_eq, h]

/-- A label is found at the first step, or else among the others. -/
theorem findLabel?_cons (step : Step) :
    findLabel? (step :: steps) name =
      if step = .label name then some 0 else (findLabel? steps name).map (· + 1) := by
  rw [findLabel?, List.findIdx?_cons, ← findLabel?]
  simp only [decide_eq_true_eq]

/-- A label is noted under its name, unless there is a place under it already. -/
theorem getElem?_noteLabel_self (table : NameMap Nat) (k : Nat) :
    (noteLabel table (.label name, k))[name]? = table[name]?.or (some k) := by
  rw [noteLabel, Std.ExtTreeMap.getElem?_insertIfNew]
  by_cases hname : name ∈ table
  · rw [if_neg fun h => h.2 hname, Std.ExtTreeMap.getElem?_eq_some_getElem hname, Option.some_or]
  · rw [if_pos ⟨Std.ReflCmp.compare_self, hname⟩, Std.ExtTreeMap.getElem?_eq_none hname,
      Option.none_or]

/-- What any other step makes noted is not under the name. -/
theorem getElem?_noteLabel_of_ne {step : Step} (h : step ≠ .label name) (table : NameMap Nat)
    (k : Nat) : (noteLabel table (step, k))[name]? = table[name]? := by
  cases step with
  | label other =>
      rw [noteLabel, Std.ExtTreeMap.getElem?_insertIfNew, if_neg]
      rintro ⟨hname, -⟩
      exact h (congrArg Step.label (Std.LawfulEqCmp.eq_of_compare hname))
  | _ => rfl

/-- In the table that a pass over some steps adds to, a label has the place that it had before, or
else the first one in these steps. Induction on the steps: of each, it is noted or nothing is. -/
theorem getElem?_foldl_noteLabel (table : NameMap Nat) (k : Nat) :
    ((steps.zipIdx k).foldl noteLabel table)[name]? =
      table[name]?.or ((findLabel? steps name).map (· + k)) := by
  induction steps generalizing table k with
  | nil => rw [findLabel?, List.findIdx?_nil, Option.map_none, Option.or_none]; rfl
  | cons step rest ih =>
      rw [List.zipIdx_cons, List.foldl_cons, ih, findLabel?_cons]
      by_cases hstep : step = .label name
      · rw [if_pos hstep, hstep, getElem?_noteLabel_self, Option.or_assoc, Option.some_or,
          Option.map_some, Nat.zero_add]
      · -- Behind another step, each place is one further than among the rest.
        rw [if_neg hstep, getElem?_noteLabel_of_ne hstep, Option.map_map]
        simp only [Function.comp_def, Nat.add_assoc, Nat.add_comm 1]

/-- **The table of labels finds each label where its first definition is.** -/
theorem getElem?_labelTable (steps : List Step) (name : String) :
    (labelTable steps)[name]? = findLabel? steps name := by
  rw [labelTable, getElem?_foldl_noteLabel, Std.ExtTreeMap.getElem?_empty, Option.none_or]
  cases findLabel? steps name <;> rfl

/-! ### An explicit end -/

/-- The scene with a step at its end that ends it. -/
def closed (s : Scene) : Scene := { s with steps := s.steps ++ [.finish] }

/-- At every place of a scene the step is the same with an end put behind, and there an end stands
where there was none. -/
theorem doAlike_closed (s : Scene) (i : Nat) : DoAlike s.steps[i]? s.closed.steps[i]? := by
  rw [closed]
  rcases Nat.lt_trichotomy i s.steps.length with hlt | rfl | hgt
  · rw [List.getElem?_append_left hlt]
    exact .same _
  · rw [List.getElem?_eq_none (Nat.le_refl _), List.getElem?_concat_length]
    exact .finish
  · rw [List.getElem?_eq_none (Nat.le_of_lt hgt), List.getElem?_eq_none]
    · exact .same none
    · rw [List.length_append, List.length_singleton]
      exact hgt

/-- A scene is played alike with an end put behind it. -/
theorem playedAs_closed (s : Scene) : s.PlayedAs s.closed where
  id_eq := rfl
  alike := doAlike_closed s
  findLabel?_eq _ _ target _ := by
    have hend : [Step.finish].findIdx? (fun step => decide (step = .label target)) = none := rfl
    rw [closed, findLabel?, List.findIdx?_append, hend, Option.map_none, Option.or_none]
    rfl

/-! ### Labels that are defined before -/

/-- The scene with another label at a place. -/
def relabel (s : Scene) (k : Nat) (name : String) : Scene :=
  { s with steps := s.steps.set k (.label name) }

/-- A label that is defined before is found where it stands first, and so before the place. -/
theorem findLabel?_set_self {j k : Nat} {fresh : String} (hjk : j < k)
    (hbefore : steps[j]? = some (.label name)) :
    findLabel? (steps.set k (.label fresh)) name = findLabel? steps name := by
  cases hfound : findLabel? steps name with
  | none => exact absurd (List.mem_of_getElem? hbefore) (findLabel?_eq_none_iff.mp hfound)
  | some i =>
      obtain ⟨hi, hfirst⟩ := findLabel?_eq_some_iff.mp hfound
      have hij : i ≤ j := Nat.le_of_not_lt fun hlt => hfirst j hlt hbefore
      refine findLabel?_eq_some_iff.mpr ⟨?_, fun l hl => ?_⟩
      · rw [List.getElem?_set_ne (by omega)]
        exact hi
      · rw [List.getElem?_set_ne (by omega)]
        exact hfirst l hl

/-- Any other label is found where it was. -/
theorem findLabel?_set_of_ne {k : Nat} {fresh : String} (hlabel : steps[k]? = some (.label name))
    (hname : target ≠ name) (hfresh : target ≠ fresh) :
    findLabel? (steps.set k (.label fresh)) target = findLabel? steps target := by
  refine findLabel?_congr fun i => ?_
  rw [List.getElem?_set]
  split
  · next heq =>
    rw [← heq, hlabel, if_pos (List.getElem?_eq_some_iff.mp hlabel).1]
    simp [hfresh.symm, hname.symm]
  · exact Iff.rfl

/-- A label that is defined before may have any name that no step jumps to. -/
theorem playedAs_relabel {j k : Nat} {fresh : String} (hlabel : s.steps[k]? = some (.label name))
    (hjk : j < k) (hbefore : s.steps[j]? = some (.label name))
    (htargets : ∀ step ∈ s.steps, fresh ∉ step.jumpTargets) : s.PlayedAs (s.relabel k fresh) where
  id_eq := rfl
  alike i := by
    rw [relabel, List.getElem?_set]
    split
    · next heq =>
      rw [← heq, hlabel, if_pos (List.getElem?_eq_some_iff.mp hlabel).1]
      exact .label name fresh
    · exact .same _
  findLabel?_eq step hstep target htarget := by
    by_cases hname : target = name
    · rw [hname]
      exact findLabel?_set_self hjk hbefore
    · exact findLabel?_set_of_ne hlabel hname fun h => htargets step hstep (h ▸ htarget)

/-- Where the jumps in a scene lead. -/
structure JumpsToFirst (s : Scene) : Prop where
  /-- A jump goes on at the first label of the name. -/
  lands : ∀ (r : Run) (p : Progress) (target : String) (i : Nat), r.scene = s →
    s.steps[i]? = some (.label target) → (∀ j < i, s.steps[j]? ≠ some (.label target)) →
      r.follow p (.jump target) = ({ r with index := i }, [])
  /-- Where no step defines the label, it breaks the run off. -/
  breaks_off : ∀ (r : Run) (p : Progress) (target : String), r.scene = s →
    .label target ∉ s.steps → r.follow p (.jump target) =
      r.finish p .interrupted (some (.undefinedLabel r.index target))
  /-- Otherwise it does not end the run. -/
  ends_iff : ∀ (r : Run) (p : Progress) (target : String), r.scene = s →
    ((∃ ending, .ended ending ∈ (r.follow p (.jump target)).2) ↔ .label target ∉ s.steps)

/-- **Jumps lead to the first label of a name.** -/
theorem jumpsToFirst (s : Scene) : s.JumpsToFirst := by
  constructor
  · rintro r p target i rfl hlabel hfirst
    rw [Run.follow, Run.jump, findLabel?_eq_some_iff.mpr ⟨hlabel, hfirst⟩]
  · rintro r p target rfl hlabel
    rw [Run.follow, Run.jump, findLabel?_eq_none_iff.mpr hlabel]
  · rintro r p target rfl
    rw [← findLabel?_eq_none_iff, Run.follow, Run.jump]
    cases findLabel? r.scene.steps target with
    | none => exact ⟨fun _ => rfl, fun _ => ⟨_, List.mem_singleton.mpr rfl⟩⟩
    | some i =>
        constructor
        · rintro ⟨ending, hmem⟩
          cases hmem
        · rintro ⟨⟩

end Scene

namespace Run

/-- **Running past the last step is the same as a step that ends the scene.** -/
theorem indistinguishable_closed (id : Uuid) (scene : Scene) (p : Progress) :
    (start id scene p).Indistinguishable (start id scene.closed p) :=
  scene.playedAs_closed.indistinguishable id p

/-- **A label that is defined before is inert**: it may have any other name, and jumps lead to the
first label of a name. -/
theorem indistinguishable_relabel (id : Uuid) (scene : Scene) (p : Progress) {j k : Nat}
    {name fresh : String} (hlabel : scene.steps[k]? = some (.label name)) (hjk : j < k)
    (hbefore : scene.steps[j]? = some (.label name))
    (htargets : ∀ step ∈ scene.steps, fresh ∉ step.jumpTargets) :
    (start id scene p).Indistinguishable (start id (scene.relabel k fresh) p) ∧
      scene.JumpsToFirst :=
  ⟨(Scene.playedAs_relabel hlabel hjk hbefore htargets).indistinguishable id p,
    scene.jumpsToFirst⟩

/-- A scene with two gates, the second of which nothing leads to. -/
def twoGates : Scene where
  id := "two gates"
  steps := [.goto "gate", .label "gate", .finish, .label "gate"]

/-- The second gate may be called anything else. -/
theorem indistinguishable_twoGates :
    (twoGates.steps[3]? = some (.label "gate") ∧ twoGates.steps[1]? = some (.label "gate") ∧
      ∀ step ∈ twoGates.steps, "ruin" ∉ step.jumpTargets) ∧
    (start default twoGates .empty).Indistinguishable
      (start default (twoGates.relabel 3 "ruin") .empty) := by
  have htargets : ∀ step ∈ twoGates.steps, "ruin" ∉ step.jumpTargets := by decide
  have hplaces : 1 < 3 := by decide
  exact ⟨⟨rfl, rfl, htargets⟩,
    (indistinguishable_relabel default twoGates .empty rfl hplaces rfl htargets).1⟩

end Run

end Cutscene
