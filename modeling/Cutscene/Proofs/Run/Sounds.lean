import Cutscene.Proofs.Run.Path
import Cutscene.Proofs.Run.Showing

/-!
# How Sounds Are Announced

A step may cue a sound, which is shown until the next step is executed. A host hears of the cue by
the snapshot that is handed over behind the step. But a snapshot is handed over only if it looks
different from the one before. A cue that directly repeats the one before leaves everything as it
is, and so the sound is not heard again; behind any other step it is.

* `freshCues last steps`: the sounds that some steps cue, less direct repetitions, where the step
  before them has cued `last`.
* `sounds es`: the sounds that are heard among some effects, in order.
* `Run.Announces exact last steps heard`: all fresh cues are heard, and nothing but cues, each at
  most once; under the condition `exact` the fresh ones are all that is heard. A highlight at a
  place that is no place looks different all the time, and so the condition is that places are
  numeric.

## Main results

* `Run.announces_step`, `Run.announces_loop`: what is heard of one step, and of all.
* `Run.heard_operateAll`: what is heard of a run, whatever is done to it.
* `Run.announced_operateAll`: how often each sound is announced.
-/

namespace Cutscene

/-! ### Cues -/

/-- The sound that a step cues. -/
def Step.sound? : Step → Option String
  | playSound sound => some sound
  | _ => none

/-- Only a step that plays a sound cues it. -/
theorem Step.sound?_eq_some_iff {s : Step} {sound : String} :
    s.sound? = some sound ↔ s = .playSound sound := by
  cases s with
  | playSound other => simp [sound?]
  | _ => simp [sound?]

/-- The sounds that some steps cue. -/
def cues (steps : List Step) : List String := steps.filterMap Step.sound?

/-- The sound that a step cues, unless it is the one that was cued last. -/
def Step.freshCue? (last : Option String) (s : Step) : Option String :=
  if s.sound? = last then none else s.sound?

/-- The sounds that some steps cue, each where it is not the one that the step before has cued. -/
def freshCues : (last : Option String) → List Step → List String
  | _, [] => []
  | last, s :: steps => (s.freshCue? last).toList ++ freshCues s.sound? steps

/-- What the last of some steps cues. -/
def lastCue (last : Option String) (steps : List Step) : Option String :=
  steps.foldl (fun _ s => s.sound?) last

/-- What is cued last is told step by step. -/
@[simp] theorem lastCue_append (last : Option String) (xs ys : List Step) :
    lastCue last (xs ++ ys) = lastCue (lastCue last xs) ys := List.foldl_append

/-- The cues of two rows of steps come one row after the other. -/
@[simp] theorem cues_append (xs ys : List Step) : cues (xs ++ ys) = cues xs ++ cues ys :=
  List.filterMap_append

/-- So do the fresh ones, where the second row hears what the first one has cued last. -/
@[simp] theorem freshCues_append (last : Option String) (xs ys : List Step) :
    freshCues last (xs ++ ys) = freshCues last xs ++ freshCues (lastCue last xs) ys := by
  induction xs generalizing last with
  | nil => rfl
  | cons s xs ih => rw [List.cons_append, freshCues, ih, freshCues, List.append_assoc]; rfl

/-- A single step cues what is fresh of it. -/
@[simp] theorem freshCues_singleton (last : Option String) (s : Step) :
    freshCues last [s] = (s.freshCue? last).toList := List.append_nil _

/-- How often a sound is cued by a step directly behind another one that cues it. -/
def repetitions (steps : List Step) (sound : String) : Nat :=
  (steps.zip steps.tail).count (.playSound sound, .playSound sound)

/-- A step cues a sound once, if it plays it. -/
theorem count_toList_sound? (s : Step) (sound : String) :
    s.sound?.toList.count sound = if s = .playSound sound then 1 else 0 := by
  by_cases hs : s = .playSound sound
  · rw [if_pos hs, Step.sound?_eq_some_iff.mpr hs, Option.toList_some, List.count_singleton_self]
  · rw [if_neg hs, List.count_eq_zero, Option.mem_toList, Step.sound?_eq_some_iff]
    exact hs

/-- The first step cues first. -/
theorem cues_cons (s : Step) (steps : List Step) :
    cues (s :: steps) = s.sound?.toList ++ cues steps := by
  rw [cues, List.filterMap_cons]
  cases s.sound? <;> rfl

/-- A sound is cued as often as there are steps that play it. -/
theorem count_cues (steps : List Step) (sound : String) :
    (cues steps).count sound = steps.count (.playSound sound) := by
  induction steps with
  | nil => rfl
  | cons s steps ih =>
      rw [cues_cons, List.count_append, ih, count_toList_sound?, List.count_cons, Nat.add_comm]
      simp only [beq_iff_eq]

/-- A cue that is not fresh is a direct repetition. -/
theorem count_freshCue? (s t : Step) (sound : String) :
    (t.freshCue? s.sound?).toList.count sound +
        (if (s, t) = (.playSound sound, .playSound sound) then 1 else 0) =
      t.sound?.toList.count sound := by
  have hpair : (s, t) = (.playSound sound, .playSound sound) ↔
      s.sound? = some sound ∧ t.sound? = some sound := by
    rw [Prod.mk.injEq, Step.sound?_eq_some_iff, Step.sound?_eq_some_iff]
  rw [Step.freshCue?]
  split
  · next hsame =>
    rw [← hsame, and_self, Step.sound?_eq_some_iff] at hpair
    rw [Option.toList_none, List.count_nil, Nat.zero_add, count_toList_sound?]
    simp only [hpair]
  · next hdiffers =>
    have hfresh : ¬(s, t) = (.playSound sound, .playSound sound) := fun h =>
      hdiffers ((hpair.mp h).2.trans (hpair.mp h).1.symm)
    rw [if_neg hfresh, Nat.add_zero]

/-- The cues behind a step are the fresh ones and the direct repetitions. -/
theorem count_cues_eq (s : Step) (steps : List Step) (sound : String) :
    (cues steps).count sound =
      (freshCues s.sound? steps).count sound + repetitions (s :: steps) sound := by
  induction steps generalizing s with
  | nil => rfl
  | cons t steps ih =>
      have hpairs : repetitions (s :: t :: steps) sound =
          (if (s, t) = (.playSound sound, .playSound sound) then 1 else 0) +
            repetitions (t :: steps) sound := by
        rw [repetitions, List.tail_cons, List.zip_cons_cons, List.count_cons, Nat.add_comm]
        simp only [beq_iff_eq]
        rfl
      have hcue := count_freshCue? s t sound
      rw [cues_cons, freshCues, List.count_append, List.count_append, ih t, hpairs, ← hcue]
      omega

/-- **The cues are the fresh ones and the direct repetitions.** -/
theorem count_eq_freshCues (steps : List Step) (sound : String) :
    steps.count (.playSound sound) =
      (freshCues none steps).count sound + repetitions steps sound := by
  rw [← count_cues]
  cases steps with
  | nil => rfl
  | cons s steps =>
      have hfirst : s.freshCue? none = s.sound? := by
        rw [Step.freshCue?]
        split
        · next h => exact h.symm
        · rfl
      rw [cues_cons, freshCues, hfirst, List.count_append, List.count_append,
        count_cues_eq s steps]
      omega

/-! ### What is heard -/

/-- The sounds that are heard among some effects. -/
def sounds (es : List Effect) : List String := (snapshots es).filterMap Snapshot.sound

/-- The sounds of two rows of effects are heard one row after the other. -/
@[simp] theorem sounds_append (es fs : List Effect) :
    sounds (es ++ fs) = sounds es ++ sounds fs := by
  rw [sounds, snapshots_append, List.filterMap_append]
  rfl

/-- Where nothing is handed over, nothing is heard. -/
theorem sounds_of_snapshots {es : List Effect} (h : snapshots es = []) : sounds es = [] := by
  rw [sounds, h]
  rfl

/-- How many of the snapshots that are handed over show a sound. -/
def announcements (es : List Effect) (sound : String) : Nat :=
  (snapshots es).countP fun s => s.sound = some sound

/-- A sound is heard as often as it is announced. -/
theorem count_sounds (es : List Effect) (sound : String) :
    (sounds es).count sound = announcements es sound := by
  rw [sounds, List.count_filterMap, announcements]
  exact List.countP_congr fun s _ => by rw [beq_iff_eq, decide_eq_true_iff]

namespace Run

/-- What is heard of some steps, where the step before them has cued `last`. -/
structure Announces (exact : Prop) (last : Option String) (steps : List Step)
    (heard : List String) : Prop where
  /-- Every fresh cue is heard. -/
  fresh_sublist : (freshCues last steps).Sublist heard
  /-- Nothing but cues is heard, in order, and each of them once at most. -/
  sublist_cues : heard.Sublist (cues steps)
  /-- A direct repetition is not heard. -/
  eq_fresh : exact → heard = freshCues last steps

variable {exact : Prop} {last : Option String} {r : Run} {p : Progress}

namespace Announces

variable {xs ys : List Step} {heard more : List String}

/-- Of no steps nothing is heard. -/
theorem nil : Announces exact last [] [] := ⟨.slnil, .slnil, fun _ => rfl⟩

/-- Where no step is executed nothing is heard, whatever was cued before. -/
theorem of_nil (h : Announces exact last [] heard) (other : Option String) :
    Announces exact other [] heard := by
  rw [List.sublist_nil.mp h.sublist_cues]
  exact .nil

/-- What is heard of two rows of steps, where the second one hears what the first has cued last. -/
theorem append (h : Announces exact last xs heard)
    (hmore : Announces exact (lastCue last xs) ys more) :
    Announces exact last (xs ++ ys) (heard ++ more) := by
  refine ⟨?_, ?_, fun hexact => ?_⟩
  · rw [freshCues_append]
    exact h.fresh_sublist.append hmore.fresh_sublist
  · rw [cues_append]
    exact h.sublist_cues.append hmore.sublist_cues
  · rw [freshCues_append, h.eq_fresh hexact, hmore.eq_fresh hexact]

/-- A step without a cue. -/
theorem silent {s : Step} (hs : s.sound? = none) : Announces exact last [s] [] := by
  have hfresh : s.freshCue? last = none := by
    rw [Step.freshCue?, hs]
    split <;> rfl
  have hnone : freshCues last [s] = [] := by rw [freshCues_singleton, hfresh, Option.toList_none]
  exact ⟨by rw [hnone], List.nil_sublist _, fun _ => hnone.symm⟩

/-- A cue that is heard. -/
theorem cue {sound : String} (hlast : exact → last ≠ some sound) :
    Announces exact last [.playSound sound] [sound] := by
  have hsound : (Step.playSound sound).sound? = some sound := rfl
  refine ⟨?_, List.Sublist.refl _, fun hexact => ?_⟩
  · rw [freshCues_singleton, Step.freshCue?, hsound]
    split
    · exact List.nil_sublist _
    · exact List.Sublist.refl _
  · rw [freshCues_singleton, Step.freshCue?, hsound, if_neg (hlast hexact).symm,
      Option.toList_some]

/-- A direct repetition that is not heard. -/
theorem repeated (sound : String) : Announces exact (some sound) [.playSound sound] [] := by
  have hfresh : (Step.playSound sound).freshCue? (some sound) = none := if_pos rfl
  have hnone : freshCues (some sound) [.playSound sound] = [] := by
    rw [freshCues_singleton, hfresh, Option.toList_none]
  exact ⟨by rw [hnone], List.nil_sublist _, fun _ => hnone.symm⟩

end Announces

/-! ### Handing over -/

/-- Presenting does not change the sound. -/
theorem sound_present (r : Run) : r.present.1.snapshot.sound = r.snapshot.sound := by
  obtain ⟨presented, shown, h, -⟩ := r.exists_present
  rw [h]

/-- Only the sound that is shown can be heard. -/
theorem sounds_present_of_none (h : r.snapshot.sound = none) : sounds r.present.2 = [] := by
  rcases r.present_cases with ⟨-, -, -, heq⟩ | ⟨-, heq⟩
  · rw [heq]
    rfl
  · have hview : r.view.sound = none := h
    have hshown : snapshots [.present r.view] = [r.view] := rfl
    rw [heq, sounds, hshown, List.filterMap_cons_none hview, List.filterMap_nil]

/-- Ending hands over nothing by itself. -/
theorem snapshots_finish (r : Run) (p : Progress) (reason : EndReason)
    (diagnostic : Option Diagnostic) : snapshots (r.finish p reason diagnostic).2 = [] := rfl

/-- Nor does going on. -/
theorem snapshots_follow (r : Run) (p : Progress) (flow : Flow) :
    snapshots (r.follow p flow).2 = [] := by
  rcases follow_cases r p flow with
    ⟨state, -, heq⟩ | ⟨-, ⟨index, -, heq⟩ | ⟨reason, diagnostic, heq⟩⟩ <;>
    (rw [heq]; rfl)

/-- The copy of what was handed over last is in tune with the sound that is shown: it has the same
sound, and if there is one, it looks like all that is shown. -/
structure Tuned (r : Run) : Prop where
  sound_eq : ∀ s, r.presented = some s → s.sound = r.snapshot.sound
  looksLike : r.snapshot.sound ≠ none →
    r.snapshot.state = r.state ∧
      ∃ s, r.presented = some s ∧ (s = r.snapshot ∨ s.looksLike r.snapshot = true)

/-- Once the snapshot has been presented, the copy is in tune with it. -/
theorem tuned_present (r : Run) : r.present.1.Tuned := by
  rcases r.present_cases with ⟨s, hs, hlooks, heq⟩ | ⟨-, heq⟩
  · rw [heq]
    refine ⟨fun t ht => ?_, fun _ => ⟨rfl, s, hs, .inr hlooks⟩⟩
    rw [hs, Option.some.injEq] at ht
    rw [← ht]
    exact Snapshot.sound_eq_of_looksLike hlooks
  · rw [heq]
    refine ⟨?_, fun _ => ⟨rfl, r.view, rfl, .inl rfl⟩⟩
    rintro t ⟨⟩
    rfl

/-- A run that shows no sound is in tune if its copy does not show one either. -/
theorem tuned_of_none (hsound : r.snapshot.sound = none)
    (hcopy : ∀ s, r.presented = some s → s.sound = none) : r.Tuned :=
  ⟨fun s hs => by rw [hcopy s hs, hsound], fun h => absurd hsound h⟩

/-! ### One step -/

/-- A step is executed in silence, and then its own sound is shown. -/
theorem sound_execute (r : Run) (p : Progress) (s : Step) :
    (r.hushed.execute p s).run.snapshot.sound = s.sound? := by
  cases s with
  | choice prompt options => rw [execute]; split <;> rfl
  | _ => rfl

/-- Going on leaves the sound of the step, unless the run ends. -/
theorem sound_tread (r : Run) (p : Progress) (s : Step) :
    (r.tread p s).1.snapshot.sound = s.sound? ∨
      (r.tread p s).1.snapshot.sound = none ∧ ∃ reason, (r.tread p s).1.state = .ended reason := by
  have hsound := sound_execute r p s
  rw [tread]
  rcases follow_cases (r.hushed.execute p s).run (r.hushed.execute p s).progress
      (r.hushed.execute p s).flow with
    ⟨state, -, heq⟩ | ⟨-, ⟨index, -, heq⟩ | ⟨reason, diagnostic, heq⟩⟩
  · rw [heq]; exact .inl hsound
  · rw [heq]; exact .inl hsound
  · rw [heq]; exact .inr ⟨rfl, reason, rfl⟩

/-- Behind a step its sound is shown, unless the run has ended. -/
theorem sound_step {s : Step} (hs : r.currentStep? = some s)
    (hactive : (r.step p).run.state.isActive = true) :
    (r.step p).run.snapshot.sound = s.sound? := by
  rw [step_of_some hs] at hactive ⊢
  dsimp only at hactive ⊢
  rw [state_present] at hactive
  rw [sound_present]
  rcases sound_tread r p s with h | ⟨-, reason, hended⟩
  · exact h
  · rw [hended] at hactive
    cases hactive

/-- Only handing over lets a step be heard. -/
theorem sounds_step {s : Step} (hs : r.currentStep? = some s) (p : Progress) :
    sounds (r.step p).effects = sounds (r.tread p s).1.present.2 := by
  have hfollow : sounds (r.tread p s).2 = [] := sounds_of_snapshots (snapshots_follow _ _ _)
  rw [step_of_some hs]
  dsimp only
  rw [sounds_append, sounds_append, sounds_of_snapshots (snapshots_execute _ _ _), hfollow]
  rfl

/-- What there is to see behind a cue. -/
theorem view_tread_playSound (r : Run) (p : Progress) (sound : String) :
    (r.tread p (.playSound sound)).1.view =
      { r.snapshot with sound := some sound, state := r.state } := rfl

/-- Behind a direct repetition everything looks as before. -/
theorem Tuned.looksLike_repeated (h : r.Tuned) (hlegible : r.snapshot.Legible) {sound : String}
    (hlast : r.snapshot.sound = some sound) (p : Progress) :
    ∃ s, r.presented = some s ∧ s.looksLike (r.tread p (.playSound sound)).1.view = true := by
  obtain ⟨hstate, s, hs, hlooks⟩ := h.looksLike (by rw [hlast]; rintro ⟨⟩)
  have hsame : (r.tread p (.playSound sound)).1.view = r.snapshot := by
    rw [view_tread_playSound, ← hstate, ← hlast]
  rw [hsame]
  refine ⟨s, hs, ?_⟩
  rcases hlooks with rfl | hlooks
  · exact Snapshot.looksLike_self hlegible
  · exact hlooks

/-- A cue goes unheard only where the step before has cued the same sound. -/
theorem Tuned.announces_playSound (h : r.Tuned) (hlegible : exact → r.snapshot.Legible)
    (sound : String) (p : Progress) :
    Announces exact r.snapshot.sound [.playSound sound]
      (sounds (r.tread p (.playSound sound)).1.present.2) := by
  have hpresented : (r.tread p (.playSound sound)).1.presented = r.presented := rfl
  rcases (r.tread p (.playSound sound)).1.present_cases with
    ⟨s, hs, hlooks, heq⟩ | ⟨hdiffers, heq⟩
  · have hlast : r.snapshot.sound = some sound := by
      rw [← h.sound_eq s (hpresented.symm.trans hs), Snapshot.sound_eq_of_looksLike hlooks,
        view_tread_playSound]
    rw [heq, hlast]
    exact .repeated sound
  · rw [heq]
    refine .cue fun hexact hlast => ?_
    obtain ⟨s, hs, hlooks⟩ := h.looksLike_repeated (hlegible hexact) hlast p
    rw [hdiffers s (hpresented.trans hs)] at hlooks
    cases hlooks

/-- **What is heard of a step.** -/
theorem announces_step (h : r.Tuned) (hlegible : exact → r.snapshot.Legible) {s : Step}
    (hs : r.currentStep? = some s) (p : Progress) :
    Announces exact r.snapshot.sound [s] (sounds (r.step p).effects) := by
  rw [sounds_step hs]
  cases hcue : s.sound? with
  | none =>
      have hnone : (r.tread p s).1.snapshot.sound = none := by
        rcases sound_tread r p s with hsound | ⟨hsound, -⟩
        · exact hsound.trans hcue
        · exact hsound
      rw [sounds_present_of_none hnone]
      exact .silent hcue
  | some sound =>
      obtain rfl := Step.sound?_eq_some_iff.mp hcue
      exact h.announces_playSound hlegible sound p

/-- Behind the last step nothing is heard. -/
theorem sounds_step_of_none (hs : r.currentStep? = none) (p : Progress) :
    sounds (r.step p).effects = [] := by
  rw [step_of_none hs]
  dsimp only
  rw [sounds_append, sounds_of_snapshots (snapshots_finish _ _ _ _),
    sounds_present_of_none (r := (r.finish p .completed none).1) rfl]
  rfl

/-- After every step the copy is in tune. -/
theorem tuned_step (r : Run) (p : Progress) : (r.step p).run.Tuned := by
  cases hs : r.currentStep? with
  | none => rw [step_of_none hs]; exact tuned_present _
  | some s => rw [step_of_some hs]; exact tuned_present _

/-! ### All steps -/

/-- A snapshot stays legible when the run goes on. -/
theorem legible_follow (h : r.snapshot.Legible) (p : Progress) (flow : Flow) :
    (r.follow p flow).1.snapshot.Legible := by
  rcases follow_cases r p flow with
    ⟨state, -, heq⟩ | ⟨-, ⟨index, -, heq⟩ | ⟨reason, diagnostic, heq⟩⟩
  · rw [heq]; exact h
  · rw [heq]; exact h
  · rw [heq]; exact Snapshot.legible_of_highlight_eq_none rfl

/-- It stays legible through all strokes of a running run. -/
theorem Lasting.legible : Lasting fun r _ _ => r.snapshot.Legible where
  execute {r _ _ _} _ _ h := legible_follow (legible_execute (r := r.hushed) h _ _) _ _
  finish _ _ _ _ _ := Snapshot.legible_of_highlight_eq_none rfl
  present {r _ _} h := by
    obtain ⟨presented, shown, heq, -⟩ := r.exists_present
    rw [heq]
    exact h

/-- **What is heard of all steps that are executed.** Induction on the steps that are left. -/
theorem announces_loop (left : Nat) (h : r.Tuned) (hlegible : exact → r.snapshot.Legible)
    (p : Progress) :
    Announces exact r.snapshot.sound (executed left r p) (sounds (loop left r p).effects) := by
  induction left generalizing r p with
  | zero =>
      rw [executed, loop]
      split <;> exact .nil
  | succ left ih =>
      rw [executed, loop]
      split
      · next hrun =>
        dsimp only
        rw [sounds_append]
        cases hs : r.currentStep? with
        | none =>
            have hstops := state_step_of_none hs p
            rw [executed_of_ne_running hstops, loop_of_ne_running hstops, sounds_step_of_none hs]
            exact .nil
        | some s =>
            have hlater := ih (tuned_step r p)
              (fun hexact => @Lasting.step _ r p [] Lasting.legible hrun (hlegible hexact))
              (r.step p).progress
            rw [Option.toList_some]
            refine (announces_step h hlegible hs p).append ?_
            by_cases hgoes : (r.step p).run.state = .running
            · rw [sound_step hs (by rw [hgoes]; rfl)] at hlater
              exact hlater
            · rw [executed_of_ne_running hgoes] at hlater ⊢
              exact hlater.of_nil _
      · exact .nil

/-- Behind the steps that are executed the sound of the last one is shown, unless the run has
ended. Induction on the steps that are left. -/
theorem sound_loop {left : Nat} (hactive : (loop left r p).run.state.isActive = true) :
    (loop left r p).run.snapshot.sound = lastCue r.snapshot.sound (executed left r p) := by
  induction left generalizing r p with
  | zero =>
      rw [loop] at hactive ⊢
      split at hactive
      · cases hactive
      · next hrun => rw [if_neg hrun]; rfl
  | succ left ih =>
      rw [loop] at hactive ⊢
      rw [executed]
      split at hactive
      · next hrun =>
        rw [if_pos hrun, if_pos hrun]
        dsimp only at hactive ⊢
        have hgoes : (r.step p).run.state.isActive = true := by
          by_cases hstate : (r.step p).run.state = .running
          · rw [hstate]; rfl
          · rw [loop_of_ne_running hstate] at hactive
            exact hactive
        cases hs : r.currentStep? with
        | none =>
            rw [step_of_none hs] at hgoes
            dsimp only at hgoes
            rw [state_present] at hgoes
            cases hgoes
        | some s =>
            rw [ih hactive, sound_step hs hgoes, lastCue_append]
            rfl
      · next hrun => rw [if_neg hrun, if_neg hrun]; rfl

/-! ### Operations -/

/-- Between two operations: what is heard of the steps that have been executed. -/
structure Heard (exact : Prop) (r : Run) (steps : List Step) (es : List Effect) : Prop where
  tuned : r.Tuned
  sound_eq_none : r.snapshot.sound = none
  announces : Announces exact none steps (sounds es)
  /-- The last step has cued no sound, unless the budget was spent on it. -/
  lastCue_eq_none : r.state.isActive = true → lastCue none steps = none

/-- Nothing is heard of an operation that executes no step. -/
theorem heard_nil (htuned : r.Tuned) (hsound : r.snapshot.sound = none) {es : List Effect}
    (hes : sounds es = []) : Heard exact r [] es :=
  ⟨htuned, hsound, by rw [hes]; exact .nil, fun _ => rfl⟩

/-- What is heard of a run that advances is what its script announces. -/
theorem heard_advance (htuned : r.Tuned) (hsound : r.snapshot.sound = none) (hcoherent : r.Coherent)
    (hlegible : exact → r.snapshot.Legible) (p : Progress) :
    Heard exact (r.advance p).run (r.script p) (r.advance p).effects := by
  have hquiet := (hcoherent.advance p).sound (state_advance_ne_running r p)
  have htuned' : (r.advance p).run.Tuned := by
    rw [run_of_advance]
    exact tuned_present _
  refine ⟨htuned', hquiet, ?_, fun hactive => ?_⟩
  all_goals rw [run_of_advance, sound_present] at hquiet
  · have hloop := announces_loop budget htuned hlegible p
    rw [hsound] at hloop
    rw [effects_of_advance, sounds_append, sounds_present_of_none hquiet, List.append_nil]
    exact hloop
  · rw [run_of_advance, state_present] at hactive
    have hlast := sound_loop hactive
    rw [hquiet, hsound] at hlast
    exact hlast.symm

/-- Nothing is heard of a run that is broken off. -/
theorem sounds_interrupt (r : Run) (p : Progress) : sounds (r.interrupt p).2 = [] := by
  rw [Run.interrupt]
  split
  · dsimp only
    rw [sounds_append, sounds_of_snapshots (snapshots_finish _ _ _ _),
      sounds_present_of_none (r := (r.finish p .interrupted none).1) rfl]
    rfl
  · rfl

/-- Between two operations, breaking off is silent. -/
theorem heard_interrupt (htuned : r.Tuned) (hsound : r.snapshot.sound = none) (p : Progress) :
    Heard exact (r.interrupt p).1 [] (r.interrupt p).2 := by
  have hdone : (r.interrupt p).1.Tuned ∧ (r.interrupt p).1.snapshot.sound = none := by
    rw [Run.interrupt]
    split
    · exact ⟨tuned_present _, sound_present _⟩
    · exact ⟨htuned, hsound⟩
  exact heard_nil hdone.1 hdone.2 (sounds_interrupt r p)

/-- So is noting a place: the snapshot that is handed over shows no sound. -/
theorem heard_applyGeometry (htuned : r.Tuned) (hsound : r.snapshot.sound = none) (ticket : Ticket)
    (rect : Option Rect) :
    Heard exact (r.applyGeometry ticket rect).1 []
      ((r.applyGeometry ticket rect).2.map Effect.present).toList := by
  rcases r.applyGeometry_cases ticket rect with heq | ⟨highlight, -, -, hrun, heffects⟩
  · rw [heq]
    exact heard_nil htuned hsound rfl
  · have hlocated : (r.locate highlight rect).snapshot.sound = none := hsound
    rw [hrun, heffects]
    exact heard_nil (tuned_present _) ((sound_present _).trans hlocated)
      (sounds_present_of_none hlocated)

/-- Preparing a run to go on does not touch its copy, and no sound is heard. -/
theorem Resumes.quiet {r' : Run} {p' : Progress} {es : List Effect} (hr : r.Resumes p r' p' es)
    (hsound : r.snapshot.sound = none) :
    r'.presented = r.presented ∧ r'.snapshot.sound = none ∧ sounds es = [] := by
  cases hr with
  | @choice prompt options option =>
      have hes : sounds ((writeFlags p option.setFlags).2 ++
          (r.leaveChoice (writeFlags p option.setFlags).1 option).2) = [] := by
        rw [sounds_append, leaveChoice, sounds_of_snapshots (snapshots_writeFlags _ _),
          sounds_of_snapshots (snapshots_follow _ _ _)]
        rfl
      rw [leaveChoice] at hes ⊢
      rcases follow_cases { r with snapshot.choice := none }.resume
          (writeFlags p option.setFlags).1 (Flow.toLabel option.goto) with
        ⟨state, -, heq⟩ | ⟨-, ⟨index, -, heq⟩ | ⟨reason, diagnostic, heq⟩⟩
      · rw [heq] at hes ⊢; exact ⟨rfl, hsound, hes⟩
      · rw [heq] at hes ⊢; exact ⟨rfl, hsound, hes⟩
      · rw [heq] at hes ⊢; exact ⟨rfl, rfl, hes⟩
  | line | highlight | timer | flag => exact ⟨rfl, hsound, rfl⟩

/-- **What is heard of an operation.** -/
theorem heard_operate (htuned : r.Tuned) (hsound : r.snapshot.sound = none)
    (hcoherent : r.Coherent) (hinStep : exact → r.InStep) (p : Progress) (op : Operation) :
    Heard exact (r.operate p op).run (r.scene.stepsAt (r.pathOf p op))
      (r.operate p op).effects := by
  have htraces := r.traces_operate p op
  generalize r.operate p op = turn, r.pathOf p op = path at htraces ⊢
  cases htraces with
  | advance =>
      rw [← script_eq]
      exact heard_advance htuned hsound hcoherent (fun hexact => (hinStep hexact).legible) p
  | @answer _ r' p' es hr =>
      obtain ⟨hpresented, hsound', hes⟩ := hr.quiet hsound
      have htuned' : r'.Tuned := tuned_of_none hsound' fun s hs =>
        (htuned.sound_eq s (hpresented.symm.trans hs)).trans hsound
      have hdone := heard_advance htuned' hsound' (hr.coherent hcoherent)
        (fun hexact => ((hinStep hexact).hands.resumes hr).legible) p'
      rw [← hr.same.2, ← script_eq]
      refine ⟨hdone.tuned, hdone.sound_eq_none, ?_, hdone.lastCue_eq_none⟩
      rw [sounds_append, hes, List.nil_append]
      exact hdone.announces
  | interrupt => exact heard_interrupt htuned hsound p
  | applyGeometry ticket rect => exact heard_applyGeometry htuned hsound ticket rect
  | rejected => exact heard_nil htuned hsound rfl

/-- A run that has ended executes no step any more, and stays so. -/
theorem stays_ended (hended : r.state.isActive = false) (p : Progress) (op : Operation) :
    r.pathOf p op = [] ∧ (r.operate p op).run.state.isActive = false := by
  have hrun : r.state ≠ .running := fun h => by rw [h] at hended; cases hended
  have htraces := r.traces_operate p op
  generalize r.operate p op = turn, r.pathOf p op = path at htraces ⊢
  cases htraces with
  | advance =>
      refine ⟨visited_of_ne_running hrun _ _, ?_⟩
      rw [run_of_advance, state_present, loop_of_ne_running hrun]
      exact hended
  | answer hr => rw [hr.isActive] at hended; cases hended
  | interrupt =>
      rw [Run.interrupt, if_neg (by rw [hended]; rintro ⟨⟩)]
      exact ⟨rfl, hended⟩
  | applyGeometry ticket rect =>
      obtain ⟨highlight, state, presented, heq⟩ := r.exists_applyGeometry ticket rect
      rw [heq]
      exact ⟨rfl, hended⟩
  | rejected => exact ⟨rfl, hended⟩

/-- What is heard of one more operation is added to what was heard before. -/
theorem Heard.operate {steps : List Step} {es : List Effect} (h : Heard exact r steps es)
    (hcoherent : r.Coherent) (hinStep : exact → r.InStep) (p : Progress) (op : Operation) :
    Heard exact (r.operate p op).run (steps ++ r.scene.stepsAt (r.pathOf p op))
      (es ++ (r.operate p op).effects) := by
  have hop := heard_operate h.tuned h.sound_eq_none hcoherent hinStep p op
  cases hactive : r.state.isActive with
  | true =>
      have hlast := h.lastCue_eq_none hactive
      refine ⟨hop.tuned, hop.sound_eq_none, ?_, fun hactive' => ?_⟩
      · rw [sounds_append]
        exact h.announces.append (by rw [hlast]; exact hop.announces)
      · rw [lastCue_append, hlast]
        exact hop.lastCue_eq_none hactive'
  | false =>
      obtain ⟨hpath, hended⟩ := stays_ended hactive p op
      have hnone := hop.announces
      rw [hpath] at hnone ⊢
      refine ⟨hop.tuned, hop.sound_eq_none, ?_, fun hactive' => ?_⟩
      · rw [sounds_append]
        exact h.announces.append (hnone.of_nil _)
      · rw [hended] at hactive'
        cases hactive'

/-! ### Whole runs -/

/-- A run is in step whatever has been done to it, as long as places are numeric. -/
theorem inStep_operateAll (id : Uuid) (scene : Scene) (p : Progress)
    {calls : List (Progress × Operation)} (hcalls : ∀ call ∈ calls, call.2.IsNumeric) :
    ((start id scene p).operateAll calls).1.InStep :=
  operateAll_induction calls (P := fun r _ => r.InStep) (inStep_start id scene p)
    fun _ _ q _ hmem h => h.operate q (hcalls _ hmem)

/-- **What is heard of a run**, whatever is done to it from its start on. -/
theorem heard_operateAll (id : Uuid) (scene : Scene) (p : Progress)
    (calls : List (Progress × Operation)) (hcalls : exact → ∀ call ∈ calls, call.2.IsNumeric) :
    Heard exact ((start id scene p).operateAll calls).1
      (scene.stepsAt ((start id scene p).pathOfAll calls))
      ((start id scene p).operateAll calls).2 := by
  induction calls using List.reverseRecOn with
  | nil => exact heard_nil (tuned_of_none rfl (by rintro s ⟨⟩)) rfl rfl
  | append_singleton calls call ih =>
      have hbefore : exact → ∀ call ∈ calls, call.2.IsNumeric := fun hexact call hmem =>
        hcalls hexact call (List.mem_append_left _ hmem)
      have hcourse := (start id scene p).course_operateAll calls
      have hscene : ((start id scene p).operateAll calls).1.scene = scene := scene_operateAll _ _
      have hdone := (ih hbefore).operate (hcourse.coherent (coherent_start id scene p))
        (fun hexact => inStep_operateAll id scene p (hbefore hexact)) call.1 call.2
      rw [hscene] at hdone
      rw [operateAll_concat, pathOfAll_concat, Scene.stepsAt_append]
      exact hdone

/-- How often the sounds that some steps cue are announced. -/
structure Announced (exact : Prop) (steps : List Step) (es : List Effect) : Prop where
  /-- Sounds are announced in the order in which they are cued, and no cue is announced twice. -/
  sublist : (sounds es).Sublist (cues steps)
  /-- No sound is announced more often than it is cued. -/
  le : ∀ sound, announcements es sound ≤ steps.count (.playSound sound)
  /-- No announcement is missing but those of direct repetitions. -/
  count_le : ∀ sound,
    steps.count (.playSound sound) ≤ announcements es sound + repetitions steps sound
  /-- A sound that is not directly repeated is announced as often as it is cued. -/
  eq_of_fresh : ∀ sound, repetitions steps sound = 0 →
    announcements es sound = steps.count (.playSound sound)
  /-- Direct repetitions are not announced. -/
  count_eq : exact → ∀ sound,
    steps.count (.playSound sound) = announcements es sound + repetitions steps sound

/-- How often each sound is announced follows from what is heard, in order. -/
theorem Announces.announced {steps : List Step} {es : List Effect}
    (h : Announces exact none steps (sounds es)) : Announced exact steps es := by
  have hle (sound : String) : announcements es sound ≤ steps.count (.playSound sound) := by
    rw [← count_sounds, ← count_cues]
    exact h.sublist_cues.count_le sound
  have hfresh (sound : String) : (freshCues none steps).count sound ≤ announcements es sound := by
    rw [← count_sounds]
    exact h.fresh_sublist.count_le sound
  refine ⟨h.sublist_cues, hle, fun sound => ?_, fun sound hnone => ?_, fun hexact sound => ?_⟩
  · have := hfresh sound
    rw [count_eq_freshCues]
    omega
  · refine Nat.le_antisymm (hle sound) ?_
    rw [count_eq_freshCues, hnone]
    exact hfresh sound
  · rw [count_eq_freshCues, ← h.eq_fresh hexact, count_sounds]

/-- **Every cue is announced, unless it directly repeats the one before**, whatever is done to a run
from its start on. -/
theorem announced_operateAll (id : Uuid) (scene : Scene) (p : Progress)
    (calls : List (Progress × Operation)) :
    Announced (∀ call ∈ calls, call.2.IsNumeric)
      (scene.stepsAt ((start id scene p).pathOfAll calls))
      ((start id scene p).operateAll calls).2 :=
  (heard_operateAll id scene p calls fun hcalls => hcalls).announces.announced

/-- A scene in which someone knocks twice. -/
def knocking : Scene where
  id := "knocking"
  steps := [.playSound "knock", .playSound "knock"]

/-- Only the first knock is heard. -/
theorem announced_knocking :
    (∀ call ∈ [(Progress.empty, Operation.advance)], call.2.IsNumeric) ∧
      (knocking.stepsAt ((start default knocking .empty).pathOfAll [(.empty, .advance)])).count
          (.playSound "knock") =
        announcements ((start default knocking .empty).operateAll [(.empty, .advance)]).2 "knock" +
          1 := by
  have hnumeric : ∀ call ∈ [(Progress.empty, Operation.advance)], call.2.IsNumeric := by
    intro call hmem ticket place hop
    rw [List.mem_singleton.mp hmem] at hop
    cases hop
  exact ⟨hnumeric, (announced_operateAll default knocking .empty [(.empty, .advance)]).count_eq
    hnumeric "knock"⟩

/-- So a sound may be cued more often than it is announced. -/
theorem knock_not_announced :
    announcements ((start default knocking .empty).operateAll [(.empty, .advance)]).2 "knock" ≠
      (knocking.stepsAt ((start default knocking .empty).pathOfAll [(.empty, .advance)])).count
        (.playSound "knock") := by
  decide

end Run

end Cutscene
