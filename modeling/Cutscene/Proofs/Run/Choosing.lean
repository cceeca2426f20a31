import Cutscene.Proofs.Run.Rescripting
import Cutscene.Proofs.Run.Tickets
import Cutscene.Proofs.Run.Writes

/-!
# What Taking an Option Does

An option says which flags are written and where the run goes on, and taking it does just that
(`Run.Takes`). Nothing else about the choice matters: another text, other labels and other options
beside the one that is taken (`Run.reword`) lead to the same, as long as the run does not come back
to the choice.

Two things differ between the run and the reworded one when they go on. The one is the scene, but
only at the place of the choice, which neither of them executes any more. The other is the snapshot
that was handed over last, with which the next one is compared. It is outdated (`Run.Outdates`):
whatever comes next is shown of a run that does not wait for a choice any more, or under a ticket
that has not been given out before.

## Main results

* `Run.advance_represent`: a run that goes on does not depend on an outdated snapshot.
* `Run.advance_replace`: it does not depend on a step that it does not execute.
* `Run.takes_takeOption`, `Run.takeOption_reword`: what taking an option does, and what does not
  matter.
* `Run.choose_obeys_option`: both, together with what a whole run leaves alone.
-/

namespace Cutscene

open Std

namespace Run

variable {r : Run} {p : Progress} {x : Option Snapshot}

/-! ### Outdated snapshots -/

/-- The run, as if another snapshot had been handed over last. -/
def represent (x : Option Snapshot) (r : Run) : Run := { r with presented := x }

/-- The snapshot, if there is one, was shown of a run that waits for a choice, under a ticket that
has been given out. -/
def Outdates (r : Run) (x : Option Snapshot) : Prop :=
  ∀ s, x = some s →
    s.state = .waitingForChoice ∧ ∀ t, s.ticket = some t → t.number ≤ r.tickets

/-- A snapshot that is outdated stays so, whatever tickets are given out. -/
theorem Outdates.mono (h : r.Outdates x) {r' : Run} (htickets : r.tickets ≤ r'.tickets) :
    r'.Outdates x :=
  fun s hs => ⟨(h s hs).1, fun t ht => Nat.le_trans ((h s hs).2 t ht) htickets⟩

/-- A run that does not wait for a choice looks different. -/
theorem Outdates.looksLike_eq_false (h : r.Outdates x) (hstate : r.state ≠ .waitingForChoice) :
    ∀ s, x = some s → s.looksLike r.view = false := by
  refine fun s hs => Bool.eq_false_iff.mpr fun hlooks => hstate ?_
  rw [← (h s hs).1, Snapshot.state_eq_of_looksLike hlooks]
  rfl

/-- A running run looks different once it has executed a step: if it waits for a choice again, then
under another ticket. -/
theorem Outdates.looksLike_tread (h : r.Outdates x) (hrun : r.state = .running) (p : Progress)
    (step : Step) : ∀ s, x = some s → s.looksLike (r.tread p step).1.view = false := by
  have htickets : r.tickets ≤ (r.hushed.execute p step).run.tickets :=
    le_tickets_execute r.hushed p step
  have hstate : (r.hushed.execute p step).run.state = .running :=
    (state_execute _ p step).trans hrun
  rw [tread]
  generalize r.hushed.execute p step = done at htickets hstate
  have hdone : done.run.Outdates x := h.mono htickets
  rcases follow_cases done.run done.progress done.flow with
    ⟨state, -, heq⟩ | ⟨-, ⟨index, -, heq⟩ | ⟨reason, diagnostic, heq⟩⟩
  · refine fun s hs => Bool.eq_false_iff.mpr fun hlooks => ?_
    have hle := (hdone s hs).2 done.run.nextTicket (by
      rw [Snapshot.ticket_eq_of_looksLike hlooks, heq]
      rfl)
    have hnumber : done.run.nextTicket.number = done.run.tickets + 1 := rfl
    omega
  · rw [heq]
    refine Outdates.looksLike_eq_false (hdone.mono (Nat.le_refl _)) ?_
    dsimp only
    rw [hstate]
    rintro ⟨⟩
  · rw [heq]
    exact Outdates.looksLike_eq_false (hdone.mono (Nat.le_refl _)) (by rintro ⟨⟩)

/-- Where neither the one snapshot nor the other looks like the next one, it is handed over. -/
theorem present_represent (hx : ∀ s, x = some s → s.looksLike r.view = false)
    (hr : ∀ s, r.presented = some s → s.looksLike r.view = false) :
    (r.represent x).present = r.present := by
  have hview : (r.represent x).view = r.view := rfl
  rcases (r.represent x).present_cases with ⟨s, hs, hlooks, -⟩ | ⟨-, hother⟩
  · rw [hview, hx s hs] at hlooks
    cases hlooks
  · rcases r.present_cases with ⟨s, hs, hlooks, -⟩ | ⟨-, heq⟩
    · rw [hr s hs] at hlooks
      cases hlooks
    · rw [hother, heq]
      rfl

/-- Executing a step does not depend on what was handed over last. -/
theorem execute_represent (x : Option Snapshot) (r : Run) (p : Progress) (s : Step) :
    (r.represent x).execute p s =
      { r.execute p s with run := (r.execute p s).run.represent x } := by
  cases s with
  | choice prompt options => rw [execute, execute]; split <;> rfl
  | _ => rfl

/-- Nor does going on. -/
theorem follow_represent (x : Option Snapshot) (r : Run) (p : Progress) (flow : Flow) :
    (r.represent x).follow p flow = ((r.follow p flow).1.represent x, (r.follow p flow).2) := by
  cases flow with
  | jump target =>
      have hscene : (r.represent x).scene = r.scene := rfl
      rw [follow, follow, jump, jump, hscene]
      cases Scene.findLabel? r.scene.steps target <;> rfl
  | _ => rfl

/-- Nor do the two together. -/
theorem tread_represent (x : Option Snapshot) (r : Run) (p : Progress) (s : Step) :
    (r.represent x).tread p s = ((r.tread p s).1.represent x, (r.tread p s).2) := by
  have hquiet : (r.represent x).hushed = r.hushed.represent x := rfl
  rw [tread, hquiet, execute_represent]
  exact follow_represent x _ _ _

/-- **A step does not depend on an outdated snapshot.** -/
theorem step_represent (hrun : r.state = .running) (hx : r.Outdates x)
    (hr : r.Outdates r.presented) (p : Progress) : (r.represent x).step p = r.step p := by
  have hstep : (r.represent x).currentStep? = r.currentStep? := rfl
  cases hs : r.currentStep? with
  | none =>
      have hfinish : (r.represent x).finish p .completed none =
          ((r.finish p .completed none).1.represent x, (r.finish p .completed none).2) := rfl
      have hx : (r.finish p .completed none).1.Outdates x := hx
      have hr : (r.finish p .completed none).1.Outdates r.presented := hr
      have hpresent : ((r.finish p .completed none).1.represent x).present =
          (r.finish p .completed none).1.present :=
        present_represent (hx.looksLike_eq_false (by rintro ⟨⟩))
          (hr.looksLike_eq_false (by rintro ⟨⟩))
      rw [step_of_none hs, step_of_none (hstep.trans hs), hfinish, hpresent]
  | some step =>
      have hquiet : (r.represent x).hushed = r.hushed.represent x := rfl
      have hpresented : r.presented = (r.tread p step).1.presented :=
        congrArg (fun y : Run × List Effect => y.1.presented)
          (tread_represent r.presented r p step).symm
      have hpresent : ((r.tread p step).1.represent x).present = (r.tread p step).1.present :=
        present_represent (hx.looksLike_tread hrun p step)
          (hpresented ▸ hr.looksLike_tread hrun p step)
      rw [step_of_some hs, step_of_some (hstep.trans hs), tread_represent, hpresent, hquiet,
        execute_represent]

/-- **A run that goes on does not depend on an outdated snapshot.** Its first step hands over a new
one. -/
theorem advance_represent (hstate : r.state ≠ .waitingForChoice) (hx : r.Outdates x)
    (hr : r.Outdates r.presented) (p : Progress) : (r.represent x).advance p = r.advance p := by
  by_cases hrun : r.state = .running
  · have hrun' : (r.represent x).state = .running := hrun
    have hbudget : budget = 9999 + 1 := rfl
    have hloop : loop budget (r.represent x) p = loop budget r p := by
      rw [hbudget, loop, loop, if_pos hrun, if_pos hrun', step_represent hrun hx hr]
    rw [advance, advance, hloop]
  · have hrun' : (r.represent x).state ≠ .running := hrun
    have hpresent : (r.represent x).present = r.present :=
      present_represent (hx.looksLike_eq_false hstate) (hr.looksLike_eq_false hstate)
    rw [advance, advance, loop_of_ne_running hrun, loop_of_ne_running hrun', hpresent]

end Run

/-! ### Steps that are not executed -/

/-- The scene with another step at a place. -/
def Scene.replace (s : Scene) (k : Nat) (step : Step) : Scene :=
  { s with steps := s.steps.set k step }

namespace Run

variable {r : Run} {p : Progress} {k : Nat} {step : Step}

/-- Where a step that is no label is replaced by another one, all labels are found where they
were. -/
theorem findLabel?_replace {s : Scene} (hs : ∀ name, s.steps[k]? ≠ some (.label name))
    (hstep : ∀ name, step ≠ .label name) (name : String) :
    Scene.findLabel? (s.replace k step).steps name = Scene.findLabel? s.steps name := by
  refine Scene.findLabel?_congr fun i => ?_
  rw [Scene.replace, List.getElem?_set]
  split
  · next heq =>
    subst heq
    split
    · exact ⟨fun h => absurd (Option.some.inj h) (hstep name), fun h => absurd h (hs name)⟩
    · next hlt => rw [List.getElem?_eq_none (Nat.le_of_not_lt hlt)]
  · exact Iff.rfl

/-- Where a run stands at another place, or behind the last step, it does the same. -/
theorem playedHere_replace (hlabel : ∀ name, r.scene.steps[k]? ≠ some (.label name))
    (hstep : ∀ name, step ≠ .label name) (hplace : r.currentStep? ≠ none → r.index ≠ k) :
    r.PlayedHere (r.scene.replace k step) where
  id_eq := rfl
  alike := by
    have hsame : (r.withScene (r.scene.replace k step)).currentStep? = r.currentStep? := by
      change (r.scene.steps.set k step)[r.index]? = r.scene.steps[r.index]?
      cases hs : r.currentStep? with
      | none =>
          rw [currentStep?] at hs
          rw [hs, List.getElem?_eq_none_iff, List.length_set]
          exact List.getElem?_eq_none_iff.mp hs
      | some s => exact List.getElem?_set_ne (hplace (by rw [hs]; rintro ⟨⟩)).symm
    rw [hsame]
    exact .same _
  findLabel?_eq _ _ target _ := findLabel?_replace hlabel hstep target

/-- Induction on the steps that are left. -/
theorem loop_replace (left : Nat) (hlabel : ∀ name, r.scene.steps[k]? ≠ some (.label name))
    (hstep : ∀ name, step ≠ .label name) (hk : k ∉ visited left r p) :
    loop left (r.withScene (r.scene.replace k step)) p =
      (loop left r p).withScene (r.scene.replace k step) := by
  induction left generalizing r p with
  | zero =>
      rw [loop, loop, state_withScene]
      split
      · have hid : (r.scene.replace k step).id = r.scene.id := rfl
        rw [finish_withScene hid, inScene]
        rfl
      · rfl
  | succ left ih =>
      rw [loop, loop, state_withScene]
      split
      · next hrun =>
        rw [visited, if_pos hrun, List.mem_append, not_or] at hk
        obtain ⟨hhere, hlater⟩ := hk
        -- The step at the place of the run is the old one, as its path leads past the place `k`.
        have hplace : r.currentStep? ≠ none → r.index ≠ k := by
          rintro hsome rfl
          obtain ⟨s, hs⟩ := Option.ne_none_iff_exists'.mp hsome
          rw [hs] at hhere
          exact hhere (List.mem_singleton.mpr rfl)
        have hnow := step_withScene (playedHere_replace hlabel hstep hplace) p
        have hscene := scene_step hrun p
        have hloop := ih (by rw [hscene]; exact hlabel) hlater
        rw [hscene] at hloop
        dsimp only
        rw [hnow]
        dsimp only [Turn.withScene] at hloop ⊢
        rw [hloop]
      · rfl

/-- **A run does not depend on a step that it does not execute**, if no label is lost or new. -/
theorem advance_replace (hlabel : ∀ name, r.scene.steps[k]? ≠ some (.label name))
    (hstep : ∀ name, step ≠ .label name) (hk : k ∉ r.path p) :
    (r.withScene (r.scene.replace k step)).advance p =
      (r.advance p).withScene (r.scene.replace k step) := by
  rw [advance, advance, loop_replace budget hlabel hstep hk]
  dsimp only [Turn.withScene]
  rw [present_withScene]
  rfl

/-! ### Other words -/

/-- The run, as if it waited at a choice with another text and other options, and some snapshot had
been handed over last. -/
def reword (r : Run) (prompt : Option String) (options : List ChoiceOption)
    (presented : Option Snapshot) : Run :=
  { r with
    scene := r.scene.replace r.index (.choice prompt options)
    snapshot.choice := some ⟨prompt, options.map ChoiceOption.label⟩
    presented }

/-- The snapshot that was handed over last was shown of the run as it stands. -/
def Abreast (r : Run) : Prop :=
  ∀ s, r.presented = some s → s.state = r.state ∧ s.ticket = r.ticket?

/-- Once the snapshot has been presented, it is abreast of the run. -/
theorem abreast_present (r : Run) : r.present.1.Abreast := by
  rcases r.present_cases with ⟨s, hs, hlooks, heq⟩ | ⟨-, heq⟩
  · rw [heq]
    rintro s' hs'
    obtain rfl : s = s' := Option.some.inj (hs.symm.trans hs')
    exact ⟨Snapshot.state_eq_of_looksLike hlooks, Snapshot.ticket_eq_of_looksLike hlooks⟩
  · rw [heq]
    rintro s ⟨⟩
    exact ⟨rfl, rfl⟩

/-- Every operation that changes what is shown hands it over. -/
theorem Reachable.abreast (h : r.Reachable) : r.Abreast := by
  have hanswer {r : Run} {p : Progress} {turn : Turn} (hturn : r.Answers p turn) :
      turn.run.Abreast := by
    obtain ⟨r', p', es, -, rfl⟩ := hturn.exists_resumes
    exact abreast_present _
  induction h with
  | start id scene p q => exact abreast_present _
  | advance _ p _ => exact abreast_present _
  | choose _ p option hturn _ => exact hanswer (.choose option hturn)
  | acknowledge _ p hturn _ => exact hanswer (.acknowledge hturn)
  | resumeTimer _ p ticket hturn _ => exact hanswer (.resumeTimer ticket hturn)
  | notifyFlag _ p hturn _ => exact hanswer (.notifyFlag hturn)
  | interrupt _ p ih =>
      rw [Run.interrupt]
      split
      · exact abreast_present _
      · exact ih
  | @applyGeometry r _ ticket rect ih =>
      rcases r.applyGeometry_cases ticket rect with heq | ⟨highlight, -, -, heq, -⟩
      · rw [heq]
        exact ih
      · rw [heq]
        exact abreast_present _

/-- A snapshot that was shown of a waiting choice is outdated as soon as it is left. -/
theorem Abreast.outdates (h : r.Abreast) (hcounts : r.Counts)
    (hstate : r.state = .waitingForChoice) : r.Outdates r.presented :=
  fun s hs => ⟨(h s hs).1.trans hstate, fun t ht => hcounts t ((h s hs).2.symm.trans ht)⟩

/-- The run without the choice that it has waited at. -/
def withoutChoice (r : Run) : Run := { r with snapshot.choice := none }.resume

/-- Leaving a choice is going on without it. -/
theorem leaveChoice_eq (r : Run) (q : Progress) (option : ChoiceOption) :
    r.leaveChoice q option = r.withoutChoice.follow q (Flow.toLabel option.goto) := rfl

/-- A run that leaves a choice does not wait for it any more, and has not handed anything over. -/
theorem leaveChoice_keeps (r : Run) (q : Progress) (option : ChoiceOption) :
    (r.leaveChoice q option).1.state ≠ .waitingForChoice ∧
      (r.leaveChoice q option).1.tickets = r.tickets ∧
      (r.leaveChoice q option).1.presented = r.presented := by
  rw [leaveChoice_eq]
  rcases follow_cases r.withoutChoice q (Flow.toLabel option.goto) with
    ⟨state, hflow, -⟩ | ⟨-, ⟨index, -, heq⟩ | ⟨reason, diagnostic, heq⟩⟩
  · exact absurd hflow (toLabel_ne_suspend _ _)
  · rw [heq]
    exact ⟨by rintro ⟨⟩, rfl, rfl⟩
  · rw [heq]
    exact ⟨by rintro ⟨⟩, rfl, rfl⟩

variable {prompt prompt' : Option String} {options options' : List ChoiceOption}
  {presented : Option Snapshot} {option : ChoiceOption}

/-- Where no label stands, the reworded run leaves the choice for the same place. -/
theorem leaveChoice_reword (prompt' : Option String) (options' : List ChoiceOption)
    (presented : Option Snapshot) (option : ChoiceOption)
    (hlabel : ∀ name, r.scene.steps[r.index]? ≠ some (.label name)) (q : Progress) :
    (r.reword prompt' options' presented).leaveChoice q option =
      (((r.leaveChoice q option).1.withScene
          (r.reword prompt' options' presented).scene).represent presented,
        (r.leaveChoice q option).2) := by
  have hstep (name : String) : Step.choice prompt' options' ≠ .label name := by rintro ⟨⟩
  have hid : (r.reword prompt' options' presented).scene.id = r.scene.id := rfl
  have hwithout : (r.reword prompt' options' presented).withoutChoice =
      (r.withoutChoice.withScene (r.reword prompt' options' presented).scene).represent
        presented := rfl
  rw [leaveChoice_eq, leaveChoice_eq, hwithout, follow_represent,
    follow_withScene (r := r.withoutChoice) hid fun target _ =>
      findLabel?_replace hlabel hstep target]
  rfl

/-- **What taking an option leads to does not depend on the rest of the choice**, if the run does
not come back to it. -/
theorem takeOption_reword (hcounts : r.Counts) (hr : r.Abreast)
    (hother : (r.reword prompt' options' presented).Abreast) (hstate : r.state = .waitingForChoice)
    (hchoice : r.currentStep? = some (.choice prompt options))
    (hpath : r.index ∉ (r.leaveChoice (writeFlags p option.setFlags).1 option).1.path
      (writeFlags p option.setFlags).1) :
    (r.reword prompt' options' presented).takeOption p option =
      (r.takeOption p option).withScene (r.reword prompt' options' presented).scene := by
  have hlabel (name : String) : r.scene.steps[r.index]? ≠ some (.label name) := by
    rw [currentStep?] at hchoice
    rw [hchoice]
    rintro ⟨⟩
  have hstep (name : String) : Step.choice prompt' options' ≠ .label name := by rintro ⟨⟩
  -- What has been shown bears an older ticket, and so it makes no difference to what is shown next.
  have houtdated : (r.reword prompt' options' presented).Outdates presented :=
    hother.outdates hcounts hstate
  have hleft := leaveChoice_reword prompt' options' presented option hlabel
  rw [takeOption, takeOption]
  -- Both runs leave the choice, and then go on without it.
  generalize (writeFlags p option.setFlags).1 = q at hpath ⊢
  obtain ⟨hgoes, htickets, hpresented⟩ := r.leaveChoice_keeps q option
  have hgrows : r.tickets ≤ (r.leaveChoice q option).1.tickets := Nat.le_of_eq htickets.symm
  have hscene : (r.leaveChoice q option).1.scene = r.scene := (same_follow _ _ _).2
  have hwithout := advance_replace (r := (r.leaveChoice q option).1)
    (by rw [hscene]; exact hlabel) hstep hpath
  rw [hscene] at hwithout
  have hadvance : (((r.leaveChoice q option).1.withScene
      (r.reword prompt' options' presented).scene).represent presented).advance q =
      ((r.leaveChoice q option).1.advance q).withScene
        (r.reword prompt' options' presented).scene := by
    have hours : (r.leaveChoice q option).1.Outdates (r.leaveChoice q option).1.presented := by
      rw [hpresented]
      exact (hr.outdates hcounts hstate).mono hgrows
    exact (advance_represent (r := (r.leaveChoice q option).1.withScene
      (r.reword prompt' options' presented).scene) hgoes
        (houtdated.mono hgrows) hours q).trans hwithout
  rw [hleft]
  dsimp only
  rw [hadvance]
  rfl

/-! ### What an option does -/

/-- The run without the choice, at the place where it goes on. -/
def goOnAt (r : Run) (index : Nat) : Run := { r.withoutChoice with index }

/-- An option that names no label leads behind the choice. -/
theorem leaveChoice_of_goto_eq_none (hgoto : option.goto = none) (q : Progress) :
    r.leaveChoice q option = (r.goOnAt (r.index + 1), []) := by
  rw [leaveChoice_eq, hgoto]
  rfl

/-- An option that names a label leads to it. -/
theorem leaveChoice_of_findLabel? {name : String} {i : Nat} (hgoto : option.goto = some name)
    (hfound : Scene.findLabel? r.scene.steps name = some i) (q : Progress) :
    r.leaveChoice q option = (r.goOnAt i, []) := by
  have hscene : r.withoutChoice.scene = r.scene := rfl
  rw [leaveChoice_eq, hgoto, Flow.toLabel, follow, jump, hscene, hfound]
  rfl

/-- An option that names a label that is not there breaks the run off. -/
theorem leaveChoice_of_astray {name : String} (hgoto : option.goto = some name)
    (hfound : Scene.findLabel? r.scene.steps name = none) (q : Progress) :
    r.leaveChoice q option =
      r.withoutChoice.finish q .interrupted (some (.undefinedLabel r.index name)) := by
  have hscene : r.withoutChoice.scene = r.scene := rfl
  rw [leaveChoice_eq, hgoto, Flow.toLabel, follow, jump, hscene, hfound]
  rfl

/-- What taking an option leads to, where `q` is the progress with the flags of the option, and the
effects `told` report how they were written: the run goes on behind the choice, or at the first
label of the name that the option gives. If there is no such label, it breaks off, with the flags
written. -/
inductive Takes (r : Run) (q : Progress) (told : List Effect) (option : ChoiceOption) :
    Turn → Prop
  | next (hgoto : option.goto = none) :
      Takes r q told option
        { (r.goOnAt (r.index + 1)).advance q with
          effects := told ++ ((r.goOnAt (r.index + 1)).advance q).effects }
  | label {name : String} {i : Nat} (hgoto : option.goto = some name)
      (hlabel : r.scene.steps[i]? = some (.label name))
      (hfirst : ∀ j < i, r.scene.steps[j]? ≠ some (.label name)) :
      Takes r q told option
        { (r.goOnAt i).advance q with effects := told ++ ((r.goOnAt i).advance q).effects }
  | astray {name : String} {turn : Turn} {ending : Ending} (hgoto : option.goto = some name)
      (hlabel : .label name ∉ r.scene.steps) (hstate : turn.run.state = .ended .interrupted)
      (hprogress : turn.progress = q) (hreason : ending.reason = .interrupted)
      (hdiagnostic : ending.diagnostic = some (.undefinedLabel r.index name))
      (heffects : turn.effects = told ++ [.ended ending, .present (r.curtain .interrupted)]) :
      Takes r q told option turn

/-- A run that has ended, and was shown waiting before, hands over the curtain. -/
theorem exists_advance_finish (hr : r.Outdates r.presented) (q : Progress) (reason : EndReason)
    (diagnostic : Option Diagnostic) :
    ∃ run, run.state = .ended reason ∧ (r.finish q reason diagnostic).1.advance q =
      { run, progress := q, effects := [.present (r.curtain reason)] } := by
  have hrun : (r.finish q reason diagnostic).1.state ≠ .running := by rintro ⟨⟩
  have hended : (r.finish q reason diagnostic).1.Outdates r.presented := hr
  rcases (r.finish q reason diagnostic).1.present_cases with ⟨s, hs, hlooks, -⟩ | ⟨-, heq⟩
  · rw [hended.looksLike_eq_false (by rintro ⟨⟩) s hs] at hlooks
    cases hlooks
  · rw [advance, loop_of_ne_running hrun]
    dsimp only
    rw [heq]
    exact ⟨_, rfl, rfl⟩

/-- **Taking an option does what the option says.** -/
theorem takes_takeOption (hr : r.Outdates r.presented) (p : Progress) (option : ChoiceOption) :
    r.Takes (writeFlags p option.setFlags).1 (writeFlags p option.setFlags).2 option
      (r.takeOption p option) := by
  rw [takeOption]
  generalize writeFlags p option.setFlags = written
  cases hgoto : option.goto with
  | none =>
      rw [leaveChoice_of_goto_eq_none hgoto]
      dsimp only
      rw [List.append_nil]
      exact .next hgoto
  | some name =>
      cases hfound : Scene.findLabel? r.scene.steps name with
      | some i =>
          obtain ⟨hlabel, hfirst⟩ := Scene.findLabel?_eq_some_iff.mp hfound
          rw [leaveChoice_of_findLabel? hgoto hfound]
          dsimp only
          rw [List.append_nil]
          exact .label hgoto hlabel hfirst
      | none =>
          have hshown : r.withoutChoice.Outdates r.withoutChoice.presented := hr
          obtain ⟨run, hstate, hadvance⟩ := exists_advance_finish hshown written.1 .interrupted
            (some (.undefinedLabel r.index name))
          rw [leaveChoice_of_astray hgoto hfound, hadvance]
          refine .astray hgoto (Scene.findLabel?_eq_none_iff.mp hfound) hstate rfl ?_ ?_
            (List.append_assoc ..)
          · rfl
          · rfl

/-- **Taking an option does exactly what the option says.** -/
structure Obeys (r : Run) (p : Progress) (i : Nat) (option : ChoiceOption) (turn : Turn) :
    Prop where
  choose_eq : r.choose p i = .ok turn
  /-- First the flags of the option are written, each of them once and in ascending order, and each
  write is reported with the value that the flag had before. Then the run goes where the option
  leads. -/
  takes : ∃ q entries, p.Overwrites option.setFlags q ∧ option.setFlags.Lists entries ∧
    r.Takes q (entries.map fun (name, value) => .flagChanged name (p.flag name) value) option turn
  /-- The text of the choice, the labels and the other options do not matter, if the run does not
  come back to the choice: whatever they are, and whatever has been handed over as the run began to
  wait, the turn is the same. -/
  choose_reword : r.index ∉ r.pathOf p (.choose i) →
    ∀ prompt options presented other, options[i]? = some other → other.goto = option.goto →
      other.setFlags = option.setFlags → (r.reword prompt options presented).Abreast →
        (r.reword prompt options presented).choose p i =
          .ok (turn.withScene (r.reword prompt options presented).scene)

/-- An option that is there can be taken. -/
theorem choose_eq_ok (hstate : r.state = .waitingForChoice)
    (hchoice : r.currentStep? = some (.choice prompt options)) {i : Nat}
    (hoption : options[i]? = some option) (p : Progress) :
    r.choose p i = .ok (r.takeOption p option) := by
  rw [choose, hstate, hchoice]
  dsimp only
  rw [hoption]
  rfl

/-- Its path is that of the run that has left the choice. -/
theorem pathOf_choose (hstate : r.state = .waitingForChoice)
    (hchoice : r.currentStep? = some (.choice prompt options)) {i : Nat}
    (hoption : options[i]? = some option) (p : Progress) :
    r.pathOf p (.choose i) =
      (r.leaveChoice (writeFlags p option.setFlags).1 option).1.path
        (writeFlags p option.setFlags).1 := by
  rw [pathOf, goesOn?, hstate, hchoice]
  dsimp only
  rw [hoption, Option.map_some, Option.elim_some]

/-- **A run that can come about obeys the options of its choices.** -/
theorem Reachable.obeys (h : r.Reachable) (hstate : r.state = .waitingForChoice)
    (hchoice : r.currentStep? = some (.choice prompt options)) {i : Nat}
    (hoption : options[i]? = some option) (p : Progress) :
    r.Obeys p i option (r.takeOption p option) where
  choose_eq := choose_eq_ok hstate hchoice hoption p
  takes := by
    have htakes := takes_takeOption (h.abreast.outdates h.counts hstate) p option
    have htold : (writeFlags p option.setFlags).2 = option.setFlags.toList.map
        fun (name, value) => .flagChanged name (p.flag name) value := by rw [writeFlags_eq]
    rw [htold] at htakes
    exact ⟨_, _, overwrites_writeFlags p option.setFlags, option.setFlags.lists_toList, htakes⟩
  choose_reword hpath prompt' options' presented other hother hgoto hflags habreast := by
    have hlt : r.index < r.scene.steps.length := (List.getElem?_eq_some_iff.mp hchoice).1
    have hreworded : (r.reword prompt' options' presented).currentStep? =
        some (.choice prompt' options') := List.getElem?_set_self hlt
    have hsame : (r.reword prompt' options' presented).takeOption p other =
        (r.reword prompt' options' presented).takeOption p option := by
      rw [takeOption, takeOption, leaveChoice, leaveChoice, hgoto, hflags]
    rw [pathOf_choose hstate hchoice hoption] at hpath
    rw [choose_eq_ok (r := r.reword prompt' options' presented) hstate hreworded hother, hsame]
    exact congrArg Except.ok
      (takeOption_reword h.counts h.abreast habreast hstate hchoice hpath)

/-- **A choice does exactly what its options say.** A run that waits for a choice stands at a choice
of its scene, and taking any of its options succeeds, writes the flags of the option, goes where it
leads, and depends on nothing else about the choice. And whatever is done to a run from its start
on, it touches nothing in the progress but the flags that steps and options of its scene name, and
the counters that its steps name: the rest is what the game alone has made of it. -/
theorem choose_obeys_option (h : r.Reachable) (hstate : r.state = .waitingForChoice) :
    (∃ prompt options, r.currentStep? = some (.choice prompt options) ∧
      ∀ i option, options[i]? = some option → ∀ p, ∃ turn, r.Obeys p i option turn) ∧
    ∀ (id : Uuid) (s : Scene) (p : Progress) (acts : List Act),
      s.Spares (p.heedAll acts) ((Turn.start id s p).actAll acts).progress := by
  obtain ⟨-, prompt, options, hchoice⟩ := h.coherent.waitingForChoice_iff.mp hstate
  exact ⟨⟨prompt, options, hchoice, fun i option hoption p =>
      ⟨_, h.obeys hstate hchoice hoption p⟩⟩,
    fun id s p acts => s.spares_actAll id p acts⟩

/-- The way to the glade. -/
def toGlade : ChoiceOption where
  label := "left"
  setFlags := .ofEntries [("turned", true), ("left", true)]
  goto := some "glade"

/-- A fork, where one way leads to a glade and the other one nowhere. -/
def fork : Scene where
  id := "fork"
  steps := [.choice (some "Which way?") [toGlade, { label := "right", goto := some "nowhere" }],
    .say { text := "Still here." }, .label "glade", .say { text := "A glade." }]

/-- A run that has come to the fork. -/
def atFork : Run := ((start default fork .empty).advance .empty).run

/-- Who turns left comes to the glade, and would do so where no other way is offered. -/
theorem obeys_atFork :
    (atFork.Reachable ∧ atFork.state = .waitingForChoice) ∧
    ∃ turn, atFork.Obeys .empty 0 toGlade turn ∧ turn.run.index = 3 ∧
      turn.effects.take 2 = [.flagChanged "left" false true, .flagChanged "turned" false true] ∧
      (atFork.reword none [toGlade] atFork.presented).choose .empty 0 =
        .ok (turn.withScene (atFork.reword none [toGlade] atFork.presented).scene) := by
  have hreachable : atFork.Reachable := .start default fork .empty .empty
  have hstate : atFork.state = .waitingForChoice := by decide +kernel
  have hfork : atFork.currentStep? =
      some (.choice (some "Which way?") [toGlade, { label := "right", goto := some "nowhere" }]) :=
    by decide +kernel
  have hleads : (atFork.choose .empty 0).toOption.map
      (fun turn => (turn.run.index, turn.effects.take 2)) =
        some (3, [.flagChanged "left" false true, .flagChanged "turned" false true]) := by
    decide +kernel
  have hpath : atFork.index ∉ atFork.pathOf .empty (.choose 0) := by decide +kernel
  obtain ⟨⟨prompt, options, hchoice, hobeys⟩, -⟩ := choose_obeys_option hreachable hstate
  obtain ⟨rfl, rfl⟩ : some "Which way?" = prompt ∧ _ = options :=
    Step.choice.inj (Option.some.inj (hfork.symm.trans hchoice))
  obtain ⟨turn, hturn⟩ := hobeys 0 toGlade rfl .empty
  rw [hturn.choose_eq] at hleads
  obtain ⟨hindex, heffects⟩ := Prod.mk.inj (Option.some.inj hleads)
  exact ⟨⟨hreachable, hstate⟩, turn, hturn, hindex, heffects,
    hturn.choose_reword hpath none [toGlade] atFork.presented toGlade rfl rfl rfl
      hreachable.abreast⟩

end Run

end Cutscene
