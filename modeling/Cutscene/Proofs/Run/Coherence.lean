import Cutscene.Proofs.Run.Effects

/-!
# What a Waiting Run Shows

Between operations a run waits or has ended, and what it shows belongs to the step at its place:
the line, the choice or the masked highlight that it waits at, and nothing that an earlier step
has left behind. `Run.Coherent` says so of a run at any moment. It holds also of a run that is
still running, which shows no line, no choice and no ticket, and so it passes through the loop
without being strengthened.

## Main results

* `Run.Lasting.coherent`: the strokes of a running run keep it coherent.
* `Run.Reachable.coherent`: every run that has advanced once is coherent, whatever is done to it.
* `Run.coherent_between_operations`: the same with the states between operations, and with what
  `Run.choose` accepts.
-/

namespace Cutscene

/-- The run waits for the player or for the host. -/
def RunState.isWaiting : RunState → Bool
  | waitingForChoice | waiting _ => true
  | idle | running | ended _ => false

namespace Run

/-! ### Coherence -/

/-- **What a run shows is what it waits at.** -/
structure Coherent (r : Run) : Prop where
  state_ne_idle : r.state ≠ .idle
  /-- The place is that of a step, or the one behind the last step. -/
  index_le : r.index ≤ r.scene.steps.length
  /-- A run waits for a choice exactly if it shows one. -/
  isSome_choice_iff : r.snapshot.choice.isSome ↔ r.state = .waitingForChoice
  /-- A waiting run stands at a choice exactly if it waits for a choice. -/
  waitingForChoice_iff : r.state = .waitingForChoice ↔
    r.state.isWaiting = true ∧
      ∃ prompt options, r.currentStep? = some (.choice prompt options)
  /-- The choice that is waited at has options, and their labels are shown in order. -/
  choice_eq : ∀ prompt options, r.state = .waitingForChoice →
    r.currentStep? = some (.choice prompt options) →
      options ≠ [] ∧ r.snapshot.choice = some ⟨prompt, options.map ChoiceOption.label⟩
  /-- What is acknowledged is a line, which is shown, or a masked highlight, which is shown
  with the mask on. -/
  acknowledgement : r.state = .waiting .acknowledgement →
    (∃ dialogue, r.currentStep? = some (.say dialogue) ∧
      r.snapshot.dialogue = some dialogue) ∨
    (∃ anchor shown, r.currentStep? = some (.highlight anchor true) ∧
      r.snapshot.highlight = some shown ∧ shown.anchor = anchor ∧ shown.maskInput = true ∧
      r.snapshot.inputMasked = true)
  /-- A timed wait is that of the step. -/
  timer : ∀ ms, r.state = .waiting (.timer ms) → r.currentStep? = some (.wait ms)
  /-- A wait for a flag is that of the step. -/
  flag : ∀ name value, r.state = .waiting (.flag name value) →
    r.currentStep? = some (.waitForFlag name value)
  /-- A line is shown only while it is waited for. -/
  dialogue : ∀ dialogue, r.snapshot.dialogue = some dialogue →
    r.state = .waiting .acknowledgement ∧ r.currentStep? = some (.say dialogue)
  /-- There is a ticket exactly while the run waits. -/
  isSome_ticket_iff : r.snapshot.ticket.isSome ↔ r.state.isWaiting = true
  /-- The ticket names the run and the place. -/
  ticket : ∀ ticket, r.snapshot.ticket = some ticket →
    ticket.run = r.id ∧ ticket.step = r.index
  /-- A sound is shown only while the run is running. -/
  sound : r.state ≠ .running → r.snapshot.sound = none

/-- A running run that shows no line, no choice and no ticket. -/
theorem coherent_of_running {r : Run} (hstate : r.state = .running)
    (hindex : r.index ≤ r.scene.steps.length) (hdialogue : r.snapshot.dialogue = none)
    (hchoice : r.snapshot.choice = none) (hticket : r.snapshot.ticket = none) : r.Coherent := by
  constructor <;> simp [hstate, hindex, hdialogue, hchoice, hticket, RunState.isWaiting]

/-- An ended run that shows nothing. -/
theorem coherent_of_ended {r : Run} (reason : EndReason) (hstate : r.state = .ended reason)
    (hindex : r.index ≤ r.scene.steps.length) (hdialogue : r.snapshot.dialogue = none)
    (hchoice : r.snapshot.choice = none) (hticket : r.snapshot.ticket = none)
    (hsound : r.snapshot.sound = none) : r.Coherent := by
  constructor <;>
    simp [hstate, hindex, hdialogue, hchoice, hticket, hsound, RunState.isWaiting]

namespace Coherent

variable {r : Run}

/-- A run that waits for no acknowledgement shows no line. -/
theorem dialogue_eq_none (h : r.Coherent) (hstate : r.state ≠ .waiting .acknowledgement) :
    r.snapshot.dialogue = none := by
  cases hd : r.snapshot.dialogue with
  | none => rfl
  | some dialogue => exact absurd (h.dialogue dialogue hd).1 hstate

/-- A run that waits for no choice shows none. -/
theorem choice_eq_none (h : r.Coherent) (hstate : r.state ≠ .waitingForChoice) :
    r.snapshot.choice = none := by
  rw [← Option.not_isSome_iff_eq_none]
  exact fun hc => hstate (h.isSome_choice_iff.mp hc)

/-- A run that does not wait has no ticket. -/
theorem ticket_eq_none (h : r.Coherent) (hstate : r.state.isWaiting = false) :
    r.snapshot.ticket = none := by
  rw [← Option.not_isSome_iff_eq_none]
  intro ht
  rw [h.isSome_ticket_iff.mp ht] at hstate
  cases hstate

/-- The state and the fields that coherence speaks of are all that it depends on. -/
theorem congr {r' : Run} (h : r.Coherent) (hid : r'.id = r.id) (hscene : r'.scene = r.scene)
    (hindex : r'.index = r.index) (hstate : r'.state = r.state)
    (hdialogue : r'.snapshot.dialogue = r.snapshot.dialogue)
    (hchoice : r'.snapshot.choice = r.snapshot.choice)
    (hhighlight : r'.snapshot.highlight.map (fun s => (s.anchor, s.maskInput)) =
      r.snapshot.highlight.map fun s => (s.anchor, s.maskInput))
    (hmasked : r'.snapshot.inputMasked = r.snapshot.inputMasked)
    (hticket : r'.snapshot.ticket = r.snapshot.ticket)
    (hsound : r'.snapshot.sound = r.snapshot.sound) : r'.Coherent := by
  have hstep : r'.currentStep? = r.currentStep? := by
    rw [currentStep?, currentStep?, hscene, hindex]
  refine
    { state_ne_idle := hstate ▸ h.state_ne_idle
      index_le := by rw [hindex, hscene]; exact h.index_le
      isSome_choice_iff := by rw [hchoice, hstate]; exact h.isSome_choice_iff
      waitingForChoice_iff := by rw [hstate, hstep]; exact h.waitingForChoice_iff
      choice_eq := by rw [hstate, hstep, hchoice]; exact h.choice_eq
      acknowledgement := ?_
      timer := by rw [hstate, hstep]; exact h.timer
      flag := by rw [hstate, hstep]; exact h.flag
      dialogue := by rw [hstate, hstep, hdialogue]; exact h.dialogue
      isSome_ticket_iff := by rw [hticket, hstate]; exact h.isSome_ticket_iff
      ticket := by rw [hticket, hid, hindex]; exact h.ticket
      sound := by rw [hstate, hsound]; exact h.sound }
  rw [hstate, hstep, hdialogue, hmasked]
  intro hack
  rcases h.acknowledgement hack with hline | ⟨anchor, shown, hs, hshown, ha, hm, hon⟩
  · exact .inl hline
  · rw [hshown, Option.map_some, Option.map_eq_some_iff] at hhighlight
    obtain ⟨shown', hshown', heq⟩ := hhighlight
    rw [Prod.mk.injEq] at heq
    exact .inr ⟨anchor, shown', hs, hshown', heq.1.trans ha, heq.2.trans hm, hon⟩

/-- Finishing blanks what is shown. -/
theorem finish (h : r.Coherent) (p : Progress) (reason : EndReason)
    (diagnostic : Option Diagnostic) : (r.finish p reason diagnostic).1.Coherent :=
  coherent_of_ended reason rfl h.index_le rfl rfl rfl rfl

/-- Showing what there is to show keeps a run coherent. -/
theorem present (h : r.Coherent) : r.present.1.Coherent := by
  obtain ⟨presented, shown, heq, -⟩ := r.exists_present
  rw [heq]
  exact h.congr rfl rfl rfl rfl rfl rfl rfl rfl rfl rfl

end Coherent

/-! ### The strokes of a running run -/

/-- A step that does not suspend the run leaves the line and the choice alone. -/
theorem execute_of_ne_suspend (r : Run) (p : Progress) (s : Step)
    (h : ∀ state, (r.execute p s).flow ≠ .suspend state) :
    (r.execute p s).run.snapshot.dialogue = r.snapshot.dialogue ∧
      (r.execute p s).run.snapshot.choice = r.snapshot.choice := by
  cases s with
  | say dialogue => exact absurd rfl (h (.waiting .acknowledgement))
  | choice prompt options =>
      rw [execute] at h ⊢
      split at h
      · next hempty => rw [if_pos hempty]; exact ⟨rfl, rfl⟩
      · exact absurd rfl (h .waitingForChoice)
  | _ => exact ⟨rfl, rfl⟩

/-- **A suspension is coherent.** The step decides what is waited for, and the five steps that
can suspend a run put up what they wait at. -/
theorem Coherent.suspend {r : Run} {p : Progress} {s : Step} {state : RunState}
    (h : r.Coherent) (hrun : r.state = .running) (hsound : r.snapshot.sound = none)
    (hs : r.currentStep? = some s) (hflow : (r.execute p s).flow = .suspend state) :
    Coherent
      { (r.execute p s).run with
          state
          tickets := (r.execute p s).run.tickets + 1
          snapshot.ticket := some (r.execute p s).run.nextTicket } := by
  -- The run has shown neither a line nor a choice before, since it was running.
  have hdialogue := h.dialogue_eq_none (by rw [hrun]; rintro ⟨⟩)
  have hchoice := h.choice_eq_none (by rw [hrun]; rintro ⟨⟩)
  have hindex := h.index_le
  rw [currentStep?] at hs
  cases s with
  | say dialogue =>
      cases hflow
      constructor <;>
        simp [execute, currentStep?, nextTicket, hs, hindex, hchoice, hsound, RunState.isWaiting]
  | choice prompt options =>
      rw [execute] at hflow ⊢
      split at hflow
      · cases hflow
      · next hsome =>
        cases hflow
        rw [if_neg hsome]
        constructor <;>
          simp [currentStep?, nextTicket, hs, hindex, hdialogue, hsound, RunState.isWaiting]
        exact hsome
  | wait ms =>
      cases hflow
      constructor <;>
        simp [execute, currentStep?, nextTicket, hs, hindex, hdialogue, hchoice, hsound,
          RunState.isWaiting]
  | waitForFlag name value =>
      rw [execute] at hflow ⊢
      split at hflow
      · cases hflow
      · cases hflow
        constructor <;>
          simp [currentStep?, nextTicket, hs, hindex, hdialogue, hchoice, hsound,
            RunState.isWaiting]
  | highlight anchor maskInput =>
      cases maskInput with
      | false => cases hflow
      | true =>
          cases hflow
          constructor <;>
            simp [execute, currentStep?, nextTicket, hs, hindex, hdialogue, hchoice, hsound,
              RunState.isWaiting]
  | branch flag thenLabel elseLabel => exact absurd hflow (toLabel_ne_suspend _ _)
  | checkCounter counter min max thenLabel elseLabel =>
      exact absurd hflow (toLabel_ne_suspend _ _)
  | _ => cases hflow

/-- **The strokes of a running run keep it coherent.** -/
theorem Lasting.coherent : Lasting fun r _ _ => r.Coherent where
  execute {r p es s} hrun hs h := by
    have hquiet : Coherent { r with snapshot.sound := none } :=
      coherent_of_running hrun h.index_le (h.dialogue_eq_none (by rw [hrun]; rintro ⟨⟩))
        (h.choice_eq_none (by rw [hrun]; rintro ⟨⟩)) (h.ticket_eq_none (by rw [hrun]; rfl))
    dsimp only
    generalize hr : { r with snapshot.sound := none } = r' at hquiet ⊢
    have hrun' : r'.state = .running := by rw [← hr]; exact hrun
    have hs' : r'.currentStep? = some s := by rw [← hr]; exact hs
    have hsound : r'.snapshot.sound = none := by rw [← hr]
    rcases follow_cases (r'.execute p s).run (r'.execute p s).progress (r'.execute p s).flow with
      ⟨state, hflow, heq⟩ | ⟨hflow, ⟨index, hindex, heq⟩ | ⟨reason, diagnostic, heq⟩⟩
    · rw [heq]
      exact hquiet.suspend hrun' hsound hs' hflow
    · obtain ⟨hdialogue, hchoice⟩ := execute_of_ne_suspend r' p s hflow
      have hlt : r'.index < r'.scene.steps.length := (List.getElem?_eq_some_iff.mp hs').1
      rw [index_execute, scene_execute] at hindex
      rw [heq]
      refine coherent_of_running ?_ ?_ ?_ ?_ ?_
      · rw [← hrun', ← state_execute r' p s]
      · dsimp only
        rw [scene_execute]
        omega
      · exact hdialogue.trans (hquiet.dialogue_eq_none (by rw [hrun']; rintro ⟨⟩))
      · exact hchoice.trans (hquiet.choice_eq_none (by rw [hrun']; rintro ⟨⟩))
      · exact (ticket_execute r' p s).trans (hquiet.ticket_eq_none (by rw [hrun']; rfl))
    · rw [heq]
      refine coherent_of_ended reason rfl ?_ rfl rfl rfl rfl
      dsimp only [Run.finish]
      rw [index_execute, scene_execute]
      exact hquiet.index_le
  finish reason diagnostic _ _ h := h.finish _ reason diagnostic
  present h := h.present

/-! ### Operations -/

/-- A run that has not executed anything yet is coherent. -/
theorem coherent_start (id : Uuid) (scene : Scene) (p : Progress) :
    (start id scene p).Coherent :=
  coherent_of_running rfl (Nat.zero_le _) rfl rfl rfl

/-- A run that is answered was waiting. -/
theorem Answers.isWaiting {r : Run} {p : Progress} {turn : Turn} (h : r.Answers p turn) :
    r.state.isWaiting = true := by
  obtain ⟨r', p', es, hr, -⟩ := h.exists_resumes
  cases hr with
  | choice hstate _ _ | line hstate _ | highlight hstate _ | timer hstate | flag hstate _ =>
      rw [hstate]; rfl

/-- A run that goes on after its suspension, or has ended in leaving a choice, is coherent: the
answer takes down what was waited at. -/
theorem Resumes.coherent {r r' : Run} {p p' : Progress} {es : List Effect}
    (hr : r.Resumes p r' p' es) (h : r.Coherent) : r'.Coherent := by
  cases hr with
  | @choice prompt options option hstate hstep hoption =>
      have hlt : r.index < r.scene.steps.length := (List.getElem?_eq_some_iff.mp hstep).1
      have hdialogue := h.dialogue_eq_none (by rw [hstate]; rintro ⟨⟩)
      -- An option may jump to a label that is nowhere. Then the run has ended instead.
      rcases follow_cases { r with snapshot.choice := none }.resume
          (writeFlags p option.setFlags).1 (Flow.toLabel option.goto) with
        ⟨state, hflow, -⟩ | ⟨-, ⟨index, hindex, heq⟩ | ⟨reason, diagnostic, heq⟩⟩
      · exact absurd hflow (toLabel_ne_suspend _ _)
      · rw [leaveChoice, heq]
        refine coherent_of_running rfl ?_ hdialogue rfl rfl
        dsimp only [resume] at hindex ⊢
        omega
      · rw [leaveChoice, heq]
        exact coherent_of_ended reason rfl h.index_le rfl rfl rfl rfl
  | line hstate hmask =>
      obtain ⟨dialogue, hs, -⟩ | ⟨anchor, shown, hs, -⟩ := h.acknowledgement hstate
      · have hlt : r.index < r.scene.steps.length := (List.getElem?_eq_some_iff.mp hs).1
        exact coherent_of_running rfl hlt rfl
          (h.choice_eq_none (by rw [hstate]; rintro ⟨⟩)) rfl
      · rw [isAtMaskedHighlight, hs] at hmask
        cases hmask
  | highlight hstate hmask =>
      obtain ⟨dialogue, hs, -⟩ | ⟨anchor, shown, hs, -⟩ := h.acknowledgement hstate
      · rw [isAtMaskedHighlight, hs] at hmask
        cases hmask
      · have hlt : r.index < r.scene.steps.length := (List.getElem?_eq_some_iff.mp hs).1
        exact coherent_of_running rfl hlt rfl
          (h.choice_eq_none (by rw [hstate]; rintro ⟨⟩)) rfl
  | timer hstate =>
      have hlt : r.index < r.scene.steps.length :=
        (List.getElem?_eq_some_iff.mp (h.timer _ hstate)).1
      exact coherent_of_running rfl hlt (h.dialogue_eq_none (by rw [hstate]; rintro ⟨⟩))
        (h.choice_eq_none (by rw [hstate]; rintro ⟨⟩)) rfl
  | flag hstate hflag =>
      have hlt : r.index < r.scene.steps.length :=
        (List.getElem?_eq_some_iff.mp (h.flag _ _ hstate)).1
      exact coherent_of_running rfl hlt (h.dialogue_eq_none (by rw [hstate]; rintro ⟨⟩))
        (h.choice_eq_none (by rw [hstate]; rintro ⟨⟩)) rfl

namespace Coherent

variable {r : Run}

/-- Advancing keeps a run coherent. -/
theorem advance (h : r.Coherent) (p : Progress) : (r.advance p).run.Coherent :=
  Lasting.coherent.advance [] h

/-- So does any answer to what it waits for. -/
theorem answers (h : r.Coherent) {p : Progress} {turn : Turn} (hturn : r.Answers p turn) :
    turn.run.Coherent :=
  Lasting.coherent.answers hturn fun _ _ _ hr => hr.coherent h

/-- So does breaking it off, whether or not it was still going on. -/
theorem interrupt (h : r.Coherent) (p : Progress) : (r.interrupt p).1.Coherent := by
  rw [Run.interrupt]
  split
  · exact (h.finish p .interrupted none).present
  · exact h

/-- A rectangle changes the highlight alone, whose anchor and mask stay. -/
theorem applyGeometry (h : r.Coherent) (ticket : Ticket) (rect : Option Rect) :
    (r.applyGeometry ticket rect).1.Coherent := by
  rw [Run.applyGeometry]
  split
  · split
    · next shown hshown =>
      refine Coherent.present (h.congr rfl rfl rfl rfl rfl rfl ?_ rfl rfl rfl)
      rw [hshown]
      rfl
    · exact h
  · exact h

end Coherent

/-- **Whatever is done to a coherent run, it is coherent.** -/
theorem Course.coherent {r₀ r : Run} {es : List Effect} (h : Course r₀ es r)
    (h₀ : r₀.Coherent) : r.Coherent := by
  induction h with
  | nil => exact h₀
  | advance _ p ih => exact ih.advance p
  | answer _ hturn ih => exact ih.answers hturn
  | interrupt _ p ih => exact ih.interrupt p
  | applyGeometry _ ticket rect ih => exact ih.applyGeometry ticket rect

/-- A run that has advanced once, and has then been operated on in any order, each time with any
progress and any arguments. An operation that is rejected leaves the run as it is. -/
inductive Reachable : Run → Prop
  | start (id : Uuid) (scene : Scene) (p q : Progress) :
      Reachable ((start id scene p).advance q).run
  | advance {r : Run} (h : Reachable r) (p : Progress) : Reachable (r.advance p).run
  | choose {r : Run} (h : Reachable r) (p : Progress) (option : Nat) {turn : Turn}
      (hturn : r.choose p option = .ok turn) : Reachable turn.run
  | acknowledge {r : Run} (h : Reachable r) (p : Progress) {turn : Turn}
      (hturn : r.acknowledge? p = some turn) : Reachable turn.run
  | resumeTimer {r : Run} (h : Reachable r) (p : Progress) (ticket : Ticket) {turn : Turn}
      (hturn : r.resumeTimer? p ticket = some turn) : Reachable turn.run
  | notifyFlag {r : Run} (h : Reachable r) (p : Progress) {turn : Turn}
      (hturn : r.notifyFlag? p = some turn) : Reachable turn.run
  | interrupt {r : Run} (h : Reachable r) (p : Progress) : Reachable (r.interrupt p).1
  | applyGeometry {r : Run} (h : Reachable r) (ticket : Ticket) (rect : Option Rect) :
      Reachable (r.applyGeometry ticket rect).1

/-- Answers lead from reachable runs to reachable runs. -/
theorem Reachable.answers {r : Run} (h : r.Reachable) {p : Progress} {turn : Turn}
    (hturn : r.Answers p turn) : turn.run.Reachable := by
  cases hturn with
  | choose option hturn => exact h.choose p option hturn
  | acknowledge hturn => exact h.acknowledge p hturn
  | resumeTimer ticket hturn => exact h.resumeTimer p ticket hturn
  | notifyFlag hturn => exact h.notifyFlag p hturn

/-- **Every operation keeps a run coherent.** -/
theorem Reachable.coherent {r : Run} (h : r.Reachable) : r.Coherent := by
  induction h with
  | start id scene p q => exact (coherent_start id scene p).advance q
  | advance _ p ih => exact ih.advance p
  | choose _ p option hturn ih => exact ih.answers (.choose option hturn)
  | acknowledge _ p hturn ih => exact ih.answers (.acknowledge hturn)
  | resumeTimer _ p ticket hturn ih => exact ih.answers (.resumeTimer ticket hturn)
  | notifyFlag _ p hturn ih => exact ih.answers (.notifyFlag hturn)
  | interrupt _ p ih => exact ih.interrupt p
  | applyGeometry _ ticket rect ih => exact ih.applyGeometry ticket rect

/-- Between operations no run is running. -/
theorem Reachable.state_ne_running {r : Run} (h : r.Reachable) : r.state ≠ .running := by
  induction h with
  | start id scene p q => exact state_advance_ne_running _ _
  | advance _ p _ => exact state_advance_ne_running _ _
  | choose _ p option hturn _ => exact Answers.state_ne_running (.choose option hturn)
  | acknowledge _ p hturn _ => exact Answers.state_ne_running (.acknowledge hturn)
  | resumeTimer _ p ticket hturn _ => exact Answers.state_ne_running (.resumeTimer ticket hturn)
  | notifyFlag _ p hturn _ => exact Answers.state_ne_running (.notifyFlag hturn)
  | interrupt _ p ih =>
      rw [Run.interrupt]
      split
      · dsimp only
        rw [state_present]
        rintro ⟨⟩
      · exact ih
  | @applyGeometry r _ ticket rect ih =>
      rw [Run.applyGeometry]
      split
      · split
        · dsimp only
          rw [state_present]
          exact ih
        · exact ih
      · exact ih

/-! ### Between operations -/

/-- A run waits at a timed wait exactly if it waits for time to pass. -/
theorem Coherent.timer_iff {r : Run} (h : r.Coherent) (ms : UInt64) :
    r.state = .waiting (.timer ms) ↔
      r.state.isWaiting = true ∧ r.currentStep? = some (.wait ms) := by
  constructor
  · intro hstate
    exact ⟨by rw [hstate]; rfl, h.timer ms hstate⟩
  · rintro ⟨hwaiting, hstep⟩
    cases hstate : r.state with
    | idle | running | ended => rw [hstate] at hwaiting; cases hwaiting
    | waitingForChoice =>
        obtain ⟨-, prompt, options, hchoice⟩ := h.waitingForChoice_iff.mp hstate
        rw [hstep] at hchoice
        cases hchoice
    | waiting wait =>
        cases wait with
        | acknowledgement =>
            obtain ⟨dialogue, hs, -⟩ | ⟨anchor, shown, hs, -⟩ := h.acknowledgement hstate <;>
              (rw [hstep] at hs; cases hs)
        | timer ms' =>
            have hs := h.timer ms' hstate
            rw [hstep] at hs
            cases hs
            rfl
        | flag name value =>
            have hs := h.flag name value hstate
            rw [hstep] at hs
            cases hs

/-- An option can be taken exactly if it is one of those that are shown. -/
theorem Coherent.choose_eq_ok_iff {r : Run} (h : r.Coherent) (p : Progress) (option : Nat) :
    (∃ turn, r.choose p option = .ok turn) ↔
      ∃ shown, r.snapshot.choice = some shown ∧ option < shown.options.length := by
  constructor
  · rintro ⟨turn, hturn⟩
    rw [choose] at hturn
    split at hturn
    · next prompt options hstate hstep =>
      split at hturn
      · next hoption =>
        refine ⟨_, (h.choice_eq prompt options hstate hstep).2, ?_⟩
        rw [List.length_map]
        exact (List.getElem?_eq_some_iff.mp hoption).1
      · cases hturn
    · cases hturn
  · rintro ⟨shown, hshown, hlt⟩
    have hstate : r.state = .waitingForChoice :=
      h.isSome_choice_iff.mp (by rw [hshown]; rfl)
    obtain ⟨-, prompt, options, hstep⟩ := h.waitingForChoice_iff.mp hstate
    have heq := (h.choice_eq prompt options hstate hstep).2
    rw [hshown, Option.some.injEq] at heq
    rw [heq, List.length_map] at hlt
    rw [choose, hstate, hstep]
    dsimp only
    rw [List.getElem?_eq_getElem hlt]
    exact ⟨_, rfl⟩

/-- **Between operations a run shows what it waits at, and nothing else.** It neither runs nor
idles, its place is one of the scene, a line, a choice, a masked highlight, a timed wait and a
wait for a flag are those of the step at its place, it has a ticket for that place exactly while
it waits, no sound lingers, and exactly the shown options can be taken. -/
theorem coherent_between_operations {r : Run} (h : r.Reachable) :
    r.Coherent ∧ r.state ≠ .running ∧ r.snapshot.sound = none ∧
      ∀ (p : Progress) (option : Nat), (∃ turn, r.choose p option = .ok turn) ↔
        ∃ shown, r.snapshot.choice = some shown ∧ option < shown.options.length :=
  ⟨h.coherent, h.state_ne_running, h.coherent.sound h.state_ne_running,
    h.coherent.choose_eq_ok_iff⟩

/-- A scene with a sound, a masked highlight and a choice that leads back to it. -/
def crossroads : Scene where
  id := "crossroads"
  steps := [.label "top", .playSound "bell", .highlight "signpost" true,
    .choice (some "Which way?") [{ label := "left" }, { label := "back", goto := some "top" }]]

/-- A run that has acknowledged the highlight, gone back, and acknowledged it again. -/
theorem coherent_at_crossroads :
    ∃ r : Run, r.Reachable ∧ r.state = .waitingForChoice ∧
      r.snapshot.choice = some ⟨some "Which way?", ["left", "back"]⟩ ∧
      (r.Coherent ∧ r.state ≠ .running ∧ r.snapshot.sound = none ∧
        ∀ (p : Progress) (option : Nat), (∃ turn, r.choose p option = .ok turn) ↔
          ∃ shown, r.snapshot.choice = some shown ∧ option < shown.options.length) := by
  have hstart := Reachable.start default crossroads .empty .empty
  have hfirst := hstart.acknowledge .empty rfl
  have hback := hfirst.choose .empty 1 rfl
  have hagain := hback.acknowledge .empty rfl
  exact ⟨_, hagain, rfl, rfl, coherent_between_operations hagain⟩

end Run

end Cutscene
