import Cutscene.Run
import Mathlib.Data.List.Basic

/-!
# How a Run Advances

Everything that happens to a run between two operations is a sequence of three strokes: a step is
executed and followed, the run is finished, or the snapshot is handed over. This module says what
each stroke leaves alone, and packages the loop over them once and for all: an assertion about the
run, the progress and the effects so far that each stroke keeps is kept by `Run.advance`.

An operation that answers a suspension first prepares the run to go on (`Run.Resumes`) and then
advances it, so that the same assertions carry over to every accepted answer.

## Main results

* `Run.present_cases`, `Run.applyGeometry_cases`: what handing the snapshot over and noting a place
  come down to.
* `Run.exists_execute`: what executing a step may touch.
* `Run.Lasting.advance`: an assertion that the three strokes keep holds after the run has
  advanced.
* `Run.state_advance_ne_running`: a run that has advanced waits or has ended.
* `Run.Answers.exists_resumes`: every accepted answer prepares the run and advances it.
* `Run.Lasting.answers`: an assertion that holds of the prepared run holds after the answer.
-/

namespace Cutscene

namespace Run

/-! ### Handing over and finishing -/

/-- Handing over aligns the shown state with the run's and notes the snapshot; the only effects
are handed-over snapshots. -/
theorem exists_present (r : Run) :
    ∃ presented shown, r.present = ({ r with snapshot.state := r.state, presented }, shown) ∧
      ∀ e ∈ shown, ∃ s, e = .present s := by
  rw [present]
  split
  · exact ⟨r.presented, [], rfl, by simp⟩
  · exact ⟨_, _, rfl, by simp⟩

/-- What is shown once the run hands its snapshot over. -/
def view (r : Run) : Snapshot := { r.snapshot with state := r.state }

/-- **The snapshot is handed over exactly if it looks different from the last one.** -/
theorem present_cases (r : Run) :
    (∃ s, r.presented = some s ∧ s.looksLike r.view = true ∧
      r.present = ({ r with snapshot := r.view }, [])) ∨
    ((∀ s, r.presented = some s → s.looksLike r.view = false) ∧
      r.present =
        ({ r with snapshot := r.view, presented := some r.view }, [.present r.view])) := by
  rw [present]
  dsimp only
  split
  · next hsame =>
    obtain ⟨s, hs, hlooks⟩ := (Option.any_eq_true _ _).mp hsame
    exact .inl ⟨s, hs, hlooks, rfl⟩
  · next hdiffers =>
    refine .inr ⟨fun s hs => ?_, rfl⟩
    rw [hs] at hdiffers
    exact Bool.eq_false_iff.mpr hdiffers

/-- Nothing is handed over where the last snapshot looks like this one. -/
theorem present_eq_self {r : Run} {s : Snapshot} (hs : r.presented = some s)
    (hlooks : s.looksLike r.snapshot = true) (hstate : r.snapshot.state = r.state) :
    r.present = (r, []) := by
  have hview : r.view = r.snapshot := by rw [view, ← hstate]
  rcases r.present_cases with ⟨-, -, -, heq⟩ | ⟨hdiffers, -⟩
  · rw [heq, hview]
  · rw [← hview, hdiffers s hs] at hlooks
    cases hlooks

/-- A run that is finished has ended, for the given reason. -/
@[simp] theorem state_finish (r : Run) (p : Progress) (reason : EndReason)
    (diagnostic : Option Diagnostic) :
    (r.finish p reason diagnostic).1.state = .ended reason := rfl

/-- Handing the snapshot over does not change which run it is. -/
@[simp] theorem id_present (r : Run) : r.present.1.id = r.id := by
  obtain ⟨presented, shown, h, -⟩ := r.exists_present
  rw [h]

/-- Nor does it change the scene. -/
@[simp] theorem scene_present (r : Run) : r.present.1.scene = r.scene := by
  obtain ⟨presented, shown, h, -⟩ := r.exists_present
  rw [h]

/-- Nor does it change the state. -/
@[simp] theorem state_present (r : Run) : r.present.1.state = r.state := by
  obtain ⟨presented, shown, h, -⟩ := r.exists_present
  rw [h]

/-! ### Executing a step -/

/-- **Executing a step touches nothing but what is shown**, the count of the tickets, and the ticket
of the highlight. The ticket that is shown is that of a suspension, and stays. -/
theorem exists_execute (r : Run) (p : Progress) (s : Step) :
    ∃ snapshot tickets highlightTicket,
      (r.execute p s).run = { r with snapshot, tickets, highlightTicket } ∧
        snapshot.ticket = r.snapshot.ticket := by
  cases s with
  | choice prompt options =>
      rw [execute]
      split
      · exact ⟨_, _, _, rfl, rfl⟩
      · exact ⟨_, _, _, rfl, rfl⟩
  | _ => exact ⟨_, _, _, rfl, rfl⟩

/-- Executing a step does not change which run it is. -/
@[simp] theorem id_execute (r : Run) (p : Progress) (s : Step) :
    (r.execute p s).run.id = r.id := by
  obtain ⟨snapshot, tickets, highlightTicket, h, -⟩ := r.exists_execute p s
  rw [h]

/-- Nor does it change the scene. -/
@[simp] theorem scene_execute (r : Run) (p : Progress) (s : Step) :
    (r.execute p s).run.scene = r.scene := by
  obtain ⟨snapshot, tickets, highlightTicket, h, -⟩ := r.exists_execute p s
  rw [h]

/-- Nor does it move the run, which goes on only when the step is followed. -/
@[simp] theorem index_execute (r : Run) (p : Progress) (s : Step) :
    (r.execute p s).run.index = r.index := by
  obtain ⟨snapshot, tickets, highlightTicket, h, -⟩ := r.exists_execute p s
  rw [h]

/-- Nor does it change the state. -/
@[simp] theorem state_execute (r : Run) (p : Progress) (s : Step) :
    (r.execute p s).run.state = r.state := by
  obtain ⟨snapshot, tickets, highlightTicket, h, -⟩ := r.exists_execute p s
  rw [h]

/-- Nor does it give out a ticket. -/
@[simp] theorem ticket_execute (r : Run) (p : Progress) (s : Step) :
    (r.execute p s).run.snapshot.ticket = r.snapshot.ticket := by
  obtain ⟨snapshot, tickets, highlightTicket, h, hticket⟩ := r.exists_execute p s
  rw [h, hticket]

/-- Nor does it hand anything over. -/
@[simp] theorem presented_execute (r : Run) (p : Progress) (s : Step) :
    (r.execute p s).run.presented = r.presented := by
  obtain ⟨snapshot, tickets, highlightTicket, h, -⟩ := r.exists_execute p s
  rw [h]

/-- A label stands at one of the steps. -/
theorem findLabel?_lt {steps : List Step} {name : String} {i : Nat}
    (h : Scene.findLabel? steps name = some i) : i < steps.length := by
  rw [Scene.findLabel?, List.findIdx?_eq_some_iff_getElem] at h
  exact h.1

/-- Where an option leads, no run is suspended. -/
theorem toLabel_ne_suspend (label : Option String) (state : RunState) :
    Flow.toLabel label ≠ .suspend state := by
  cases label <;> rintro ⟨⟩

/-- A step suspends a run only to make it wait. -/
theorem waits_of_execute {r : Run} {p : Progress} {s : Step} {state : RunState}
    (h : (r.execute p s).flow = .suspend state) :
    state = .waitingForChoice ∨ ∃ wait, state = .waiting wait := by
  cases s with
  | say dialogue => cases h; exact .inr ⟨_, rfl⟩
  | choice prompt options =>
      rw [execute] at h
      split at h
      · cases h
      · cases h; exact .inl rfl
  | wait ms => cases h; exact .inr ⟨_, rfl⟩
  | waitForFlag name value =>
      rw [execute] at h
      split at h
      · cases h
      · cases h; exact .inr ⟨_, rfl⟩
  | highlight anchor maskInput =>
      cases maskInput with
      | false => cases h
      | true => cases h; exact .inr ⟨_, rfl⟩
  | branch flag thenLabel elseLabel => exact absurd h (toLabel_ne_suspend _ _)
  | checkCounter counter min max thenLabel elseLabel =>
      exact absurd h (toLabel_ne_suspend _ _)
  | _ => cases h

/-- **Where a step leads**: into a suspension, to another place, or to the end of the run. -/
theorem follow_cases (r : Run) (p : Progress) (flow : Flow) :
    (∃ state, flow = .suspend state ∧ r.follow p flow =
      ({ r with state, tickets := r.tickets + 1, snapshot.ticket := some r.nextTicket }, [])) ∨
    ((∀ state, flow ≠ .suspend state) ∧
      ((∃ index, (index = r.index + 1 ∨ index < r.scene.steps.length) ∧
        r.follow p flow = ({ r with index }, [])) ∨
      (∃ reason diagnostic, r.follow p flow = r.finish p reason diagnostic))) := by
  cases flow with
  | suspend state => exact .inl ⟨state, rfl, rfl⟩
  | next => exact .inr ⟨by rintro _ ⟨⟩, .inl ⟨r.index + 1, .inl rfl, rfl⟩⟩
  | jump label =>
      refine .inr ⟨by rintro _ ⟨⟩, ?_⟩
      rw [follow, jump]
      cases h : Scene.findLabel? r.scene.steps label with
      | some index => exact .inl ⟨index, .inr (findLabel?_lt h), rfl⟩
      | none => exact .inr ⟨_, _, rfl⟩
  | finish => exact .inr ⟨by rintro _ ⟨⟩, .inr ⟨_, _, rfl⟩⟩
  | abort diagnostic => exact .inr ⟨by rintro _ ⟨⟩, .inr ⟨_, _, rfl⟩⟩

/-! ### Assertions that last -/

/-- How a run ends without a step that ends it: behind the last step, or when the budget is
spent. -/
inductive Expires : EndReason → Option Diagnostic → Prop
  | completed : Expires .completed none
  | budget : Expires .interrupted (some (.budget budget))

/-- An assertion about a run, the progress and the effects so far that every stroke of a running
run keeps. -/
structure Lasting (Inv : Run → Progress → List Effect → Prop) : Prop where
  /-- Executing the current step and going where it leads. -/
  execute : ∀ {r : Run} {p : Progress} {es : List Effect} {s : Step}, r.state = .running →
    r.currentStep? = some s → Inv r p es →
    let done := { r with snapshot.sound := none }.execute p s
    let followed := done.run.follow done.progress done.flow
    Inv followed.1 done.progress (es ++ done.effects ++ followed.2)
  /-- Ending the run. -/
  finish : ∀ {r : Run} {p : Progress} {es : List Effect} (reason : EndReason)
    (diagnostic : Option Diagnostic), Expires reason diagnostic → r.state = .running →
    Inv r p es → Inv (r.finish p reason diagnostic).1 p (es ++ (r.finish p reason diagnostic).2)
  /-- Handing the snapshot over. -/
  present : ∀ {r : Run} {p : Progress} {es : List Effect}, Inv r p es →
    Inv r.present.1 p (es ++ r.present.2)

namespace Lasting

variable {Inv : Run → Progress → List Effect → Prop} {r : Run} {p : Progress}
  {es : List Effect}

/-- A step keeps an assertion that lasts, since it is made of the three strokes. -/
theorem step (hInv : Lasting Inv) (hrun : r.state = .running) (h : Inv r p es) :
    Inv (r.step p).run (r.step p).progress (es ++ (r.step p).effects) := by
  have hsame : { r with snapshot.sound := none }.currentStep? = r.currentStep? := rfl
  rw [Run.step, hsame]
  cases hs : r.currentStep? with
  | none =>
      have hdone := hInv.present (hInv.finish _ _ .completed hrun h)
      rw [List.append_assoc] at hdone
      exact hdone
  | some s =>
      have hdone := hInv.present (hInv.execute hrun hs h)
      simp only [List.append_assoc] at hdone ⊢
      exact hdone

/-- The loop keeps what one step keeps. Induction on the steps that are left; the budget adds the
one forced end. -/
theorem loop (hInv : Lasting Inv) (left : Nat) (h : Inv r p es) :
    Inv (loop left r p).run (loop left r p).progress (es ++ (loop left r p).effects) := by
  induction left generalizing r p es with
  | zero =>
      rw [Run.loop]
      split
      · next hrun => exact hInv.finish _ _ .budget hrun h
      · simpa using h
  | succ left ih =>
      rw [Run.loop]
      split
      · next hrun =>
        have hlater := ih (hInv.step hrun h)
        rw [List.append_assoc] at hlater
        exact hlater
      · simpa using h

/-- **What every stroke keeps holds after the run has advanced.** -/
theorem advance (hInv : Lasting Inv) (es : List Effect) (h : Inv r p es) :
    Inv (r.advance p).run (r.advance p).progress (es ++ (r.advance p).effects) := by
  have hdone := hInv.present (hInv.loop budget h)
  rw [List.append_assoc] at hdone
  exact hdone

end Lasting

/-- What a step leads to is the same run of the same scene. -/
theorem same_follow (r : Run) (p : Progress) (flow : Flow) :
    (r.follow p flow).1.id = r.id ∧ (r.follow p flow).1.scene = r.scene := by
  rcases follow_cases r p flow with
    ⟨state, -, heq⟩ | ⟨-, ⟨index, -, heq⟩ | ⟨reason, diagnostic, heq⟩⟩ <;>
    (rw [heq]; exact ⟨rfl, rfl⟩)

/-- A run remains the same run of the same scene. -/
theorem Lasting.same (id : Uuid) (scene : Scene) :
    Lasting fun r _ _ => r.id = id ∧ r.scene = scene where
  execute {r p es s} _ _ h := by
    have hsame := same_follow ({ r with snapshot.sound := none }.execute p s).run
      ({ r with snapshot.sound := none }.execute p s).progress
      ({ r with snapshot.sound := none }.execute p s).flow
    rw [id_execute, scene_execute] at hsame
    exact ⟨hsame.1.trans h.1, hsame.2.trans h.2⟩
  finish _ _ _ _ h := h
  present h := ⟨(id_present _).trans h.1, (scene_present _).trans h.2⟩

/-- **Executing steps comes to an end**: the run waits, or it has ended. -/
theorem state_loop_ne_running (left : Nat) (r : Run) (p : Progress) :
    (loop left r p).run.state ≠ .running := by
  induction left generalizing r p with
  | zero =>
      rw [loop]
      split
      · simp
      · next hrun => exact hrun
  | succ left ih =>
      rw [loop]
      split
      · exact ih _ _
      · next hrun => exact hrun

/-- A run that is not running executes no step. -/
theorem loop_of_ne_running {r : Run} (hrun : r.state ≠ .running) (left : Nat) (p : Progress) :
    loop left r p = { run := r, progress := p } := by
  cases left <;> rw [loop, if_neg hrun]

/-- A run that is not running, and has nothing to hand over, does not advance. -/
theorem advance_eq_self {r : Run} (hrun : r.state ≠ .running) (hpresent : r.present = (r, []))
    (p : Progress) : r.advance p = { run := r, progress := p } := by
  rw [advance, loop_of_ne_running hrun]
  dsimp only
  rw [hpresent]
  rfl

/-- A run that has advanced waits or has ended. -/
theorem state_advance_ne_running (r : Run) (p : Progress) :
    (r.advance p).run.state ≠ .running := by
  have h := state_loop_ne_running budget r p
  rw [← state_present] at h
  exact h

/-! ### Answers to a suspension -/

/-- The turn is what an accepted answer to the run's suspension leads to. -/
inductive Answers (r : Run) (p : Progress) (turn : Turn) : Prop
  | choose (option : Nat) (h : r.choose p option = .ok turn)
  | acknowledge (h : r.acknowledge? p = some turn)
  | resumeTimer (ticket : Ticket) (h : r.resumeTimer? p ticket = some turn)
  | notifyFlag (h : r.notifyFlag? p = some turn)

/-- What the writing of one flag keeps, the writing of several keeps. The assertion is about the
progress and the effects so far. -/
theorem writeFlags_induction {P : Progress → List Effect → Prop} {p : Progress}
    {flags : NameMap Bool} (h₀ : P p [])
    (hP : ∀ (q : Progress) (es : List Effect) (name : String) (value : Bool), P q es →
      P (q.setFlag name value) (es ++ [.flagChanged name (q.flag name) value])) :
    P (writeFlags p flags).1 (writeFlags p flags).2 := by
  obtain ⟨write, hwrite, heq⟩ :
      ∃ write : Progress × List Effect → String × Bool → Progress × List Effect,
        (∀ q es name value, write (q, es) (name, value) =
          (q.setFlag name value, es ++ [.flagChanged name (q.flag name) value])) ∧
        writeFlags p flags = flags.toList.foldl write (p, []) := ⟨_, fun _ _ _ _ => rfl, rfl⟩
  rw [heq]
  generalize flags.toList = entries
  suffices h : ∀ (q : Progress) (es : List Effect), P q es →
      P (entries.foldl write (q, es)).1 (entries.foldl write (q, es)).2 from h p [] h₀
  induction entries with
  | nil => intro q es h; exact h
  | cons entry rest ih =>
      intro q es h
      rw [List.foldl_cons, hwrite]
      exact ih _ _ (hP q es entry.1 entry.2 h)

/-- The pending choice is taken down, and the run goes where an option leads. -/
def leaveChoice (r : Run) (p : Progress) (option : ChoiceOption) : Run × List Effect :=
  { r with snapshot.choice := none }.resume.follow p (Flow.toLabel option.goto)

/-- How a suspended run is prepared to go on: the run and the progress from which it advances,
and the effects that the answer itself has had. -/
inductive Resumes (r : Run) (p : Progress) : Run → Progress → List Effect → Prop
  /-- The option's flags are written, and the run goes where the option leads. -/
  | choice {prompt : Option String} {options : List ChoiceOption} {option : ChoiceOption}
      (hstate : r.state = .waitingForChoice)
      (hstep : r.currentStep? = some (.choice prompt options)) (hoption : option ∈ options) :
      Resumes r p (r.leaveChoice (writeFlags p option.setFlags).1 option).1
        (writeFlags p option.setFlags).1
        ((writeFlags p option.setFlags).2 ++
          (r.leaveChoice (writeFlags p option.setFlags).1 option).2)
  /-- A line is taken down. -/
  | line (hstate : r.state = .waiting .acknowledgement) (hmask : r.isAtMaskedHighlight = false) :
      Resumes r p
        { { r with snapshot.dialogue := none }.resume with index := r.index + 1 } p []
  /-- A masked highlight is taken down. -/
  | highlight (hstate : r.state = .waiting .acknowledgement)
      (hmask : r.isAtMaskedHighlight = true) :
      Resumes r p
        { { r with
              highlightTicket := none
              snapshot.dialogue := none
              snapshot.highlight := none
              snapshot.inputMasked := false }.resume with index := r.index + 1 } p []
  /-- The time is up. -/
  | timer {ms : UInt64} (hstate : r.state = .waiting (.timer ms)) :
      Resumes r p { r.resume with index := r.index + 1 } p []
  /-- The flag has the awaited value. -/
  | flag {name : String} {value : Bool} (hstate : r.state = .waiting (.flag name value))
      (hflag : p.flag name = value) :
      Resumes r p { r.resume with index := r.index + 1 } p []

/-- **Every accepted answer prepares the run and advances it.** -/
theorem Answers.exists_resumes {r : Run} {p : Progress} {turn : Turn} (h : r.Answers p turn) :
    ∃ r' p' es, r.Resumes p r' p' es ∧
      turn = { r'.advance p' with effects := es ++ (r'.advance p').effects } := by
  cases h with
  | choose option h =>
      rw [Run.choose] at h
      split at h
      · next hstate hstep =>
        split at h
        · next hoption =>
          cases h
          exact ⟨_, _, _, .choice hstate hstep (List.mem_of_getElem? hoption), rfl⟩
        · cases h
      · cases h
  | acknowledge h =>
      rw [acknowledge?] at h
      split at h
      · next hstate =>
        cases hmask : r.isAtMaskedHighlight with
        | true =>
            rw [hmask] at h
            cases h
            exact ⟨_, _, _, .highlight hstate hmask, rfl⟩
        | false =>
            rw [hmask] at h
            cases h
            exact ⟨_, _, _, .line hstate hmask, rfl⟩
      · cases h
  | resumeTimer ticket h =>
      rw [resumeTimer?] at h
      split at h
      · next hstate =>
        split at h
        · cases h
          exact ⟨_, _, _, .timer hstate, rfl⟩
        · cases h
      · cases h
  | notifyFlag h =>
      rw [notifyFlag?] at h
      split at h
      · next hstate =>
        split at h
        · next hflag =>
          cases h
          exact ⟨_, _, _, .flag hstate hflag, rfl⟩
        · cases h
      · cases h

/-- A run that goes on was waiting. -/
theorem Resumes.isActive {r r' : Run} {p p' : Progress} {es : List Effect}
    (h : r.Resumes p r' p' es) : r.state.isActive = true := by
  cases h with
  | choice hstate _ _ | line hstate _ | highlight hstate _ | timer hstate | flag hstate _ =>
      rw [hstate]; rfl

/-- **What every stroke keeps, and what holds of the prepared run, holds after the answer.** -/
theorem Lasting.answers {Inv : Run → Progress → List Effect → Prop} (hInv : Lasting Inv)
    {r : Run} {p : Progress} {turn : Turn} (h : r.Answers p turn)
    (hstart : ∀ r' p' es, r.Resumes p r' p' es → Inv r' p' es) :
    Inv turn.run turn.progress turn.effects := by
  obtain ⟨r', p', es, hr, rfl⟩ := h.exists_resumes
  exact hInv.advance es (hstart r' p' es hr)

/-- Only an active run accepts an answer. -/
theorem Answers.isActive {r : Run} {p : Progress} {turn : Turn} (h : r.Answers p turn) :
    r.state.isActive = true := by
  obtain ⟨r', p', es, hr, -⟩ := h.exists_resumes
  exact hr.isActive

/-- A run that is prepared to go on is the same run of the same scene. -/
theorem Resumes.same {r r' : Run} {p p' : Progress} {es : List Effect}
    (h : r.Resumes p r' p' es) : r'.id = r.id ∧ r'.scene = r.scene := by
  cases h with
  | choice => exact same_follow _ _ _
  | line | highlight | timer | flag => exact ⟨rfl, rfl⟩

/-- So is one that has accepted an answer. -/
theorem Answers.same {r : Run} {p : Progress} {turn : Turn} (h : r.Answers p turn) :
    turn.run.id = r.id ∧ turn.run.scene = r.scene :=
  (Lasting.same r.id r.scene).answers h fun _ _ _ hr => hr.same

/-- So is one that has advanced. -/
theorem same_advance (r : Run) (p : Progress) :
    (r.advance p).run.id = r.id ∧ (r.advance p).run.scene = r.scene :=
  (Lasting.same r.id r.scene).advance [] ⟨rfl, rfl⟩

/-- A run that has accepted an answer waits or has ended. -/
theorem Answers.state_ne_running {r : Run} {p : Progress} {turn : Turn}
    (h : r.Answers p turn) : turn.run.state ≠ .running := by
  obtain ⟨r', p', es, -, rfl⟩ := h.exists_resumes
  exact state_advance_ne_running r' p'

/-! ### Places -/

/-- The highlight that is shown has the given place. -/
def locate (r : Run) (highlight : Highlight) (rect : Option Rect) : Run :=
  { r with snapshot.highlight := some { highlight with rect } }

/-- **Where a place leads**: nowhere, or to a highlight that is handed over with that place. -/
theorem applyGeometry_cases (r : Run) (ticket : Ticket) (rect : Option Rect) :
    r.applyGeometry ticket rect = (r, none) ∨
    ∃ highlight, r.snapshot.highlight = some highlight ∧ r.highlightTicket = some ticket ∧
      (r.applyGeometry ticket rect).1 = (r.locate highlight rect).present.1 ∧
      ((r.applyGeometry ticket rect).2.map Effect.present).toList =
        (r.locate highlight rect).present.2 := by
  rw [applyGeometry]
  split
  · next hticket =>
    split
    · next highlight hshown =>
      refine .inr ⟨highlight, hshown, hticket, rfl, ?_⟩
      rw [← locate]
      rcases (r.locate highlight rect).present_cases with ⟨-, -, -, heq⟩ | ⟨-, heq⟩ <;>
        (rw [heq]; rfl)
    · exact .inl rfl
  · exact .inl rfl

/-- The place of a highlight changes nothing but how it is shown. -/
theorem exists_applyGeometry (r : Run) (ticket : Ticket) (rect : Option Rect) :
    ∃ highlight state presented, (r.applyGeometry ticket rect).1 =
      { r with snapshot := { r.snapshot with highlight, state }, presented } := by
  rw [applyGeometry]
  split
  · split
    · next shown hshown =>
      obtain ⟨presented, handed, heq, -⟩ :=
        exists_present { r with snapshot.highlight := some { shown with rect } }
      rw [heq]
      exact ⟨_, _, _, rfl⟩
    · exact ⟨_, _, _, rfl⟩
  · exact ⟨_, _, _, rfl⟩

end Run

end Cutscene
