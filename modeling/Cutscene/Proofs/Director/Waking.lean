import Cutscene.Proofs.Director.History
import Cutscene.Proofs.Director.Log

/-!
# No Run Sleeps Through Its Flag

A run that waits for a flag goes on as soon as the flag has the awaited value. The flag may have
it before the step is reached, may get it from an earlier step of the same turn, from an option,
or from outside while the run waits; and the run that goes on may take it back and wait once more.
In each case the run waits only while the flag does not have the value (`Run.Watches`), so that a
run wakes up exactly when the one flag that it waits for is given the one value that it waits for,
and sleeps through anything else.

Writing a flag from outside is the only thing that a director does in two strokes, of which the
first by itself may leave a run waiting in vain; the account is therefore kept over whole
operations (`Director.Covers`).

## Main results

* `Run.Lasting.watches`: the strokes of a running run let it wait only for what is not there.
* `Run.Watches.notifyFlag?_setFlag`: exactly the awaited value of the awaited flag wakes a run.
* `Director.History.watches`: whatever a director is told, its run waits only for what is not there.
* `Director.History.woken_iff`: so a written flag wakes exactly the run that waits for it.
-/

namespace Cutscene

namespace Run

/-! ### Waiting for a flag -/

/-- A run that waits for a flag waits for a value that the flag does not have. -/
def Watches (r : Run) (p : Progress) : Prop :=
  ∀ name value, r.state = .waiting (.flag name value) → p.flag name ≠ value

/-- A run watches its flag if it waits for none. -/
theorem watches_of_state_ne {r : Run} {p : Progress}
    (h : ∀ name value, r.state ≠ .waiting (.flag name value)) : r.Watches p :=
  fun name value hstate => absurd hstate (h name value)

/-- A step makes the run wait only for a flag that does not have the value. -/
theorem flag_ne_of_execute {r : Run} {p : Progress} {s : Step} {name : String} {value : Bool}
    (h : (r.execute p s).flow = .suspend (.waiting (.flag name value))) :
    (r.execute p s).progress.flag name ≠ value := by
  cases s with
  | waitForFlag other awaited =>
      rw [execute] at h
      split at h
      · cases h
      · next hflag =>
        cases h
        exact hflag
  | choice prompt options =>
      rw [execute] at h
      split at h <;> cases h
  | highlight anchor maskInput => cases maskInput <;> cases h
  | branch flag thenLabel elseLabel | checkCounter counter min max thenLabel elseLabel =>
      exact absurd h (toLabel_ne_suspend _ _)
  | _ => cases h

/-- **The strokes of a running run let it wait only for what is not there.** -/
theorem Lasting.watches : Lasting fun r p _ => r.Watches p where
  execute {r p es s} hrun _ _ := by
    dsimp only
    have hflag {name : String} {value : Bool} :=
      @flag_ne_of_execute { r with snapshot.sound := none } p s name value
    have hstate := (state_execute { r with snapshot.sound := none } p s).trans hrun
    generalize { r with snapshot.sound := none }.execute p s = done at *
    rcases follow_cases done.run done.progress done.flow with
      ⟨state, hflow, heq⟩ | ⟨-, ⟨index, -, heq⟩ | ⟨reason, diagnostic, heq⟩⟩
    · rw [heq]
      rintro name value rfl
      exact hflag hflow
    · rw [heq]
      exact watches_of_state_ne fun _ _ => by rw [hstate]; rintro ⟨⟩
    · rw [heq]
      exact watches_of_state_ne fun _ _ => by rintro ⟨⟩
  finish _ _ _ _ _ := watches_of_state_ne fun _ _ => by rintro ⟨⟩
  present h name value hstate := h name value ((state_present _).symm.trans hstate)

/-- A run that goes on does not wait. -/
theorem Resumes.watches {r r' : Run} {p p' : Progress} {es : List Effect}
    (hr : r.Resumes p r' p' es) : r'.Watches p' := by
  refine watches_of_state_ne fun name value => ?_
  cases hr with
  | @choice prompt options option hstate hstep hoption =>
      rw [leaveChoice]
      rcases follow_cases { r with snapshot.choice := none }.resume
          (writeFlags p option.setFlags).1 (Flow.toLabel option.goto) with
        ⟨state, hflow, -⟩ | ⟨-, ⟨index, -, heq⟩ | ⟨reason, diagnostic, heq⟩⟩
      · exact absurd hflow (toLabel_ne_suspend _ _)
      · rw [heq]; rintro ⟨⟩
      · rw [heq]; rintro ⟨⟩
  | line | highlight | timer | flag => rintro ⟨⟩

/-- A run that has been answered waits only for what is not there, even if it waited in vain before.
-/
theorem Answers.watches {r : Run} {p : Progress} {turn : Turn} (h : r.Answers p turn) :
    turn.run.Watches turn.progress :=
  Lasting.watches.answers h fun _ _ _ hr => hr.watches

/-- The same of a run that advances. -/
theorem watches_advance {r : Run} (hrun : r.state = .running) (p : Progress) :
    (r.advance p).run.Watches (r.advance p).progress :=
  Lasting.watches.advance [] (watches_of_state_ne fun _ _ => by rw [hrun]; rintro ⟨⟩)

/-- A run that is still going on and is broken off is interrupted. -/
theorem state_interrupt {r : Run} (hactive : r.state.isActive = true) (p : Progress) :
    (r.interrupt p).1.state = .ended .interrupted := by
  rw [interrupt, if_pos hactive]
  exact state_present _

/-- **Exactly the awaited value of the awaited flag wakes a run.** -/
theorem Watches.notifyFlag?_setFlag {r : Run} {p : Progress} (h : r.Watches p) (name : String)
    (value : Bool) :
    r.notifyFlag? (p.setFlag name value) =
      if r.state = .waiting (.flag name value) then some (r.proceed (p.setFlag name value))
      else none := by
  rw [notifyFlag?]
  split
  · next awaited wanted hstate =>
    have hflag := h awaited wanted hstate
    rw [Progress.flag_setFlag, hstate]
    by_cases hname : name = awaited
    · subst hname
      simp only [if_true, RunState.waiting.injEq, Wait.flag.injEq, true_and, eq_comm]
    · have hne : RunState.waiting (.flag awaited wanted) ≠ .waiting (.flag name value) := by
        rintro ⟨⟩
        exact hname rfl
      rw [if_neg hname, if_neg hflag, if_neg hne]
  · next hstate => exact (if_neg (hstate name value)).symm

/-- A run that sleeps through a flag still waits for what is not there. -/
theorem Watches.setFlag {r : Run} {p : Progress} (h : r.Watches p) {name : String} {value : Bool}
    (hstate : r.state ≠ .waiting (.flag name value)) : r.Watches (p.setFlag name value) := by
  intro awaited wanted hawaited
  rw [Progress.flag_setFlag]
  split
  · next hname =>
    rintro rfl
    exact hstate (hname ▸ hawaited)
  · exact h awaited wanted hawaited

/-- A run that has been broken off waits for nothing. -/
theorem Watches.interrupt {r : Run} (hactive : r.state.isActive = true) (p : Progress) :
    (r.interrupt p).1.Watches p :=
  watches_of_state_ne fun _ _ => by rw [state_interrupt hactive]; rintro ⟨⟩

/-- A rectangle changes neither what a run waits for nor the progress. -/
theorem Watches.applyGeometry {r : Run} {p : Progress} (h : r.Watches p) (ticket : Ticket)
    (rect : Option Rect) : (r.applyGeometry ticket rect).1.Watches p := by
  obtain ⟨highlight, state, presented, heq⟩ := r.exists_applyGeometry ticket rect
  rw [heq]
  exact h

end Run

namespace Director

variable {σ ω : Type} {h : Host σ} {store : Store (StateM ω)}

/-! ### What a director keeps an eye on -/

/-- The run of a director watches the flag that it waits for. -/
def Watches (d : Director σ) : Prop := ∀ run, d.run = some run → run.Watches d.progress

/-- Carrying out effects writes no flag. The flags have been written before. -/
theorem flags_follow (d : Director σ) (run : Run) (progress : Progress) (effects : List Effect) :
    (d.follow h run progress effects).progress.flags = progress.flags := by
  refine follow_induction (P := fun e => e.progress.flags = progress.flags)
    (fun {d} e _ hd => ?_) rfl
  cases e with
  | ended ending =>
      rw [carryOut]
      cases hreason : ending.reason with
      | completed =>
          rw [conclude_of_completed d _ _ hreason]
          exact hd
      | interrupted =>
          rw [conclude_of_interrupted d _ _ hreason]
          exact hd
  | _ => exact hd

/-- A director who follows a turn is left with its run and its progress. -/
theorem watches_follow {run : Run} {progress : Progress} (hrun : run.Watches progress)
    (d : Director σ) (effects : List Effect) : (d.follow h run progress effects).Watches := by
  intro run' hrun' name value hstate
  rw [run_follow, Option.some.injEq] at hrun'
  rw [Progress.flag, flags_follow]
  exact hrun name value (hrun' ▸ hstate)

/-- A director with no active run has none to watch. -/
theorem watches_of_activeRun?_eq_none {d : Director σ} (hidle : d.activeRun? = none) :
    d.Watches := by
  intro run hrun name value hstate
  rw [activeRun?, hrun, Option.filter_some, hstate] at hidle
  cases hidle

/-- A director whose state is to wait has a run that waits. -/
theorem exists_run_of_state {d : Director σ} {wait : Wait} (hstate : d.state = .waiting wait) :
    ∃ run, d.run = some run ∧ run.state = .waiting wait := by
  cases hrun : d.run with
  | none =>
      rw [state, hrun] at hstate
      cases hstate
  | some run =>
      rw [state, hrun] at hstate
      exact ⟨run, rfl, hstate⟩

namespace Watches

variable {d : Director σ} {flag : String} {value : Bool}

/-- A flag that is waited for has another value. -/
theorem flag_ne (hd : d.Watches) (hstate : d.state = .waiting (.flag flag value)) :
    d.progress.flag flag ≠ value := by
  obtain ⟨run, hrun, hwaits⟩ := exists_run_of_state hstate
  exact hd run hrun flag value hwaits

/-- **A written flag wakes the run that waits for it.** -/
theorem wake (hd : d.Watches) {run : Run} (hrun : d.run = some run)
    (hstate : run.state = .waiting (.flag flag value)) :
    ∃ turn, turn = run.proceed (d.progress.setFlag flag value) ∧
      run.Answers (d.progress.setFlag flag value) turn ∧
      d.setFlag h flag value =
        (d.writeFlag h flag value).follow h turn.run turn.progress turn.effects := by
  have hturn := (hd run hrun).notifyFlag?_setFlag flag value
  rw [if_pos hstate] at hturn
  refine ⟨_, rfl, .notifyFlag hturn, ?_⟩
  rw [setFlag_eq, hrun, Option.bind_some, hturn]
  rfl

/-- **A written flag wakes no other run.** -/
theorem sleep (hd : d.Watches) (hstate : d.state ≠ .waiting (.flag flag value)) :
    d.setFlag h flag value = d.writeFlag h flag value := by
  rw [setFlag_eq]
  cases hrun : d.run with
  | none => rfl
  | some run =>
      rw [state, hrun, Option.elim_some] at hstate
      rw [Option.bind_some, (hd run hrun).notifyFlag?_setFlag, if_neg hstate]
      rfl

/-- A flag is written and the run is told at once, so that in the end it waits only for what is not
there. -/
theorem setFlag (hd : d.Watches) (flag : String) (value : Bool) :
    (d.setFlag h flag value).Watches := by
  by_cases hstate : d.state = .waiting (.flag flag value)
  · obtain ⟨run, hrun, hwaits⟩ := exists_run_of_state hstate
    obtain ⟨turn, -, hturn, heq⟩ := hd.wake (h := h) hrun hwaits
    rw [heq]
    exact watches_follow hturn.watches _ _
  · rw [hd.sleep hstate]
    intro run hrun
    refine (hd run hrun).setFlag fun hwaits => hstate ?_
    rw [state, show d.run = some run from hrun]
    exact hwaits

end Watches

/-- **Whatever a director does, its run waits only for what is not there.** -/
theorem covers_watches (h : Host σ) : Covers h fun d _ e => d.Watches → e.Watches where
  refl _ hd := hd
  trans hde hef hd := hef (hde hd)
  manage _ _ hd := hd
  withdraw _ hd := hd
  locate d ticket anchor hd := by
    obtain ⟨stage, run, heq, rfl | ⟨run', rect, hrun', rfl⟩⟩ := exists_locate h d ticket anchor
    · rw [heq]
      exact hd
    · rw [heq]
      rintro _ ⟨⟩
      exact (hd run' hrun').applyGeometry ticket rect
  setFlag _ flag value hd := hd.setFlag flag value
  setCounter _ _ _ hd := hd
  interrupt _ hactive _ := watches_follow (.interrupt hactive _) _ _
  answer _ hturn _ := watches_follow hturn.watches _ _
  debut _ _ _ := watches_follow (Run.watches_advance rfl _) _ _

namespace History

variable {s : σ} {e : Director σ} {w w' : ω} {past : List (Episode σ)}

/-- **Whatever a director is told, its run waits only for what is not there.** -/
theorem watches (hist : History h store { stage := s } w past e w') : e.Watches := by
  refine hist.keeps (P := fun d _ => d.Watches) (covers_watches h) (fun _ hd => hd)
    (fun hde hd => hde hd) (fun {d w} hd => ?_) (fun hd => hd) (fun ns _ => ?_) ?_
  · obtain ⟨yes, dirty, w₁, hflush⟩ := exists_flush store w d
    rw [hflush]
    exact hd
  · rw [perform_load]
    exact watches_of_activeRun?_eq_none (activeRun?_stop _)
  · rintro run ⟨⟩

/-- **No run sleeps through its flag.** Whatever a director has been told, a run of its that waits
for a flag waits for a value that the flag does not have. When a flag is then written, the run goes
on under another ticket, if at all, exactly if it was waiting for this very flag and this very
value; any other write leaves the run as it is, with its state, its ticket and what it shows. -/
theorem woken_iff (hist : History h store { stage := s } w past e w') :
    (∀ name value, e.state = .waiting (.flag name value) → e.progress.flag name ≠ value) ∧
    ∀ (stage : σ) (flag : String) (value : Bool),
      let after := ({ e with stage } : Director σ).setFlag h flag value
      (after.ticket? ≠ e.ticket? ↔ e.state = .waiting (.flag flag value)) ∧
      (e.state = .waiting (.flag flag value) → ∃ run, e.run = some run ∧
        after.run = some (run.proceed (e.progress.setFlag flag value)).run) ∧
      (e.state ≠ .waiting (.flag flag value) → after.run = e.run ∧ after.state = e.state ∧
        after.ticket? = e.ticket? ∧ after.snapshot = e.snapshot) := by
  refine ⟨fun name value hstate => hist.watches.flag_ne hstate, fun stage flag value => ?_⟩
  intro after
  have hd : ({ e with stage } : Director σ).Watches := hist.watches
  by_cases hstate : e.state = .waiting (.flag flag value)
  · obtain ⟨run, hrun, hwaits⟩ := exists_run_of_state hstate
    obtain ⟨turn, rfl, hturn, heq⟩ := hd.wake (h := h) hrun hwaits
    have hafter : after.run = some (run.proceed (e.progress.setFlag flag value)).run :=
      (congrArg Director.run heq).trans (run_follow _ _ _ _)
    -- A run that waits has a ticket.
    obtain ⟨ticket, hticket⟩ := Option.isSome_iff_exists.mp
      ((hist.reachable hrun).coherent.isSome_ticket_iff.mpr (by rw [hwaits]; rfl))
    refine ⟨⟨fun _ => hstate, fun _ hsame => ?_⟩, fun _ => ⟨run, hrun, hafter⟩,
      fun hother => absurd hstate hother⟩
    rw [Director.ticket?, hafter, Director.ticket?, hrun] at hsame
    exact (hist.reachable hrun).ticket?_ne hturn hticket (hsame.trans hticket)
  · have hafter : after.run = e.run :=
      (congrArg Director.run (hd.sleep (h := h) hstate)).trans rfl
    have hticket : after.ticket? = e.ticket? := by
      rw [Director.ticket?, hafter, Director.ticket?]
    refine ⟨⟨fun hne => absurd hticket hne, fun hwaits => absurd hwaits hstate⟩,
      fun hwaits => absurd hwaits hstate, fun _ => ⟨hafter, ?_, hticket, ?_⟩⟩
    · rw [state, hafter, state]
    · rw [snapshot, hafter, snapshot]

end History

end Director

namespace Rehearsal

/-- A beacon that goes out as soon as it is lit. -/
def beacon : Scene where
  id := "beacon"
  steps := [.label "dark", .waitForFlag "lit" true, .setFlag "lit" false, .goto "dark"]

/-- A director who has the beacon watched. -/
def keeper : Director Notes :=
  ((newcomer.performAll stage Records.store [.register beacon, .start "beacon"]).run ∅).1.2

end Rehearsal

namespace Director

/-- The beacon is lit: the run goes on, puts it out, and waits once more under another ticket. That
it remains dark, or that a lamp is lit, does not wake the run. -/
theorem woken_by_beacon :
    Rehearsal.keeper.state = .waiting (.flag "lit" true) ∧
    (Rehearsal.keeper.setFlag Rehearsal.stage "lit" true).state = .waiting (.flag "lit" true) ∧
    (Rehearsal.keeper.setFlag Rehearsal.stage "lit" true).ticket? ≠ Rehearsal.keeper.ticket? ∧
    (Rehearsal.keeper.setFlag Rehearsal.stage "lit" false).run = Rehearsal.keeper.run ∧
    (Rehearsal.keeper.setFlag Rehearsal.stage "lamp" true).run = Rehearsal.keeper.run := by
  obtain ⟨past, hist, -⟩ : ∃ past, History Rehearsal.stage Records.store _ _ past _ _ ∧ _ :=
    history_of_performAll [.register Rehearsal.beacon, .start "beacon"] Rehearsal.newcomer
      (∅ : Records)
  have hstate : Rehearsal.keeper.state = .waiting (.flag "lit" true) := rfl
  have hwoken := (History.woken_iff (e := Rehearsal.keeper) hist).2 Rehearsal.keeper.stage
  refine ⟨hstate, rfl, ?_, ?_, ?_⟩
  · exact (hwoken "lit" true).1.mpr hstate
  · exact ((hwoken "lit" false).2.2 (by rw [hstate]; decide)).1
  · exact ((hwoken "lamp" true).2.2 (by rw [hstate]; decide)).1

end Director

end Cutscene
