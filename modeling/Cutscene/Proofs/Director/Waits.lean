import Cutscene.Proofs.Director.Outcomes
import Cutscene.Proofs.Director.Tickets

/-!
# Timed Waits

A director that is at a timed wait tells its ticket and its length (`Director.timer?`). A wait is
never found again under the same ticket once it is over, and what is told of it does not change
before: at two moments at which the same ticket is told, it is the same wait.

## Main results

* `Director.resume_iff_timer?`: only the ticket that is told ends a wait.
* `Director.History.timer?`: the wait at the end was there at the beginning, or its ticket has been
  given out since.
* `Director.History.timer?_ne`: a wait that is ended is over.
-/

namespace Cutscene

namespace Director

variable {σ ω : Type} {h : Host σ} {store : Store (StateM ω)} {d e : Director σ} {cue : Cue}
  {t : Ticket} {ms : UInt64}

/-! ### Waits -/

/-- A director is at a timed wait if its state is that wait, and the ticket is the current one. -/
theorem timer?_eq_some_iff : d.timer? = some (t, ms) ↔
    d.state = .waiting (.timer ms) ∧ d.ticket? = some t := by
  rw [timer?]
  split
  · next ms' hstate =>
    rw [hstate, Option.map_eq_some_iff]
    constructor
    · rintro ⟨t', ht, heq⟩
      obtain ⟨rfl, rfl⟩ := Prod.mk.inj heq
      exact ⟨rfl, ht⟩
    · rintro ⟨heq, ht⟩
      obtain rfl : ms' = ms := by injection heq with heq; injection heq
      exact ⟨t, ht, rfl⟩
  · next hstate =>
    constructor
    · intro hnone
      cases hnone
    · rintro ⟨hwaiting, -⟩
      exact absurd hwaiting (hstate ms)

/-- The wait is that of the run, under its ticket. -/
theorem timer?_eq_some_iff_run : d.timer? = some (t, ms) ↔
    ∃ run, d.run = some run ∧ run.state = .waiting (.timer ms) ∧ run.ticket? = some t := by
  rw [timer?_eq_some_iff, state, ticket?]
  cases d.run with
  | none =>
      constructor
      · rintro ⟨-, hfalse⟩
        cases hfalse
      · rintro ⟨run, hfalse, -⟩
        cases hfalse
  | some run =>
      constructor
      · rintro ⟨hstate, ht⟩
        exact ⟨run, rfl, hstate, ht⟩
      · rintro ⟨run', heq, hstate, ht⟩
        obtain rfl := Option.some.inj heq
        exact ⟨hstate, ht⟩

/-- The run tells whether there is a timed wait. -/
theorem timer?_congr (hrun : e.run = d.run) : e.timer? = d.timer? := by
  rw [timer?, timer?, state, state, ticket?, ticket?, hrun]

/-- The ticket that is told is answered. -/
theorem turn?_resume_of_timer? (ht : d.timer? = some (t, ms)) :
    ∃ turn, d.turn? h (.resume t) = some turn := by
  obtain ⟨run, hrun, hstate, hticket⟩ := timer?_eq_some_iff_run.mp ht
  refine ⟨run.proceed d.progress, ?_⟩
  rw [turn?, hrun, Option.bind_some, Run.resumeTimer?, hstate]
  dsimp only
  rw [if_pos hticket]

/-- **Only the ticket of the wait ends it.** With any other one nothing is done. -/
theorem resume_of_timer?_ne (ht : ∀ ms, d.timer? ≠ some (t, ms)) : d.resume h t = (false, d) := by
  have hnone : d.run.bind (·.resumeTimer? d.progress t) = none := by
    rw [Option.bind_eq_none_iff]
    intro run hrun
    rw [Run.resumeTimer?]
    split
    · next ms hstate =>
      refine if_neg fun hticket => ht ms ?_
      exact timer?_eq_some_iff_run.mpr ⟨run, hrun, hstate, hticket⟩
    · rfl
  rw [resume, hnone]
  rfl

/-- A ticket ends a wait exactly if it is told together with a length. -/
theorem resume_iff_timer? : (d.resume h t).1 = true ↔ ∃ ms, d.timer? = some (t, ms) := by
  constructor
  · intro hdone
    by_contra hnone
    rw [resume_of_timer?_ne fun ms ht => hnone ⟨ms, ht⟩] at hdone
    cases hdone
  · rintro ⟨ms, ht⟩
    obtain ⟨turn, hturn⟩ := turn?_resume_of_timer? (h := h) ht
    change (d.take h (d.turn? h (.resume t))).1 = true
    rw [hturn]
    rfl

/-! ### What becomes of a wait -/

/-- Asking for a place leaves the wait alone. -/
theorem timer?_locate (d : Director σ) (ticket : Ticket) (anchor : String) :
    (d.locate h ticket anchor).timer? = d.timer? := by
  obtain ⟨stage, run, heq, rfl | ⟨run', rect, hrun, rfl⟩⟩ := exists_locate h d ticket anchor
  · rw [heq]
    rfl
  · obtain ⟨highlight, state, presented, hplaced⟩ := run'.exists_applyGeometry ticket rect
    rw [heq, timer?, timer?, Director.state, Director.state, Director.ticket?, Director.ticket?,
      hrun, hplaced]
    rfl

/-- Asking for places leaves a wait as it is. -/
theorem timer?_resolve (d : Director σ) : (d.resolve h).timer? = d.timer? :=
  resolve_induction (P := fun e => e.timer? = d.timer?)
    (fun ticket anchor he => (timer?_locate _ ticket anchor).trans he) (timer?_congr rfl)

/-- Where the scene that is played is broken off, there is no wait that was not there before. -/
theorem timer?_stop (ht : (d.stop h).2.timer? = some (t, ms)) : d.timer? = some (t, ms) := by
  rw [stop] at ht
  cases hactive : d.activeRun? with
  | none =>
      rw [hactive] at ht
      exact ht
  | some run =>
      obtain ⟨-, hstate⟩ := Option.filter_eq_some_iff.mp hactive
      rw [hactive] at ht
      obtain ⟨-, hticket⟩ := timer?_eq_some_iff.mp ht
      rw [ticket?_follow, Run.ticket?_interrupt hstate] at hticket
      cases hticket

/-- **A wait that there is after a cue** was there before, or its ticket has just been given out. -/
theorem Outcome.timer? (hd : Outcome h d cue e) (ht : e.timer? = some (t, ms)) :
    d.timer? = some (t, ms) ∨ t ∈ d.issued h cue := by
  have hissued : ∀ {f : Director σ} {turn : Turn}, d.turn? h cue = some turn →
      (f.follow h turn.run turn.progress turn.effects).ticket? = some t → t ∈ d.issued h cue := by
    intro f turn hturn hticket
    rw [ticket?_follow] at hticket
    rw [issued, hturn]
    exact List.mem_append_right _ (Option.mem_toList.mpr hticket)
  cases hd with
  | answer _ hturn => exact .inr (hissued hturn (timer?_eq_some_iff.mp ht).2)
  | debut scene hturn => exact .inr (hissued hturn (timer?_eq_some_iff.mp ht).2)
  | stop => exact .inl (timer?_stop ((timer?_congr (d := (d.stop h).2) rfl).symm.trans ht))
  | resolve =>
      have htimer := (timer?_congr (d := d.resolve h) rfl).symm.trans ht
      exact .inl ((timer?_resolve d).symm.trans htimer)
  | manage | writeFlag | setCounter => exact .inl ((timer?_congr rfl).symm.trans ht)

namespace History

variable {w w' w'' : ω} {f : Director σ} {s : σ} {past more : List (Episode σ)} {ep : Episode σ}

/-- **The wait at the end** was there at the beginning, or its ticket has been given out since. -/
theorem timer? (hist : History h store d w past e w') (ht : e.timer? = some (t, ms)) :
    d.timer? = some (t, ms) ∨ t ∈ given h past := by
  induction hist with
  | nil => exact .inl ht
  | @snoc past e f w' w'' reply hist stage cue hp ih =>
      have hout := outcome_of_perform h store w' { e with stage } cue
      rw [hp] at hout
      rw [given_concat]
      rcases hout.timer? ht with hbefore | hissued
      · rcases ih hbefore with hd | hgiven
        · exact .inl hd
        · exact .inr (List.mem_append_left _ hgiven)
      · exact .inr (List.mem_append_right _ hissued)

/-- A run that is at a step to wait for some time waits for so long, under a ticket. -/
theorem exists_timer? (hist : History h store { stage := s } w past e w') {run : Run}
    (hactive : e.activeRun? = some run) (hwaiting : run.state.isWaiting = true)
    (hstep : run.currentStep? = some (.wait ms)) : ∃ t, e.timer? = some (t, ms) := by
  obtain ⟨hrun, -⟩ := Option.filter_eq_some_iff.mp hactive
  have hcoherent := hist.coherent hrun
  obtain ⟨t, ht⟩ := Option.isSome_iff_exists.mp (hcoherent.isSome_ticket_iff.mpr hwaiting)
  exact ⟨t, timer?_eq_some_iff_run.mpr
    ⟨run, hrun, (hcoherent.timer_iff ms).mpr ⟨hwaiting, hstep⟩, ht⟩⟩

/-- **A wait that is ended is over**, whatever is done from then on. -/
theorem timer?_ne (hist : History h store { stage := s } w past d w')
    (later : History h store d w' (ep :: more) f w'') (hids : h.ids.RunsDiffer f.started)
    (hcue : ep.cue = .resume t) (ht : d.timer? = some (t, ms)) (ms' : UInt64) :
    f.timer? ≠ some (t, ms') := by
  have hfirst : History h store d w' ([] ++ ep :: more) f w'' := later
  obtain ⟨e₁, stage, w₁, w₂, hnone, hbefore, -, hone, hmore⟩ := hfirst.episode
  obtain ⟨rfl, rfl⟩ := hnone.of_nil
  have hgiven : t ∈ given h past :=
    (hist.ticketed (hids.mono later.started_le)).current t (timer?_eq_some_iff.mp ht).2
  obtain ⟨turn, hturn⟩ : ∃ turn, ep.before.turn? h ep.cue = some turn := by
    rw [hcue, hbefore]
    exact turn?_resume_of_timer? ht
  have hover : ep.after.ticket? ≠ some t := (hist.trans later).renewed hids hgiven hturn
  have hgiven' : t ∈ given h (past ++ [ep]) := by
    rw [given_append]
    exact List.mem_append_left _ hgiven
  have hnever := (hist.trans hone).ticket?_ne hmore hids hgiven' hover
  exact fun ht' => hnever (timer?_eq_some_iff.mp ht').2

end History

end Director

end Cutscene
