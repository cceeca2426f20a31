import Cutscene.Proofs.Director.History

/-!
# What a Director Refuses

A director refuses an option that it cannot take, a scene that it does not know, and an answer that
nobody waits for. It does so before it changes anything: after a refusal the director is what it
was, down to the events and the requests that it still holds, the game has been told nothing, and
the store has not been asked.

What a run refuses can be told from what it shows. This rests on coherence: a run that waits for a
choice stands at one, with the options that it shows.

## Main results

* `Director.eq_of_perform_refused`: a refusal changes nothing.
* `Run.Coherent.choose_eq_error_iff`: a coherent run refuses an option exactly for the reason that
  can be told from its snapshot.
* `Director.History.refuses`: both of a director with a history, whatever the game has come to.
-/

namespace Cutscene

/-- The reply refuses what the cue asks for. -/
def Cue.isRefusedBy : Cue → Reply → Bool
  | choose _, .failed _ | start _, .failed _ => true
  | acknowledge, .answer yes | resume _, .answer yes | stop, .answer yes
  | unregister _, .answer yes => !yes
  | notice _, .started scene => scene.isNone
  | _, _ => false

/-- What is refused with a fault has gone wrong. -/
theorem Cue.exists_error_of_isRefusedBy {cue : Cue} {result : Except Fault Unit}
    (h : cue.isRefusedBy (.ofExcept result) = true) : ∃ fault, result = .error fault := by
  cases result with
  | error fault => exact ⟨fault, rfl⟩
  | ok => cases cue <;> cases h

/-- Nothing is taken out where there is no scene with the id. -/
theorem Roster.remove_eq_self {roster : Roster} {id : String} (h : roster.contains id = false) :
    roster.remove id = roster := by
  rw [remove]
  split
  · next i hi =>
    rw [contains, Std.ExtTreeMap.contains_eq_isSome_getElem?, hi] at h
    cases h
  · rfl

/-! ### Options of a run -/

namespace Run

/-- Why an option of a run cannot be taken, as far as can be told from what is shown. -/
def refusal? (r : Run) (option : Nat) : Option Fault :=
  match r.snapshot.choice with
  | some shown =>
    if option < shown.options.length then none
    else some (.validation ("choice option " ++ toString option ++ " is out of range (" ++
      toString shown.options.length ++ " options)"))
  | none => some (.validation "no choice is pending")

/-- **A coherent run refuses an option exactly for the reason that can be told.** -/
theorem Coherent.choose_eq_error_iff {r : Run} (h : r.Coherent) (p : Progress) (option : Nat)
    (fault : Fault) : r.choose p option = .error fault ↔ r.refusal? option = some fault := by
  rw [refusal?]
  cases hshown : r.snapshot.choice with
  | none =>
      have hstate : r.state ≠ .waitingForChoice := by
        rw [Ne, ← h.isSome_choice_iff, hshown]
        rintro ⟨⟩
      rw [choose]
      split
      · next hwaits _ => exact absurd hwaits hstate
      · rw [Except.error.injEq, Option.some.injEq]
  | some shown =>
      have hstate : r.state = .waitingForChoice := h.isSome_choice_iff.mp (by rw [hshown]; rfl)
      obtain ⟨-, prompt, options, hstep⟩ := h.waitingForChoice_iff.mp hstate
      have heq := (h.choice_eq prompt options hstate hstep).2
      rw [hshown, Option.some.injEq] at heq
      rw [choose, hstate, hstep, heq]
      dsimp only
      rw [List.length_map]
      by_cases hlt : option < options.length
      · rw [List.getElem?_eq_getElem hlt, if_pos hlt]
        constructor <;> rintro ⟨⟩
      · rw [List.getElem?_eq_none (Nat.le_of_not_lt hlt), if_neg hlt]
        dsimp only
        rw [Except.error.injEq, Option.some.injEq]

/-- There is a reason exactly if no choice is pending or no such option is shown. -/
theorem Coherent.exists_refusal_iff {r : Run} (h : r.Coherent) (option : Nat) :
    (∃ fault, r.refusal? option = some fault) ↔ r.state ≠ .waitingForChoice ∨
      ∃ shown, r.snapshot.choice = some shown ∧ shown.options.length ≤ option := by
  rw [Ne, ← h.isSome_choice_iff, refusal?]
  cases r.snapshot.choice with
  | none => simp
  | some shown =>
      by_cases hlt : option < shown.options.length
      · simp [hlt]
      · simp [hlt, Nat.le_of_not_lt hlt]

/-- A run refuses an acknowledgement unless it waits for one. -/
theorem acknowledge?_eq_none_iff (r : Run) (p : Progress) :
    r.acknowledge? p = none ↔ r.state ≠ .waiting .acknowledgement := by
  rw [acknowledge?]
  split
  · next hstate => simp [hstate]
  · next hstate => simp [hstate]

end Run

namespace Director

variable {σ ω : Type} {h : Host σ} {store : Store (StateM ω)}

/-! ### Refusals -/

/-- A scene that is refused changes nothing. -/
theorem eq_of_start_error {d : Director σ} {id : String} {fault : Fault}
    (herror : (d.start h id).1 = .error fault) : (d.start h id).2 = d := by
  rw [start] at herror ⊢
  split at herror
  · cases herror
  · rfl

/-- Nor does an option. -/
theorem eq_of_choose_error {d : Director σ} {option : Nat} {fault : Fault}
    (herror : (d.choose h option).1 = .error fault) : (d.choose h option).2 = d := by
  rw [choose] at herror ⊢
  split at herror
  · split at herror
    · cases herror
    · rfl
  · rfl

/-- Nor does a turn that there is none of. -/
theorem eq_of_take_false {d : Director σ} {turn? : Option Turn}
    (hfalse : (d.take h turn?).1 = false) : (d.take h turn?).2 = d := by
  cases turn? with
  | none => rfl
  | some turn => cases hfalse

/-- Nor does breaking off where nothing is played. -/
theorem eq_of_stop_false {d : Director σ} (hfalse : (d.stop h).1 = false) :
    (d.stop h).2 = d := by
  rw [stop] at hfalse ⊢
  split at hfalse
  · cases hfalse
  · rfl

/-- Nor does taking out a scene that is not there. -/
theorem eq_of_unregister_false {d : Director σ} {id : String}
    (hfalse : (d.unregister id).1 = false) : (d.unregister id).2 = d := by
  rw [unregister, Roster.remove_eq_self hfalse]

/-- Nor does an event that starts no scene. -/
theorem eq_of_notice_none {d : Director σ} {e : GameEvent} (hnone : (d.notice h e).1 = none) :
    (d.notice h e).2 = d := by
  rw [notice] at hnone ⊢
  split at hnone
  · cases hnone
  · rfl

/-- **A refusal changes nothing**: neither the director, nor the game, nor the store. -/
theorem eq_of_perform_refused {d e : Director σ} {w w' : ω} {cue : Cue} {reply : Reply}
    (hp : (d.perform h store cue).run w = ((reply, e), w'))
    (hrefused : cue.isRefusedBy reply = true) : e = d ∧ w' = w := by
  cases cue with
  | start id =>
      cases hp
      obtain ⟨fault, herror⟩ : ∃ fault, (d.start h id).1 = .error fault :=
        Cue.exists_error_of_isRefusedBy hrefused
      exact ⟨eq_of_start_error herror, rfl⟩
  | choose option =>
      cases hp
      obtain ⟨fault, herror⟩ : ∃ fault, (d.choose h option).1 = .error fault :=
        Cue.exists_error_of_isRefusedBy hrefused
      exact ⟨eq_of_choose_error herror, rfl⟩
  | acknowledge =>
      cases hp
      exact ⟨eq_of_take_false ((Bool.not_eq_true' _).mp hrefused), rfl⟩
  | resume ticket =>
      cases hp
      exact ⟨eq_of_take_false ((Bool.not_eq_true' _).mp hrefused), rfl⟩
  | stop =>
      cases hp
      exact ⟨eq_of_stop_false ((Bool.not_eq_true' _).mp hrefused), rfl⟩
  | unregister id =>
      cases hp
      exact ⟨eq_of_unregister_false ((Bool.not_eq_true' _).mp hrefused), rfl⟩
  | notice event =>
      cases hp
      exact ⟨eq_of_notice_none (Option.isNone_iff_eq_none.mp hrefused), rfl⟩
  | load | flush | resolve | settle | register | setFlag | setCounter | takeEvents =>
      cases hrefused

/-! ### Reasons -/

/-- Why an option cannot be taken, as far as can be told from what is shown. -/
def refusal? (d : Director σ) (option : Nat) : Option Fault :=
  match d.run with
  | some run => run.refusal? option
  | none => some (.validation "no scene is active")

variable (store)

/-- A director refuses an option for the reason that can be told from what is shown. -/
theorem reply_choose_iff {d : Director σ} (hrun : ∀ run, d.run = some run → run.Coherent)
    (w : ω) (option : Nat) (fault : Fault) :
    ((d.perform h store (.choose option)).run w).1.1 = .failed fault ↔
      d.refusal? option = some fault := by
  change Reply.ofExcept (d.choose h option).1 = .failed fault ↔ _
  rw [choose, refusal?]
  cases hd : d.run with
  | none => simp [Reply.ofExcept]
  | some run =>
      dsimp only
      rw [← (hrun run hd).choose_eq_error_iff d.progress]
      cases run.choose d.progress option <;> simp [Reply.ofExcept]

/-- There is a reason exactly if no choice is pending, or the option is not shown. -/
theorem exists_refusal_iff {d : Director σ} (hrun : ∀ run, d.run = some run → run.Coherent)
    (option : Nat) : (∃ fault, d.refusal? option = some fault) ↔ d.state ≠ .waitingForChoice ∨
      ∃ shown, d.snapshot.choice = some shown ∧ shown.options.length ≤ option := by
  rw [refusal?, state, snapshot]
  cases hd : d.run with
  | none => simp
  | some run => exact (hrun run hd).exists_refusal_iff option

/-- A director refuses an acknowledgement unless its run waits for one. -/
theorem reply_acknowledge_iff (d : Director σ) (w : ω) :
    ((d.perform h store .acknowledge).run w).1.1 = .answer false ↔
      d.state ≠ .waiting .acknowledgement := by
  change Reply.answer (d.acknowledge h).1 = .answer false ↔ _
  rw [acknowledge, state]
  cases hd : d.run with
  | none => simp [take]
  | some run =>
      rw [Option.bind_some, Option.elim_some, ← run.acknowledge?_eq_none_iff d.progress]
      cases run.acknowledge? d.progress <;> simp [take]

/-! ### Directors with a history -/

/-- What a director refuses, and what comes of it. -/
structure Refuses (h : Host σ) (store : Store (StateM ω)) (d : Director σ) (w : ω) : Prop where
  /-- A refusal changes nothing: neither the director, nor the game, which may take down all that
  it is told, nor the store. -/
  unchanged : ∀ {cue : Cue} {reply : Reply} {e : Director σ} {w' : ω},
    (d.perform h store cue).run w = ((reply, e), w') → cue.isRefusedBy reply = true →
      e = d ∧ w' = w
  /-- An option is refused exactly if no choice is pending or no such option is shown. -/
  choose_iff : ∀ option : Nat,
    (∃ fault, ((d.perform h store (.choose option)).run w).1.1 = .failed fault) ↔
      d.state ≠ .waitingForChoice ∨
        ∃ shown, d.snapshot.choice = some shown ∧ shown.options.length ≤ option
  /-- The fault gives the reason. -/
  choose_fault : ∀ (option : Nat) (fault : Fault),
    ((d.perform h store (.choose option)).run w).1.1 = .failed fault ↔
      d.refusal? option = some fault
  /-- An acknowledgement is refused exactly if the run does not wait for one. -/
  acknowledge_iff : ((d.perform h store .acknowledge).run w).1.1 = .answer false ↔
    d.state ≠ .waiting .acknowledgement

variable {store}

/-- **A refused request changes nothing**, whatever the director was told before and whatever the
game has come to. A director refuses an option exactly if no choice is pending or no such option
is shown, and an acknowledgement exactly if the run does not wait for one. -/
theorem History.refuses {s : σ} {e : Director σ} {w w' : ω} {past : List (Episode σ)}
    (hist : History h store { stage := s } w past e w') (stage : σ) :
    Refuses h store { e with stage } w' := by
  have hrun : ∀ run, ({ e with stage } : Director σ).run = some run → run.Coherent :=
    fun _ hd => (hist.reachable hd).coherent
  refine ⟨eq_of_perform_refused, fun option => ?_, reply_choose_iff store hrun w',
    reply_acknowledge_iff store _ w'⟩
  rw [← exists_refusal_iff hrun option]
  simp only [reply_choose_iff store hrun w']

/-- A night at the gate: in the morning nothing can be chosen any more. -/
theorem refuses_morning :
    ∃ past w, History Rehearsal.stage Records.store Rehearsal.newcomer ∅ past Rehearsal.morning w ∧
      past.map Episode.cue = Rehearsal.night ∧
      Refuses Rehearsal.stage Records.store Rehearsal.morning w ∧
      ((Rehearsal.morning.perform Rehearsal.stage Records.store (.choose 0)).run w).1.1 =
        .failed (.validation "no choice is pending") := by
  obtain ⟨past, w, hist, hcues, -⟩ := Rehearsal.exists_night
  have hrefuses := hist.refuses Rehearsal.morning.stage
  exact ⟨past, w, hist, hcues, hrefuses, (hrefuses.choose_fault 0 _).mpr rfl⟩

end Director

end Cutscene
