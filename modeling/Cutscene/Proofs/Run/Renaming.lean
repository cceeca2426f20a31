import Cutscene.Proofs.Replay
import Cutscene.Proofs.Run.Advance
import Mathlib.Data.List.Forall2

/-!
# Runs under Other Names

A run does not look into identifiers: it hands on its own one, and compares tickets. So if all
identifiers are exchanged for others, no two for the same, and scenes were last seen at other times,
everything goes on as before under the new names. This is said of each operation on a run: what it
leads to under the old names (`Turn`) and under the new ones is alike (`Turn.Alike`).

## Main results

* `Run.present_rename`: handing the snapshot over.
* `Run.alike_step`, `Run.alike_advance`: executing steps.
* `Run.alike_choose`, `Run.alike_acknowledge`, `Run.alike_resumeTimer`, `Run.alike_notifyFlag`:
  answers.
* `Run.interrupt_rename`, `Run.applyGeometry_rename`: breaking off, and noting a place.
-/

namespace Cutscene

open Progress (Agrees)

/-! ### Other names -/

/-- A ticket under other names. -/
def Ticket.rename (ρ : Uuid → Uuid) (t : Ticket) : Ticket := { t with run := ρ t.run }

/-- A snapshot under other names. -/
def Snapshot.rename (ρ : Uuid → Uuid) (s : Snapshot) : Snapshot :=
  { s with run := s.run.map ρ, ticket := s.ticket.map (Ticket.rename ρ) }

/-- An effect under other names. -/
def Effect.rename (ρ : Uuid → Uuid) : Effect → Effect
  | flagChanged flag old new => flagChanged flag old new
  | counterChanged counter old new => counterChanged counter old new
  | dispatch command => dispatch command
  | measure ticket anchor => measure (ticket.rename ρ) anchor
  | present snapshot => present (snapshot.rename ρ)
  | ended ending => ended ending

/-- A run under other names. -/
def Run.rename (ρ : Uuid → Uuid) (r : Run) : Run :=
  { r with
    id := ρ r.id
    snapshot := r.snapshot.rename ρ
    presented := r.presented.map (Snapshot.rename ρ)
    highlightTicket := r.highlightTicket.map (Ticket.rename ρ) }

variable {ρ : Uuid → Uuid}

/-- Different tickets have different names. -/
theorem Ticket.rename_injective (hρ : Function.Injective ρ) :
    Function.Injective (Ticket.rename ρ) := by
  rintro ⟨run, step, number⟩ ⟨run', step', number'⟩ heq
  obtain ⟨hrun, rfl, rfl⟩ := Ticket.mk.inj heq
  exact congrArg (Ticket.mk · step number) (hρ hrun)

/-- So have different snapshots. -/
theorem Snapshot.rename_injective (hρ : Function.Injective ρ) :
    Function.Injective (Snapshot.rename ρ) := by
  rintro ⟨⟩ ⟨⟩ heq
  simp only [Snapshot.rename, Snapshot.mk.injEq] at heq ⊢
  obtain ⟨hscene, hrun, hstate, hdialogue, hchoice, hhighlight, hhint, hmask, hbackground,
    hportraits, hoverlay, hmusic, hsound, hticket⟩ := heq
  exact ⟨hscene, Option.map_injective hρ hrun, hstate, hdialogue, hchoice, hhighlight, hhint,
    hmask, hbackground, hportraits, hoverlay, hmusic, hsound,
    Option.map_injective (Ticket.rename_injective hρ) hticket⟩

/-- Under other names snapshots look alike that looked alike before. -/
theorem Snapshot.looksLike_rename (hρ : Function.Injective ρ) (a b : Snapshot) :
    (a.rename ρ).looksLike (b.rename ρ) = a.looksLike b := by
  have heq : ({ a.rename ρ with highlight := none } = { b.rename ρ with highlight := none }) ↔
      ({ a with highlight := none } : Snapshot) = { b with highlight := none } :=
    (Snapshot.rename_injective hρ).eq_iff (a := { a with highlight := none })
      (b := { b with highlight := none })
  rw [Snapshot.looksLike, Snapshot.looksLike, decide_eq_decide.mpr heq]
  rfl

/-- **What a turn leads to, and what it leads to under other names.** Scenes may have been last seen
at other times. -/
structure Turn.Alike (ρ : Uuid → Uuid) (t u : Turn) : Prop where
  run_eq : u.run = t.run.rename ρ
  progress : Agrees False t.progress u.progress
  effects_eq : u.effects = t.effects.map (Effect.rename ρ)

namespace Run

/-- A run and its effects under other names. -/
def renameBoth (ρ : Uuid → Uuid) : Run × List Effect → Run × List Effect :=
  Prod.map (Run.rename ρ) (List.map (Effect.rename ρ))

variable {r : Run} {p q : Progress}

/-- A run stands at the same step under other names. -/
@[simp] theorem currentStep?_rename (r : Run) : (r.rename ρ).currentStep? = r.currentStep? := rfl

/-- It is in the same state. -/
@[simp] theorem state_rename (r : Run) : (r.rename ρ).state = r.state := rfl

/-! ### Strokes -/

/-- The snapshot is handed over in the same cases. -/
theorem present_rename (hρ : Function.Injective ρ) (r : Run) :
    (r.rename ρ).present = renameBoth ρ r.present := by
  have hsame : (r.rename ρ).presented.any (·.looksLike (r.rename ρ).view) =
      r.presented.any (·.looksLike r.view) := by
    cases hpresented : r.presented with
    | none => rw [rename, hpresented]; rfl
    | some s =>
        rw [rename, hpresented]
        exact Snapshot.looksLike_rename hρ s r.view
  change (if (r.rename ρ).presented.any (·.looksLike (r.rename ρ).view) = true then _ else _) =
    renameBoth ρ (if r.presented.any (·.looksLike r.view) = true then _ else _)
  rw [hsame]
  split <;> rfl

/-- It ends in the same way. -/
theorem finish_rename (hpq : Agrees False p q) (r : Run) (reason : EndReason)
    (diagnostic : Option Diagnostic) :
    (r.rename ρ).finish q reason diagnostic = renameBoth ρ (r.finish p reason diagnostic) := by
  rw [finish, finish, ← hpq.flags_eq, ← hpq.counters_eq]
  rfl

/-- It goes to the same place. -/
theorem follow_rename (hpq : Agrees False p q) (r : Run) (flow : Flow) :
    (r.rename ρ).follow q flow = renameBoth ρ (r.follow p flow) := by
  cases flow with
  | next => rfl
  | suspend state => rfl
  | finish => exact finish_rename hpq r _ _
  | abort diagnostic => exact finish_rename hpq r _ _
  | jump label =>
      change (r.rename ρ).jump q label = renameBoth ρ (r.jump p label)
      have hsteps : (r.rename ρ).scene.steps = r.scene.steps := rfl
      rw [jump, jump, hsteps]
      cases Scene.findLabel? r.scene.steps label with
      | some index => rfl
      | none => exact finish_rename hpq r _ _

/-- What executing a step leads to under other names. -/
structure Mirrors (ρ : Uuid → Uuid) (x y : Execution) : Prop where
  alike : Turn.Alike ρ x.toTurn y.toTurn
  flow_eq : y.flow = x.flow

/-- A step does the same, and leads to the same place. -/
theorem mirrors_execute (hpq : Agrees False p q) (r : Run) (s : Step) :
    Mirrors ρ (r.execute p s) ((r.rename ρ).execute q s) := by
  cases s with
  | branch flag thenLabel elseLabel =>
      refine ⟨⟨rfl, hpq, rfl⟩, ?_⟩
      rw [execute, execute, hpq.flag_eq]
  | checkCounter counter min max thenLabel elseLabel =>
      refine ⟨⟨rfl, hpq, rfl⟩, ?_⟩
      rw [execute, execute, hpq.counter_eq]
  | waitForFlag flag value =>
      refine ⟨⟨rfl, hpq, rfl⟩, ?_⟩
      rw [execute, execute, hpq.flag_eq]
  | choice prompt options =>
      rw [execute, execute]
      split <;> exact ⟨⟨rfl, hpq, rfl⟩, rfl⟩
  | setFlag flag value =>
      refine ⟨⟨rfl, hpq.setFlag flag value, ?_⟩, rfl⟩
      rw [execute, execute, hpq.flag_eq]
      rfl
  | setCounter counter value =>
      refine ⟨⟨rfl, hpq.setCounter counter value, ?_⟩, rfl⟩
      rw [execute, execute, hpq.counter_eq]
      rfl
  | addToCounter counter amount =>
      rw [execute, execute, hpq.counter_eq]
      exact ⟨⟨rfl, hpq.setCounter counter _, rfl⟩, rfl⟩
  | _ => exact ⟨⟨rfl, hpq, rfl⟩, rfl⟩

/-! ### Executing steps -/

/-- A step that is executed and left leads to the same turn. -/
theorem alike_step (hρ : Function.Injective ρ) (hpq : Agrees False p q) (r : Run) :
    Turn.Alike ρ (r.step p) ((r.rename ρ).step q) := by
  have hquiet : { r.rename ρ with snapshot.sound := none } =
      ({ r with snapshot.sound := none } : Run).rename ρ := rfl
  rw [step, step, hquiet, currentStep?_rename]
  cases { r with snapshot.sound := none }.currentStep? with
  | none =>
      dsimp only
      rw [finish_rename hpq]
      dsimp only [renameBoth, Prod.map]
      rw [present_rename hρ]
      exact ⟨rfl, hpq, List.map_append.symm⟩
  | some s =>
      obtain ⟨⟨hrun, hprogress, heffects⟩, hflow⟩ :=
        mirrors_execute (ρ := ρ) hpq { r with snapshot.sound := none } s
      dsimp only
      rw [hrun, hflow, heffects, follow_rename hprogress]
      dsimp only [renameBoth, Prod.map]
      rw [present_rename hρ]
      refine ⟨rfl, hprogress, ?_⟩
      simp only [List.map_append]
      rfl

/-- Induction on the steps that are left. -/
theorem alike_loop (hρ : Function.Injective ρ) (left : Nat) (hpq : Agrees False p q) (r : Run) :
    Turn.Alike ρ (loop left r p) (loop left (r.rename ρ) q) := by
  induction left generalizing r p q with
  | zero =>
      rw [loop, loop, state_rename]
      split
      · rw [finish_rename hpq]
        exact ⟨rfl, hpq, rfl⟩
      · exact ⟨rfl, hpq, rfl⟩
  | succ left ih =>
      rw [loop, loop, state_rename]
      split
      · obtain ⟨hrun, hprogress, heffects⟩ := alike_step hρ hpq r
        have hlater := ih hprogress (r.step p).run
        rw [← hrun] at hlater
        refine ⟨hlater.run_eq, hlater.progress, ?_⟩
        dsimp only
        rw [heffects, hlater.effects_eq, List.map_append]
      · exact ⟨rfl, hpq, rfl⟩

/-- **Advancing under other names.** -/
theorem alike_advance (hρ : Function.Injective ρ) (hpq : Agrees False p q) (r : Run) :
    Turn.Alike ρ (r.advance p) ((r.rename ρ).advance q) := by
  obtain ⟨hrun, hprogress, heffects⟩ := alike_loop hρ budget hpq r
  rw [advance, advance]
  dsimp only
  rw [hrun, heffects, present_rename hρ]
  exact ⟨rfl, hprogress, List.map_append.symm⟩

/-! ### Operations -/

/-- Going on behind a step leads to the same turn. -/
theorem alike_proceed (hρ : Function.Injective ρ) (hpq : Agrees False p q) (r : Run) :
    Turn.Alike ρ (r.proceed p) ((r.rename ρ).proceed q) :=
  alike_advance hρ hpq { r.resume with index := r.index + 1 }

/-- The flags of an option are written alike. -/
theorem writeFlags_alike (hpq : Agrees False p q) (flags : NameMap Bool) :
    Agrees False (writeFlags p flags).1 (writeFlags q flags).1 ∧
      (writeFlags q flags).2 = (writeFlags p flags).2.map (Effect.rename ρ) := by
  refine List.rel_foldl (R := Eq)
    (P := fun (x y : Progress × List Effect) =>
      Agrees False x.1 y.1 ∧ y.2 = x.2.map (Effect.rename ρ)) ?_ ⟨hpq, rfl⟩
    (List.forall₂_refl flags.toList)
  rintro ⟨p, es⟩ ⟨q, fs⟩ ⟨hpq, hes⟩ ⟨name, value⟩ _ rfl
  refine ⟨hpq.setFlag name value, ?_⟩
  dsimp only at hes ⊢
  rw [hes, List.map_append, hpq.flag_eq]
  rfl

/-- What an option leads to that is taken. -/
def takeOption (r : Run) (p : Progress) (option : ChoiceOption) : Turn :=
  let written := writeFlags p option.setFlags
  let left := r.leaveChoice written.1 option
  let turn := left.1.advance written.1
  { turn with effects := written.2 ++ left.2 ++ turn.effects }

/-- An option that is taken leads to the same turn. -/
theorem alike_takeOption (hρ : Function.Injective ρ) (hpq : Agrees False p q) (r : Run)
    (option : ChoiceOption) :
    Turn.Alike ρ (r.takeOption p option) ((r.rename ρ).takeOption q option) := by
  obtain ⟨hwritten, heffects⟩ := writeFlags_alike (ρ := ρ) hpq option.setFlags
  have hleft : (r.rename ρ).leaveChoice (writeFlags q option.setFlags).1 option =
      renameBoth ρ (r.leaveChoice (writeFlags p option.setFlags).1 option) :=
    follow_rename hwritten ({ r with snapshot.choice := none } : Run).resume _
  have hturn := alike_advance hρ hwritten
    (r.leaveChoice (writeFlags p option.setFlags).1 option).1
  rw [takeOption, takeOption, hleft, heffects]
  refine ⟨hturn.run_eq, hturn.progress, ?_⟩
  dsimp only [renameBoth, Prod.map]
  rw [hturn.effects_eq, List.map_append, List.map_append]

/-- **An option is taken under other names**, or refused for the same reason. -/
theorem alike_choose (hρ : Function.Injective ρ) (hpq : Agrees False p q) (r : Run)
    (option : Nat) :
    (∃ t u, r.choose p option = .ok t ∧ (r.rename ρ).choose q option = .ok u ∧
      Turn.Alike ρ t u) ∨
    ∃ fault, r.choose p option = .error fault ∧ (r.rename ρ).choose q option = .error fault := by
  rw [choose, choose, state_rename, currentStep?_rename]
  split
  · next prompt options hstate hstep =>
    cases options[option]? with
    | none => exact .inr ⟨_, rfl, rfl⟩
    | some chosen => exact .inl ⟨_, _, rfl, rfl, alike_takeOption hρ hpq r chosen⟩
  · exact .inr ⟨_, rfl, rfl⟩

/-- So does an acknowledgement, in the same cases. -/
theorem alike_acknowledge (hρ : Function.Injective ρ) (hpq : Agrees False p q) (r : Run) :
    Option.Rel (Turn.Alike ρ) (r.acknowledge? p) ((r.rename ρ).acknowledge? q) := by
  have hmasked : (r.rename ρ).isAtMaskedHighlight = r.isAtMaskedHighlight := rfl
  rw [acknowledge?, acknowledge?, state_rename, hmasked]
  split
  · refine .some ?_
    cases r.isAtMaskedHighlight with
    | false => exact alike_proceed hρ hpq { r with snapshot.dialogue := none }
    | true =>
        exact alike_proceed hρ hpq
          { r with
            highlightTicket := none
            snapshot.dialogue := none
            snapshot.highlight := none
            snapshot.inputMasked := false }
  · exact .none

/-- The ticket of the wait under the new names is the one that it was. -/
theorem alike_resumeTimer (hρ : Function.Injective ρ) (hpq : Agrees False p q) (r : Run)
    (ticket : Ticket) :
    Option.Rel (Turn.Alike ρ) (r.resumeTimer? p ticket)
      ((r.rename ρ).resumeTimer? q (ticket.rename ρ)) := by
  have hticket : (r.rename ρ).ticket? = some (ticket.rename ρ) ↔ r.ticket? = some ticket :=
    (Option.map_injective (Ticket.rename_injective hρ)).eq_iff (b := some ticket)
  rw [resumeTimer?, resumeTimer?, state_rename]
  split
  · rw [if_congr hticket rfl rfl]
    split
    · exact .some (alike_proceed hρ hpq r)
    · exact .none
  · exact .none

/-- So does a change of flags. -/
theorem alike_notifyFlag (hρ : Function.Injective ρ) (hpq : Agrees False p q) (r : Run) :
    Option.Rel (Turn.Alike ρ) (r.notifyFlag? p) ((r.rename ρ).notifyFlag? q) := by
  rw [notifyFlag?, notifyFlag?, state_rename]
  split
  · next name value hstate =>
    rw [hpq.flag_eq]
    split
    · exact .some (alike_proceed hρ hpq r)
    · exact .none
  · exact .none

/-- Breaking off is the same. -/
theorem interrupt_rename (hρ : Function.Injective ρ) (hpq : Agrees False p q) (r : Run) :
    (r.rename ρ).interrupt q = renameBoth ρ (r.interrupt p) := by
  rw [interrupt, interrupt, state_rename]
  split
  · dsimp only
    rw [finish_rename hpq]
    dsimp only [renameBoth, Prod.map]
    rw [present_rename hρ]
    exact Prod.ext rfl List.map_append.symm
  · rfl

/-- The place that the run wants under the new names is the one that it wanted. -/
theorem applyGeometry_rename (hρ : Function.Injective ρ) (r : Run) (ticket : Ticket)
    (rect : Option Rect) :
    (r.rename ρ).applyGeometry (ticket.rename ρ) rect =
      Prod.map (Run.rename ρ) (Option.map (Snapshot.rename ρ)) (r.applyGeometry ticket rect) := by
  have hticket : (r.rename ρ).highlightTicket = some (ticket.rename ρ) ↔
      r.highlightTicket = some ticket :=
    (Option.map_injective (Ticket.rename_injective hρ)).eq_iff (b := some ticket)
  rw [applyGeometry, applyGeometry, if_congr hticket rfl rfl]
  split
  · have hhighlight : (r.rename ρ).snapshot.highlight = r.snapshot.highlight := rfl
    rw [hhighlight]
    cases r.snapshot.highlight with
    | none => rfl
    | some highlight =>
        have hplaced : ({ r.rename ρ with snapshot.highlight := some { highlight with rect } }
            : Run) = ({ r with snapshot.highlight := some { highlight with rect } } : Run).rename
            ρ := rfl
        dsimp only
        rw [hplaced, present_rename hρ]
        generalize ({ r with snapshot.highlight := some { highlight with rect } } : Run).present =
          handed
        obtain ⟨placed, shown⟩ := handed
        cases shown <;> rfl
  · rfl

end Run

end Cutscene
