import Cutscene.Proofs.Director.Log
import Cutscene.Proofs.Director.Minutes

/-!
# Commands in the Log

Every command that is given to the game is recorded, with what became of it. So the log, read for
commands, and the minutes, read for commands, are the same list (`Director.History.outcomes`).

## Main results

* `Director.accounts_carryOut`, `Director.Deed.accounts`: what is recorded of each command.
* `Director.History.outcomes`: the commands in the log are those in the minutes.
-/

namespace Cutscene

/-- The command that was given, and whether the game did it. -/
def Exchange.outcome? : Exchange → Option (HostCommand × Bool)
  | told command (.ok ()) => some (command, true)
  | told command (.error _) => some (command, false)
  | measured .. | shown _ => none

/-- The command that an event is about, and whether the game did it. -/
def Occurrence.outcome? : Occurrence → Option (HostCommand × Bool)
  | commandDispatched _ command => some (command, true)
  | commandFailed _ command _ => some (command, false)
  | sceneStarted .. | sceneEnded _ | flagChanged .. | counterChanged .. => none

/-- The commands in some minutes, with what became of them. -/
def outcomesOf (minutes : List Exchange) : List (HostCommand × Bool) :=
  minutes.filterMap Exchange.outcome?

/-- The commands that events are about, with what became of them. -/
def outcomesIn (events : List Event) : List (HostCommand × Bool) :=
  events.filterMap (·.occurrence.outcome?)

/-- What became of commands is read off minutes one after the other. -/
@[simp] theorem outcomesOf_append (m n : List Exchange) :
    outcomesOf (m ++ n) = outcomesOf m ++ outcomesOf n := List.filterMap_append

/-- So it is off events. -/
@[simp] theorem outcomesIn_append (es fs : List Event) :
    outcomesIn (es ++ fs) = outcomesIn es ++ outcomesIn fs := List.filterMap_append

/-- Where no command was given, none was answered. -/
theorem outcomesOf_eq_nil {m : List Exchange} (hm : commandsOf m = []) : outcomesOf m = [] := by
  rw [commandsOf, List.filterMap_eq_nil_iff] at hm
  refine List.filterMap_eq_nil_iff.mpr fun exchange hmem => ?_
  cases exchange with
  | told command answer => cases hm _ hmem
  | measured | shown => rfl

namespace Director

variable {σ ω : Type} {h : Host σ} {d e f : Director (σ × List Exchange)}

/-- Between the directors, what was recorded of commands is what was taken down of them. -/
def Accounts (d e : Director (σ × List Exchange)) : Prop :=
  ∃ es more, Logs d es e ∧ e.minutes = d.minutes ++ more ∧ outcomesIn es = outcomesOf more

namespace Accounts

/-- Accounts are kept one after the other. -/
theorem trans (hd : Accounts d e) (he : Accounts e f) : Accounts d f := by
  obtain ⟨es, more, hlogs, hminutes, hsame⟩ := hd
  obtain ⟨es', more', hlogs', hminutes', hsame'⟩ := he
  refine ⟨es ++ es', more ++ more', hlogs.trans hlogs', ?_, ?_⟩
  · rw [hminutes', hminutes, List.append_assoc]
  · rw [outcomesIn_append, outcomesOf_append, hsame, hsame']

/-- Nothing is recorded, and no command is given. -/
theorem silent {m : List Exchange} (hevents : e.events = d.events)
    (hrecorded : e.recorded = d.recorded) (hminutes : e.minutes = d.minutes ++ m)
    (hm : commandsOf m = []) : Accounts d e :=
  ⟨[], m, .nil hevents hrecorded, hminutes, (outcomesOf_eq_nil hm).symm⟩

/-- Where nothing happens, the accounts are kept. -/
theorem refl (d : Director (σ × List Exchange)) : Accounts d d :=
  .silent rfl rfl (List.append_nil _).symm rfl

/-- What came before matters by what was recorded and taken down. -/
theorem congr (he : Accounts e f) (hevents : e.events = d.events)
    (hrecorded : e.recorded = d.recorded) (hminutes : e.minutes = d.minutes) : Accounts d f := by
  obtain ⟨es, more, hlogs, hmore, hsame⟩ := he
  exact ⟨es, more, hlogs.congr hevents.symm hrecorded.symm, hminutes ▸ hmore, hsame⟩

end Accounts

/-- One event speaks of one command at most. -/
theorem outcomesIn_singleton (ev : Event) : outcomesIn [ev] = ev.occurrence.outcome?.toList := by
  rw [outcomesIn, List.filterMap_cons]
  cases ev.occurrence.outcome? <;> rfl

/-- Something is recorded that is about no command. -/
theorem accounts_record (e : Director (σ × List Exchange)) (correlation : Uuid) {o : Occurrence}
    (ho : o.outcome? = none) : Accounts e (e.record h.minuted correlation o) := by
  refine ⟨_, [], logs_record e correlation o, (List.append_nil _).symm, ?_⟩
  rw [outcomesIn_singleton, entry, ho]
  rfl

/-- A command is recorded with what became of it. -/
theorem accounts_dispatch (scene : String) (run : Uuid) (d : Director (σ × List Exchange))
    (command : HostCommand) : Accounts d (carryOut h.minuted scene run d (.dispatch command)) := by
  have hlogs := logs_record (h := h.minuted)
    { d with stage := (h.minuted.dispatch command d.stage).2 } run
  refine ⟨_, [.told command (h.dispatch command d.stage.1).1], (hlogs _).congr rfl rfl, rfl, ?_⟩
  rw [outcomesIn_singleton, entry]
  dsimp only [Host.minuted]
  cases (h.dispatch command d.stage.1).1 <;> rfl

/-- Accounts are kept when an effect is carried out: only a command is recorded as one. -/
theorem accounts_carryOut (scene : String) (run : Uuid) (d : Director (σ × List Exchange))
    (effect : Effect) : Accounts d (carryOut h.minuted scene run d effect) := by
  cases effect with
  | flagChanged | counterChanged =>
      rw [carryOut]
      exact .congr (accounts_record _ run rfl) rfl rfl rfl
  | measure => exact .silent rfl rfl (List.append_nil _).symm rfl
  | present s => exact .silent (m := [.shown s]) rfl rfl rfl rfl
  | dispatch command => exact accounts_dispatch scene run d command
  | ended ending =>
      rw [carryOut]
      cases hreason : ending.reason with
      | completed =>
          rw [conclude_of_completed d scene run hreason]
          exact .congr (accounts_record _ run rfl) rfl rfl rfl
      | interrupted =>
          rw [conclude_of_interrupted d scene run hreason]
          exact .congr (accounts_record _ run rfl) rfl rfl rfl

/-- So they are when a turn is followed, effect by effect. -/
theorem accounts_follow (d : Director (σ × List Exchange)) (run : Run) (q : Progress)
    (es : List Effect) : Accounts d (d.follow h.minuted run q es) :=
  follow_induction (P := Accounts d)
    (fun effect _ hf => hf.trans (accounts_carryOut _ _ _ effect))
    (.silent rfl rfl (List.append_nil _).symm rfl)

/-- **Every deed keeps the accounts.** -/
theorem Deed.accounts {ts : List Ticket} (hd : Deed h.minuted d ts e) : Accounts d e := by
  have hsame : d.minutes = d.minutes ++ [] := (List.append_nil _).symm
  cases hd with
  | manage | withdraw => exact .silent rfl rfl hsame rfl
  | locate ticket anchor =>
      obtain ⟨found, shown, hminutes, hcommands, -⟩ :=
        exists_minutes_locate (h := h) d ticket anchor
      obtain ⟨stage, run, heq, -⟩ := exists_locate h.minuted d ticket anchor
      refine .silent (m := .measured anchor found :: shown) ?_ ?_ hminutes hcommands
      · rw [heq]
      · rw [heq]
  | writeFlag flag value =>
      rw [Director.writeFlag]
      exact .congr (accounts_record _ _ rfl) rfl rfl rfl
  | setCounter counter value =>
      rw [Director.setCounter]
      exact .congr (accounts_record _ _ rfl) rfl rfl rfl
  | interrupt | answer => exact accounts_follow d _ _ _
  | debut scene =>
      have hannounced : Accounts d (d.announce h.minuted scene) := by
        rw [Director.announce]
        exact .congr (accounts_record _ _ rfl) rfl rfl rfl
      exact hannounced.trans (accounts_follow _ _ _ _)

/-- So do several deeds. Induction on them. -/
theorem Deeds.accounts {ts : List Ticket} (hd : Deeds h.minuted d ts e) : Accounts d e :=
  hd.induction (P := fun _ e => Accounts d e) (fun hdeed he => he.trans hdeed.accounts) []
    (.refl d)

end Director

end Cutscene
