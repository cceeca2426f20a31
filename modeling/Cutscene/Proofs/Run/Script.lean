import Cutscene.Proofs.Run.Effects

/-!
# Which Steps a Run Executes

`Run.script` lists the steps that a run executes when it advances, one after the other. It follows
the loop of the run and looks at nothing but the place of the run before each step. The commands
among the effects of a turn are those of the steps in this list, each once and in order: nothing
else gives a command.

## Main results

* `Run.commands_advance`: the commands of a run that advances.
* `Run.Answers.commands`: the commands of an accepted answer.
-/

namespace Cutscene

/-- The command that an effect gives. -/
def Effect.command? : Effect → Option HostCommand
  | dispatch command => some command
  | flagChanged .. | counterChanged .. | measure .. | present _ | ended _ => none

/-- The commands that are given among some effects. -/
def commands (es : List Effect) : List HostCommand := es.filterMap Effect.command?

/-- The commands of two lists of effects stand one behind the other. -/
@[simp] theorem commands_append (es fs : List Effect) :
    commands (es ++ fs) = commands es ++ commands fs := List.filterMap_append

namespace Run

/-- The steps that are executed until the run no longer is running, at most as many as are left. -/
def executed : (left : Nat) → Run → Progress → List Step
  | 0, _, _ => []
  | left + 1, r, p =>
    if r.state = .running then
      r.currentStep?.toList ++ executed left (r.step p).run (r.step p).progress
    else []

/-- The steps that a run executes when it advances. -/
def script (r : Run) (p : Progress) : List Step := executed budget r p

/-! ### Commands -/

/-- Showing something gives no command. -/
theorem commands_present (r : Run) : commands r.present.2 = [] := by
  obtain ⟨presented, shown, heq, hshown⟩ := r.exists_present
  rw [heq]
  refine List.filterMap_eq_nil_iff.mpr fun e he => ?_
  obtain ⟨s, rfl⟩ := hshown e he
  rfl

/-- Nor does going on, wherever it leads. -/
theorem commands_follow (r : Run) (p : Progress) (flow : Flow) :
    commands (r.follow p flow).2 = [] := by
  rcases follow_cases r p flow with
    ⟨state, -, heq⟩ | ⟨-, ⟨index, -, heq⟩ | ⟨reason, diagnostic, heq⟩⟩ <;>
    (rw [heq]; rfl)

/-- Only a step that gives a command does so while it is executed. -/
theorem commands_execute (r : Run) (p : Progress) (s : Step) :
    commands (r.execute p s).effects = s.command?.toList := by
  cases s with
  | choice prompt options => rw [execute]; split <;> rfl
  | _ => rfl

/-- A step gives the command that it carries, if it carries one. -/
theorem commands_step (r : Run) (p : Progress) :
    commands (r.step p).effects = r.currentStep?.toList.filterMap Step.command? := by
  have hsame : { r with snapshot.sound := none }.currentStep? = r.currentStep? := rfl
  rw [step, hsame]
  cases r.currentStep? with
  | none =>
      dsimp only
      rw [commands_append, commands_present]
      rfl
  | some s =>
      dsimp only
      rw [commands_append, commands_append, commands_present, commands_follow, commands_execute,
        List.append_nil, List.append_nil]
      cases hcommand : s.command? <;> simp [hcommand]

/-- Induction on the steps that are left. -/
theorem commands_loop (left : Nat) (r : Run) (p : Progress) :
    commands (loop left r p).effects = (executed left r p).filterMap Step.command? := by
  induction left generalizing r p with
  | zero =>
      rw [loop, executed]
      split <;> rfl
  | succ left ih =>
      rw [loop, executed]
      split
      · dsimp only
        rw [commands_append, commands_step, ih, List.filterMap_append]
      · rfl

/-- **A run that advances gives the commands of the steps that it executes**, once and in order. -/
theorem commands_advance (r : Run) (p : Progress) :
    commands (r.advance p).effects = (r.script p).filterMap Step.command? := by
  rw [advance]
  dsimp only
  rw [commands_append, commands_present, List.append_nil, commands_loop]
  rfl

/-- A run that goes on gives no command before it advances. -/
theorem Resumes.commands {r r' : Run} {p p' : Progress} {es : List Effect}
    (hr : r.Resumes p r' p' es) : commands es = [] := by
  cases hr with
  | choice =>
      rw [commands_append, leaveChoice, commands_follow, List.append_nil]
      exact writeFlags_induction (P := fun _ es => Cutscene.commands es = []) rfl
        fun q es name value h => by rw [commands_append, h]; rfl
  | line | highlight | timer | flag => rfl

/-- **The commands of an accepted answer** are those of the steps that the run executes when it goes
on. -/
theorem Answers.commands {r : Run} {p : Progress} {turn : Turn} (h : r.Answers p turn) :
    ∃ r' p' es, r.Resumes p r' p' es ∧
      turn = { r'.advance p' with effects := es ++ (r'.advance p').effects } ∧
      Cutscene.commands turn.effects = (r'.script p').filterMap Step.command? := by
  obtain ⟨r', p', es, hr, rfl⟩ := h.exists_resumes
  refine ⟨r', p', es, hr, rfl, ?_⟩
  rw [commands_append, hr.commands, commands_advance]
  rfl

end Run

end Cutscene
