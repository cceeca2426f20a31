import Cutscene.Scene

/-!
# Findings about scenes

What an author should know about a scene before it is played: labels that are defined more than
once, jumps that lead nowhere, choices without options, and scenes that nothing triggers.
-/

namespace Cutscene

/-- Something that is wrong with a scene. -/
inductive Finding where
  | duplicateLabel (name : String)
  | undefinedLabel (index : Nat) (kind target : String)
  | emptyChoice (index : Nat)
  | noTriggers
deriving DecidableEq

namespace Finding

/-- A finding in words. -/
def message : Finding → String
  | duplicateLabel name => "duplicate label `" ++ name ++ "`"
  | undefinedLabel index kind target =>
    "step " ++ toString index ++ " (" ++ kind ++ ") jumps to undefined label `" ++ target ++ "`"
  | emptyChoice index => "step " ++ toString index ++ " (choice) has no options"
  | noTriggers => "scene declares no triggers"

end Finding

namespace Scene

/-- The name of a label. -/
def labelName? : Step → Option String
  | .label name => some name
  | _ => none

/-- The names of the labels among some steps. -/
def labelNames (steps : List Step) : List String := steps.filterMap labelName?

/-- Every item that has occurred before, as often as it occurs again. -/
def repeats (seen : List String) : List String → List String
  | [] => []
  | name :: rest =>
    if name ∈ seen then name :: repeats seen rest else repeats (name :: seen) rest

/-- What is wrong with the step at an index. -/
def stepFindings (labels : List String) (step : Step) (index : Nat) : List Finding :=
  ((step.jumpTargets.filter fun target => target ∉ labels).map
    fun target => .undefinedLabel index step.kind target) ++
    if step.isEmptyChoice then [.emptyChoice index] else []

/-- What is wrong with a scene: repeated labels, then the steps in order, then the triggers. -/
def lint (s : Scene) : List Finding :=
  (repeats [] (labelNames s.steps)).map .duplicateLabel ++
    s.steps.zipIdx.flatMap (fun (step, index) =>
      stepFindings (labelNames s.steps) step index) ++
    if s.triggers = [] then [.noTriggers] else []

end Scene

end Cutscene
