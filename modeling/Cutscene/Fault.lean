/-!
# Faults

What can go wrong in a request to the library, and how it is put into words.
-/

namespace Cutscene

/-- What went wrong. -/
inductive Fault where
  | sceneNotFound (scene : String)
  | authoring (scene message : String)
  | persistence (cause : String)
  | dispatch (cause : String)
  | validation (cause : String)
  | catalog (cause : String)
deriving DecidableEq, Inhabited

namespace Fault

/-- A fault in words. -/
def message : Fault → String
  | sceneNotFound scene => "scene not found: " ++ scene
  | authoring scene message => "authoring error in scene " ++ scene ++ ": " ++ message
  | persistence cause => "persistence error: " ++ cause
  | dispatch cause => "dispatch error: " ++ cause
  | validation cause => "validation error: " ++ cause
  | catalog cause => "catalog error: " ++ cause

end Fault

end Cutscene
