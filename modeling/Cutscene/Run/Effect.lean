import Cutscene.Run.Snapshot

/-!
# Effects

What a run asks of the world around it, in the order in which it came about.
-/

namespace Cutscene

/-- Why a run had to be broken off: the scene was not written well. -/
inductive Diagnostic where
  | undefinedLabel (index : Nat) (target : String)
  | emptyChoice (index : Nat)
  | budget (steps : Nat)
deriving DecidableEq

namespace Diagnostic

/-- A diagnostic in words. -/
def message : Diagnostic → String
  | undefinedLabel index target =>
    "step " ++ toString index ++ " jumps to undefined label `" ++ target ++ "`"
  | emptyChoice index => "choice at step " ++ toString index ++ " has no options"
  | budget steps => "executed " ++ toString steps ++ " steps without suspending"

end Diagnostic

/-- How a run ended and what had changed by then. -/
structure Ending where
  reason : EndReason
  diagnostic : Option Diagnostic
  changedFlags : NameMap Bool
  changedCounters : NameMap Int64
deriving DecidableEq

/-- Something that happened while steps were executed. -/
inductive Effect where
  /-- A flag was written. -/
  | flagChanged (flag : String) (old new : Bool)
  /-- A counter was written. -/
  | counterChanged (counter : String) (old new : Int64)
  /-- The game is given a command. -/
  | dispatch (command : HostCommand)
  /-- The place of a highlight is to be found out. -/
  | measure (ticket : Ticket) (anchor : String)
  /-- What is shown has changed. -/
  | present (snapshot : Snapshot)
  /-- The run ended. -/
  | ended (ending : Ending)
deriving DecidableEq

end Cutscene
