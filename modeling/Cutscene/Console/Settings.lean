import Cutscene.Fault
import Cutscene.Namespace

/-!
# Settings

What a console has to be told before it starts: where the catalog is, where records are kept,
and who plays. It is told by variables with names, of which only the catalog's has to be set.
A variable that holds nothing but blanks counts as not set.
-/

namespace Cutscene

/-- Why a console cannot start or go on. -/
inductive ConsoleFault where
  | settings (cause : String)
  | catalog (fault : Fault)
  | io (cause : String)
deriving DecidableEq

namespace ConsoleFault

/-- A fault in words. -/
def message : ConsoleFault → String
  | settings cause => "configuration error: " ++ cause
  | catalog fault => "catalog error: " ++ fault.message
  | io cause => "i/o error: " ++ cause

end ConsoleFault

/-- What a console is told before it starts. -/
structure Settings where
  catalog : String
  storeDir : String
  ns : Namespace
deriving DecidableEq

namespace Settings

/-- The variable that holds the path of the catalog. -/
def catalogVariable : String := "WAYMARK_CATALOG"

/-- The variable that holds the path of the directory for records. -/
def storeVariable : String := "WAYMARK_STORE_DIR"

/-- The variable that holds the id of the user. -/
def userVariable : String := "WAYMARK_NAMESPACE"

/-- Where records are kept if nothing else is said. -/
def defaultStoreDir : String := "./waymark-data"

/-- The settings that variables hold. -/
def ofVariables (value? : String → Option String) : Except ConsoleFault Settings :=
  let filled? (name : String) : Option String :=
    (value? name).filter fun value => !Blank.isAllBlank value
  match filled? catalogVariable with
  | none => .error (.settings (catalogVariable ++ " environment variable must be set"))
  | some catalog => .ok
    { catalog
      storeDir := (filled? storeVariable).getD defaultStoreDir
      ns := .ofUser? (value? userVariable) }

end Settings

end Cutscene
