import Cutscene.Catalog
import Cutscene.Console
import Cutscene.Console.Settings
import Cutscene.Store.Folder

/-!
# The program around a console

The program is told by its settings which catalog to read and where records are kept. It turns
to the namespace of the user, registers the scenes of the catalog, and then answers its input.
It does not start without settings and a catalog that can be read.
-/

namespace Cutscene

namespace Catalog

/-- The catalog in a file at a path, given what reading the file has led to. -/
def ofFile (path : String) : Except DiskError String → Except Fault CatalogReport
  | .ok text =>
    match parse? (.ofPath path) text with
    | some scenes => .ok (report scenes)
    | none => .error (.catalog ("cannot understand " ++ path))
  | .error cause => .error (.catalog ("cannot read " ++ path ++ ": " ++ cause.message))

end Catalog

namespace Console

variable {m : Type → Type} [Monad m]

/-- The console of a user, before any input. -/
def prepare (h : Host Stage) (store : Store m) (time : Instant) (settings : Settings)
    (report : CatalogReport) : m Console := do
  let c ← (Console.start time).load h store settings.ns
  return c.registerScenes report.scenes

end Console

end Cutscene
