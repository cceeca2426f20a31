import Cutscene.Fault
import Cutscene.Json.Reader
import Cutscene.Path
import Cutscene.Scene.Lint
import Cutscene.Yaml.Meaning

/-!
# Catalogs

A catalog is a list of scenes that authors write. Of several scenes with one id only the first
counts. What authors should know about the scenes is reported beside them.
-/

namespace Cutscene

/-- Something to report about a catalog. -/
inductive CatalogNote where
  | finding (scene : String) (found : Finding)
  | duplicateScene (scene : String)
deriving DecidableEq

namespace CatalogNote

/-- A note in words. -/
def message : CatalogNote → String
  | finding scene found => scene ++ ": " ++ found.message
  | duplicateScene scene => (Fault.authoring scene "duplicate scene id, skipped").message

end CatalogNote

/-- The scenes of a catalog that count, and what is to be reported about all of them. -/
structure CatalogReport where
  scenes : List Scene := []
  notes : List CatalogNote := []
deriving DecidableEq

/-- The notations of catalogs. -/
inductive CatalogFormat where
  | json
  | yaml
deriving DecidableEq

namespace CatalogFormat

/-- The notation of the catalog at a path, which its extension tells. -/
def ofPath (path : String) : CatalogFormat :=
  match (Path.fileName? path).bind Path.extension? with
  | some extension =>
    if extension.map Char.toLower = ['j', 's', 'o', 'n'] then json else yaml
  | none => yaml

end CatalogFormat

namespace Catalog

/-- The parts of a catalog. -/
def shape : Shape := .record [("scenes", .list Scene.shape)]

/-- The scenes of a catalog out of a record. -/
def read? {δ β : Type} [Document δ] [Tagged δ β] [Body β] (document : δ) :
    Option (List Scene) := do
  let fields ← Document.fields? shape.names document
  Document.defaulted fields "scenes" [] (Document.list? Scene.read?)

/-- A catalog as a record. -/
def toJson (scenes : List Scene) : Json :=
  .object [("scenes", .array (scenes.map Scene.toJson))]

/-- Keeps the first scene of each id that has not been seen before. -/
def sift (seen : NameSet) : List Scene → CatalogReport
  | [] => {}
  | s :: rest =>
    if seen.contains s.id then
      let report := sift seen rest
      { report with notes := .duplicateScene s.id :: report.notes }
    else
      let report := sift (seen.insert s.id) rest
      { scenes := s :: report.scenes
        notes := s.lint.map (.finding s.id) ++ report.notes }

/-- The scenes that count and the notes about a list of scenes. -/
def report (scenes : List Scene) : CatalogReport := sift ∅ scenes

/-- Reads a catalog in JSON. -/
def ofJsonText? (text : String) : Option (List Scene) := (Json.ofText? text).bind read?

/-- Reads a catalog in YAML. -/
def ofYamlText? (text : String) : Option (List Scene) :=
  (Yaml.Node.ofText? shape text).bind read?

/-- Reads a catalog in a notation. -/
def parse? : CatalogFormat → String → Option (List Scene)
  | .json, text => ofJsonText? text
  | .yaml, text => ofYamlText? text

end Catalog

end Cutscene
