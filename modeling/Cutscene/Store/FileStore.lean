import Cutscene.Json.Printer
import Cutscene.Json.Reader
import Cutscene.Store
import Cutscene.Store.Disk
import Cutscene.Store.RecordName

/-!
# Stores on a disk

Each namespace has a file of its own in one directory, in which its record is written as JSON.
A record is first written under a name of its own beside the file, and then takes the file's
name, so that a reader finds either the last record or the new one, but never a part of one.
The steps of this are data (`SaveStep`): one and the same list of them is carried out on any
model of a disk here and on the disk itself by the program.
-/

namespace Cutscene

/-- What can go wrong with a record. -/
inductive StoreFault where
  /-- The disk refused an operation on a path. -/
  | io (path cause : String)
  /-- What is in the file is not a record. The defect that was found in it is not kept. -/
  | corrupt (path : String)
deriving DecidableEq

namespace StoreFault

/-- A fault in words. For a file that is not a record they are the beginning of the full message,
which goes on behind a colon with the defect. -/
def message : StoreFault → String
  | io path cause => "i/o error on " ++ path ++ ": " ++ cause
  | corrupt path => "corrupt progress record " ++ path

/-- A fault of the store as a fault of the library. -/
def toFault (f : StoreFault) : Fault := .persistence f.message

end StoreFault

/-- A step on the way to a saved record. -/
inductive SaveStep where
  /-- There is to be a directory. -/
  | create
  /-- A file in it is to hold some bytes. -/
  | write (name : String) (bytes : ByteArray)
  /-- A file is to take the place of another one. -/
  | rename (source target : String)
deriving DecidableEq

namespace SaveStep

variable {δ : Type} [Disk δ]

/-- Carries out a step. -/
def run (disk : δ) : SaveStep → Except DiskError δ
  | create => Disk.create disk
  | write name bytes => Disk.write disk name bytes
  | rename source target => Disk.rename disk source target

/-- The path that a step is about, in the directory `root`. -/
def subject (root : String) : SaveStep → String
  | create => root
  | write name _ => Path.join root name
  | rename _ target => Path.join root target

/-- The fault of a step that a disk refuses. -/
def refusal (root : String) (step : SaveStep) (cause : DiskError) : StoreFault :=
  .io (step.subject root) cause.message

/-- Carries out steps until one is refused. -/
def runAll (root : String) (disk : δ) : List SaveStep → Except StoreFault Unit × δ
  | [] => (.ok (), disk)
  | step :: rest =>
    match step.run disk with
    | .ok disk => runAll root disk rest
    | .error cause => (.error (step.refusal root cause), disk)

end SaveStep

/-- A store in the directory at a path. -/
structure FileStore where
  root : String
deriving DecidableEq

namespace FileStore

variable {δ : Type} [Disk δ]

/-- The name of a namespace's file. -/
def recordName (ns : Namespace) : String := String.ofList (RecordName.record ns)

/-- The name under which a namespace's record is written at first. -/
def stagingName (ns : Namespace) : String := String.ofList (RecordName.staging ns)

/-- The path of a namespace's file. -/
def recordPath (s : FileStore) (ns : Namespace) : String := Path.join s.root (recordName ns)

/-- The bytes of a record. -/
def encode (p : Progress) : ByteArray := p.toJson.indented.toUTF8

/-- The progress that the bytes of a record stand for. -/
def decode? (bytes : ByteArray) : Option Progress :=
  ((String.fromUTF8? bytes).bind Json.ofText?).bind Progress.ofJson?

/-- The steps by which a record is saved. -/
def saveSteps (ns : Namespace) (p : Progress) : List SaveStep :=
  [.create, .write (stagingName ns) (encode p), .rename (stagingName ns) (recordName ns)]

/-- Saves a record. -/
def save (s : FileStore) (ns : Namespace) (p : Progress) (disk : δ) :
    Except StoreFault Unit × δ :=
  SaveStep.runAll s.root disk (saveSteps ns p)

/-- What the outcome of reading a namespace's file says about its record. A file that is not
there is no record, and no fault. -/
def interpret (s : FileStore) (ns : Namespace) :
    Except DiskError ByteArray → Except StoreFault (Option Progress)
  | .ok bytes =>
    match decode? bytes with
    | some p => .ok (some p)
    | none => .error (.corrupt (s.recordPath ns))
  | .error .notFound => .ok none
  | .error cause => .error (.io (s.recordPath ns) cause.message)

/-- Loads a record. -/
def load (s : FileStore) (ns : Namespace) (disk : δ) : Except StoreFault (Option Progress) :=
  s.interpret ns (Disk.read disk (recordName ns))

/-- The store on a disk. -/
def store (s : FileStore) : Store (StateM δ) where
  load ns := do return (s.load ns (← get)).mapError StoreFault.toFault
  save ns p := do
    let (result, disk) := s.save ns p (← get)
    set disk
    return result.mapError StoreFault.toFault

end FileStore

end Cutscene
