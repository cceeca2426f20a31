import Cutscene.Names
import Cutscene.Path
import Cutscene.Store.Disk

/-!
# Folders

What is found on a disk at the path where records are kept: nothing, a plain file, or a
directory with files and further directories in it. An operation is refused because of what is
there, which changes nothing, and the refusal tells why.

A real disk also refuses for causes of its own, such as being full, and then it may have written
some of the bytes already. That is not what these operations do. It is told by
`SaveStep.Breaks` and `SaveStep.MayEnd`, of which what a folder refuses is one case.
-/

namespace Cutscene

/-- Something in a directory. -/
inductive FolderItem where
  | file (bytes : ByteArray)
  | directory
deriving DecidableEq

/-- What is found at a path. -/
inductive Folder where
  | missing
  | plainFile
  | directory (items : NameMap FolderItem)
deriving DecidableEq

namespace Folder

/-- The greatest number of bytes in a name. -/
def maxNameSize : Nat := 255

/-- The items of a directory. Where there is none, there are none. -/
def items : Folder → NameMap FolderItem
  | directory items => items
  | missing | plainFile => ∅

/-- Looks into the directory for a name. -/
def find (folder : Folder) (name : String) : Except DiskError (Option FolderItem) :=
  match folder with
  | missing => .error .notFound
  | plainFile => .error .notADirectory
  | directory items =>
    if maxNameSize < name.utf8ByteSize then .error .nameTooLong else .ok (items.get? name)

/-- Makes a directory, unless there is one. -/
def create : Folder → Except DiskError Folder
  | missing => .ok (directory ∅)
  | plainFile => .error .alreadyExists
  | directory items => .ok (directory items)

/-- The bytes of a file. -/
def read (folder : Folder) (name : String) : Except DiskError ByteArray := do
  match ← folder.find name with
  | some (.file bytes) => .ok bytes
  | some .directory => .error .isADirectory
  | none => .error .notFound

/-- Makes a file with the given bytes, or gives them to the file that is there. All bytes come to be
in it, or nothing is changed: writing that is cut short is a case of `SaveStep.Breaks`. -/
def write (folder : Folder) (name : String) (bytes : ByteArray) : Except DiskError Folder := do
  match ← folder.find name with
  | some .directory => .error .isADirectory
  | some (.file _) | none => .ok (directory (folder.items.insert name (.file bytes)))

/-- Gives a file another name, under which it takes the place of what file is there. A directory is
given any name, also where a real disk would refuse it because of what has that name already: a
store renames files only. -/
def rename (folder : Folder) (source target : String) : Except DiskError Folder := do
  match ← folder.find source, ← folder.find target with
  | none, _ => .error .notFound
  | some (.file _), some .directory => .error .isADirectory
  | some item, _ => .ok (directory ((folder.items.erase source).insert target item))

instance : Disk Folder := ⟨create, write, rename, read⟩

/-! ### Paths -/

/-- What a system says of a name with a character that no name can have. -/
def noName : DiskError := .other "file name contained an unexpected NUL byte"

/-- The greatest number of bytes in a path. -/
def maxPathSize : Nat := 4095

/-- A place that a path into a folder leads to: the folder, a directory around it, a directory
in it, or a file in it. -/
inductive Spot where
  | around
  | here
  | inside
  | file (bytes : ByteArray)
deriving DecidableEq

/-- Goes on from a place by a name. In the directories around and inside nothing is known but
the way to the folder that two dots show. -/
def step (folder : Folder) (spot : Spot) (name : String) : Except DiskError Spot :=
  match spot with
  | .file _ => .error .notADirectory
  | spot =>
    if name = "" ∨ name = "." then .ok spot
    else if name = ".." then .ok (if spot = .inside then .here else .around)
    else if maxNameSize < name.utf8ByteSize then .error .nameTooLong
    else if spot = .here then do
      match ← folder.find name with
      | some (.file bytes) => .ok (.file bytes)
      | some .directory => .ok .inside
      | none => .error .notFound
    else .error .notFound

/-- Reads the file that a path of names leads to from the directory `root`. -/
def readAt (folder : Folder) (root path : String) : Except DiskError ByteArray := do
  let whole := Path.join root path
  if whole.toList.contains '\x00' then .error noName
  else if maxPathSize < whole.utf8ByteSize then .error .nameTooLong
  else
    let names := (Path.split '/' path.toList).map String.ofList
    let start ← match folder with
      | directory _ => .ok Spot.here
      | missing => .error .notFound
      | plainFile => .error .notADirectory
    match ← names.foldlM folder.step start with
    | .file bytes => .ok bytes
    | .around | .here | .inside => .error .isADirectory

/-- Two dots lead out of the folder, and further out. -/
example : (directory ∅).readAt "d" "../.." = .error .isADirectory := by rfl

end Folder

end Cutscene
