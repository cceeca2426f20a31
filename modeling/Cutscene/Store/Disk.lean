/-!
# Disks

What a store needs of the disk on which it keeps its records: that a directory be there, that files
in it be written, renamed and read. A disk may refuse any of these and tells why.
-/

namespace Cutscene

/-- Why a disk refuses an operation. -/
inductive DiskError where
  | notFound
  | alreadyExists
  | notADirectory
  | isADirectory
  | nameTooLong
  | other (text : String)
deriving DecidableEq

namespace DiskError

/-- The refusal in the words of the system. -/
def message : DiskError → String
  | notFound => "No such file or directory (os error 2)"
  | alreadyExists => "File exists (os error 17)"
  | notADirectory => "Not a directory (os error 20)"
  | isADirectory => "Is a directory (os error 21)"
  | nameTooLong => "File name too long (os error 36)"
  | other text => text

end DiskError

/-- Bytes are equal when their rows of bytes are. -/
instance decEqBytes : DecidableEq ByteArray := fun a b =>
  decidable_of_decidable_of_iff (p := a.data = b.data) ⟨ByteArray.ext, congrArg ByteArray.data⟩

/-- What can be done in one directory of a disk in a state of type `δ`. -/
class Disk (δ : Type) where
  /-- Makes the directory, unless it is there. -/
  create : δ → Except DiskError δ
  /-- Makes a file with the given bytes, or gives them to the file that is there. -/
  write : δ → String → ByteArray → Except DiskError δ
  /-- Gives a file another name, under which it takes the place of what file is there. -/
  rename : δ → String → String → Except DiskError δ
  /-- The bytes of a file. -/
  read : δ → String → Except DiskError ByteArray

end Cutscene
