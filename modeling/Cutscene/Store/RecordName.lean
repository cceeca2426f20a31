import Cutscene.Hex
import Cutscene.Namespace
import Cutscene.Path

/-!
# Names of record files

The progress of a namespace is kept in a file that is named for it. Letters, digits, hyphens
and underscores of the namespace stand for themselves in the name, and every other byte of its
UTF-8 encoding is written as a percent sign and two hexadecimal digits, so that the name is the
same on every file system and leads nowhere else.
-/

namespace Cutscene

namespace RecordName

/-- A byte that stands for itself. -/
def isPlain (b : UInt8) : Bool :=
  let c := Char.ofNat b.toNat
  c.isAlphanum || c == '-' || c == '_'

/-- How a byte is written. -/
def encodeByte (b : UInt8) : List Char :=
  if isPlain b then [Char.ofNat b.toNat]
  else ['%', Hex.upper (b.toNat / 16), Hex.upper (b.toNat % 16)]

/-- The name of a namespace's record without its extension. -/
def stem (ns : Namespace) : List Char := ns.key.toUTF8.toList.flatMap encodeByte

/-- The name of a namespace's record. -/
def record (ns : Namespace) : List Char := stem ns ++ ['.', 'j', 's', 'o', 'n']

/-- The name under which a record is written before it takes the place of the last one. -/
def staging (ns : Namespace) : List Char :=
  Path.withExtension (record ns) ['j', 's', 'o', 'n', '.', 't', 'm', 'p']

end RecordName

end Cutscene
