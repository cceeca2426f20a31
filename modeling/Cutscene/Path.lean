/-!
# Paths of files

A path is a row of names between slashes. Empty names and single dots in it mean nothing. The
extension of a file's name is what stands behind its last dot, unless nothing stands before it.
-/

namespace Cutscene

namespace Path

/-- The pieces of a row of characters between separators. -/
def split (separator : Char) : List Char → List (List Char)
  | [] => [[]]
  | c :: rest =>
    if c = separator then [] :: split separator rest
    else match split separator rest with
      | [] => [[c]]
      | piece :: more => (c :: piece) :: more

/-- The name of the file that a path leads to, if it does not lead upwards or nowhere. -/
def fileName? (path : String) : Option (List Char) :=
  match ((split '/' path.toList).filter fun name => name ≠ [] ∧ name ≠ ['.']).getLast? with
  | some name => if name = ['.', '.'] then none else some name
  | none => none

/-- The parts of a file's name before and behind its last dot, if something stands before. -/
def cut? (name : List Char) : Option (List Char × List Char) :=
  let extension := (name.reverse.takeWhile (· ≠ '.')).reverse
  let front := name.take (name.length - extension.length - 1)
  if '.' ∈ name ∧ front ≠ [] then some (front, extension) else none

/-- The extension of a file's name. -/
def extension? (name : List Char) : Option (List Char) := (cut? name).map Prod.snd

/-- A file's name with another extension. -/
def withExtension (name extension : List Char) : List Char :=
  ((cut? name).elim name Prod.fst) ++ '.' :: extension

/-- The path of a name in a directory. -/
def join (directory name : String) : String :=
  if directory = "" ∨ directory.toList.getLast? = some '/' then directory ++ name
  else directory ++ "/" ++ name

end Path

end Cutscene
