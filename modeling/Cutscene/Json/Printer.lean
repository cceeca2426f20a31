import Cutscene.Binary64.Shortest
import Cutscene.Json.Quoted
import Cutscene.Json.Basic

/-!
# Writing JSON

A value is written with its members in the order in which it holds them. A `Layout` says what
stands between the tokens: nothing at all in a compact text, a line for each item or member in
an indented one. Empty containers are always written without anything inside.
-/

namespace Cutscene

namespace Json

/-- What stands between tokens: before an item at a given depth, and after a name's colon. -/
structure Layout where
  newline : Nat → List Char
  afterColon : List Char

namespace Layout

/-- No blanks at all. -/
def compact : Layout := ⟨fun _ => [], []⟩

/-- A line for each item, indented by two spaces for each container around it. -/
def indented : Layout := ⟨fun depth => '\n' :: List.replicate (2 * depth) ' ', [' ']⟩

end Layout

/-- A whole number in decimal digits. -/
def intChars (n : Int) : List Char :=
  if n < 0 then '-' :: Nat.toDigits 10 n.natAbs else Nat.toDigits 10 n.natAbs

mutual

/-- The characters of a value at a depth. A number that is not finite is written as `null`. -/
def write (layout : Layout) (depth : Nat) : Json → List Char
  | .null | .unreadable => ['n', 'u', 'l', 'l']
  | .bool true => ['t', 'r', 'u', 'e']
  | .bool false => ['f', 'a', 'l', 's', 'e']
  | .int n => intChars n
  | .float x => if x.isFinite then x.text else ['n', 'u', 'l', 'l']
  | .string s => Quoted.write s
  | .array [] => ['[', ']']
  | .array (item :: rest) =>
    '[' :: layout.newline (depth + 1) ++ item.write layout (depth + 1)
      ++ writeItems layout (depth + 1) rest ++ layout.newline depth ++ [']']
  | .object [] => ['{', '}']
  | .object ((name, value) :: rest) =>
    '{' :: layout.newline (depth + 1) ++ Quoted.write name ++ ':' :: layout.afterColon
      ++ value.write layout (depth + 1)
      ++ writeMembers layout (depth + 1) rest ++ layout.newline depth ++ ['}']

/-- The items of an array after its first. -/
def writeItems (layout : Layout) (depth : Nat) : List Json → List Char
  | [] => []
  | item :: rest =>
    ',' :: layout.newline depth ++ item.write layout depth ++ writeItems layout depth rest

/-- The members of an object after its first. -/
def writeMembers (layout : Layout) (depth : Nat) : List (String × Json) → List Char
  | [] => []
  | (name, value) :: rest =>
    ',' :: layout.newline depth ++ Quoted.write name ++ ':' :: layout.afterColon
      ++ value.write layout depth ++ writeMembers layout depth rest

end

/-- The text of a value without blanks. -/
def compact (j : Json) : String := String.ofList (j.write Layout.compact 0)

/-- The text of a value with a line for each item and member. -/
def indented (j : Json) : String := String.ofList (j.write Layout.indented 0)

end Json

end Cutscene
