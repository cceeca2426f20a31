import Cutscene.Anchor
import Cutscene.Unprintable

/-!
# Listings of anchors

A listing names the anchors that there are, in ascending order, each name between quotes.
-/

namespace Cutscene

namespace Anchors

/-- A character of a name between quotes. One that cannot be seen is written by its code
point. -/
def quoteChar (c : Char) : List Char :=
  if c = '\u0000' then ['\\', '0']
  else if c = '\t' then ['\\', 't']
  else if c = '\n' then ['\\', 'n']
  else if c = '\r' then ['\\', 'r']
  else if c = '"' ∨ c = '\\' then ['\\', c]
  else if Unprintable.isUnprintable c then
    ['\\', 'u', '\x7b'] ++ Nat.toDigits 16 c.toNat ++ ['\x7d']
  else [c]

/-- A name between quotes. -/
def quote (name : String) : String :=
  "\"" ++ String.ofList (name.toList.flatMap quoteChar) ++ "\""

/-- The names of the anchors. -/
def listing (anchors : Anchors) : String :=
  "AnchorRegistry \x7b anchors: [" ++ ", ".intercalate (anchors.keys.map quote) ++ "] \x7d"

end Anchors

end Cutscene
