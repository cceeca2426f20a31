import Std.Data.ExtTreeMap
import Std.Data.ExtTreeSet

/-!
# Maps and sets of names

Flags, counters, portraits and every other thing that authors name are held in maps keyed by
their names. Names are ordered by their characters' code points, which is also the order of
their UTF-8 encodings, and `toList` lists a map in that order. Two maps with the same entries
are equal.
-/

namespace Cutscene

/-- A finite map from names, listed in ascending order of the names. -/
abbrev NameMap (α : Type) := Std.ExtTreeMap String α

/-- A finite set of names, listed in ascending order. -/
abbrev NameSet := Std.ExtTreeSet String

namespace NameMap

variable {α β : Type}

/-- The map of a list of entries. Of two entries with one name, the later one counts. -/
def ofEntries (entries : List (String × α)) : NameMap α :=
  Std.ExtTreeMap.ofList entries

/-- Reads every value of a list of entries, or none of them: of two entries with one name the
later one counts, but both have to be readable. -/
def ofEntries? (read : α → Option β) (entries : List (String × α)) : Option (NameMap β) :=
  (entries.mapM fun entry => (read entry.2).map (entry.1, ·)).map ofEntries

/-- The entries of `now` whose value differs from the one `before` holds, where a name that
`before` does not hold counts as `absent`. -/
def changes [DecidableEq α] (absent : α) (before now : NameMap α) : NameMap α :=
  now.filter fun name value => before.getD name absent != value

end NameMap

end Cutscene
