import Cutscene.Json.Tagged

/-!
# Progress

What a player has done so far: flags, counters, the scenes that have been played to their end,
and when each scene was last seen. A flag that was never written is off, and a counter that was
never written is zero.

As a record, progress has one field for each of its four parts, and each may be missing.
-/

namespace Cutscene

/-- What a player has done so far. -/
structure Progress where
  flags : NameMap Bool := ∅
  counters : NameMap Int64 := ∅
  completed : NameSet := ∅
  lastSeen : NameMap Int64 := ∅
deriving DecidableEq, Inhabited

namespace Progress

/-- Nothing done yet. -/
def empty : Progress := {}

/-! ### Reading and writing -/

/-- The value of a flag. -/
def flag (p : Progress) (name : String) : Bool := p.flags.getD name false

/-- The value of a counter. -/
def counter (p : Progress) (name : String) : Int64 := p.counters.getD name 0

/-- Writes a flag. -/
def setFlag (p : Progress) (name : String) (value : Bool) : Progress :=
  { p with flags := p.flags.insert name value }

/-- Writes a counter. -/
def setCounter (p : Progress) (name : String) (value : Int64) : Progress :=
  { p with counters := p.counters.insert name value }

/-- A scene that has been played to its end. -/
def isCompleted (p : Progress) (scene : String) : Bool := p.completed.contains scene

/-- Notes when a scene was seen. -/
def touch (p : Progress) (scene : String) (at_ : Int64) : Progress :=
  { p with lastSeen := p.lastSeen.insert scene at_ }

/-- Notes that a scene was played to its end. -/
def complete (p : Progress) (scene : String) (at_ : Int64) : Progress :=
  let p := p.touch scene at_
  { p with completed := p.completed.insert scene }

/-- A sum that stops at the least and the greatest number of 64 bits. -/
def saturatingAdd (a b : Int64) : Int64 :=
  Int64.ofInt (max Int64.minValue.toInt (min Int64.maxValue.toInt (a.toInt + b.toInt)))

/-- A flag has the value that it was last given. -/
theorem flag_setFlag (p : Progress) (name other : String) (value : Bool) :
    (p.setFlag name value).flag other = if name = other then value else p.flag other := by
  simp only [flag, setFlag, Std.ExtTreeMap.getD_insert]
  simp

/-! ### Records -/

/-- Progress as a record, with all of its fields. -/
def toJson (p : Progress) : Json :=
  .object [
    ("flags", .ofMap .bool p.flags),
    ("progress", .ofMap .ofInt64 p.counters),
    ("completedScenes", .ofNames p.completed.toList),
    ("lastSeenAt", .ofMap .ofInt64 p.lastSeen)]

/-- Progress out of a record. -/
def ofJson? (j : Json) : Option Progress := do
  let fields ← j.fields? ["flags", "progress", "completedScenes", "lastSeenAt"]
  let flags ← Document.defaulted fields "flags" ∅ (Document.map? Document.bool?)
  let counters ← Document.defaulted fields "progress" ∅ (Document.map? Document.int64?)
  let completed ← Document.defaulted fields "completedScenes" ∅ Document.set?
  let lastSeen ← Document.defaulted fields "lastSeenAt" ∅ (Document.map? Document.int64?)
  return { flags, counters, completed, lastSeen }

end Progress

end Cutscene
