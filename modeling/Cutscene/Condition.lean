import Cutscene.Progress

/-!
# Conditions

A scene may ask for progress: flags with certain values, and counters that have reached certain
values.
-/

namespace Cutscene

/-- What a scene asks of progress. -/
structure Condition where
  flags : NameMap Bool := ∅
  counters : NameMap Int64 := ∅
deriving DecidableEq

namespace Condition

/-- Every flag has its value and every counter has reached its threshold. -/
def holds (c : Condition) (p : Progress) : Bool :=
  c.flags.all (fun name value => p.flag name == value) &&
    c.counters.all fun name threshold => decide (threshold ≤ p.counter name)

/-- A condition as a record. -/
def toJson (c : Condition) : Json :=
  .object [("flags", .ofMap .bool c.flags),
    ("progress", .ofMap .ofInt64 c.counters)]

/-- The parts of a condition. -/
def shape : Shape := .record [("flags", .whole), ("progress", .whole)]

/-- A condition out of a record. -/
def read? {δ : Type} [Document δ] (document : δ) : Option Condition := do
  let fields ← Document.fields? shape.names document
  let flags ← Document.defaulted fields "flags" ∅ (Document.map? Document.bool?)
  let counters ← Document.defaulted fields "progress" ∅ (Document.map? Document.int64?)
  return { flags, counters }

end Condition

end Cutscene
