import Cutscene.Names
import Cutscene.Rect

/-!
# Anchors

An anchor is a name for something on the screen whose place can be measured. Between one
measurement and the next the place may change, appear or vanish, and a measurement may fail.
Only a measurable place counts.
-/

namespace Cutscene

/-- What a measurement has found. -/
inductive Measurement where
  /-- Nothing is there. -/
  | nowhere
  /-- Something is there. -/
  | somewhere (rect : Rect)
  /-- The measurement itself went wrong. -/
  | failed
deriving DecidableEq

namespace Measurement

/-- The measured place, if it counts. -/
def usable? : Measurement → Option Rect
  | somewhere rect => if rect.Measurable then some rect else none
  | nowhere | failed => none

/-- A place that counts is measurable. -/
theorem measurable_of_usable? {measured : Measurement} {rect : Rect}
    (h : measured.usable? = some rect) : rect.Measurable := by
  cases measured with
  | somewhere r =>
    simp only [usable?] at h
    split at h
    · next hr => cases h; exact hr
    · cases h
  | nowhere | failed => cases h

end Measurement

/-- An anchor whose measurements go according to a plan: up to some measurement nothing is
there, then something is, or the measurement fails. -/
structure Anchor where
  rect : Option Rect
  /-- The number of the first measurement that finds something. -/
  readyOn : Nat := 1
  fails : Bool := false
  /-- How many milliseconds a measurement takes. -/
  delay : Nat := 0
  /-- How many measurements have been made. -/
  calls : Nat := 0
deriving DecidableEq

namespace Anchor

/-- Measures. -/
def measure (a : Anchor) : Measurement × Anchor :=
  let a := { a with calls := a.calls + 1 }
  let measured :=
    if a.fails then .failed
    else match a.rect with
      | some rect => if a.readyOn ≤ a.calls then .somewhere rect else .nowhere
      | none => .nowhere
  (measured, a)

end Anchor

/-- Anchors under their names. -/
abbrev Anchors := NameMap Anchor

namespace Anchors

/-- Measures the anchor of a name. Where there is none, nothing is. -/
def measure (anchors : Anchors) (name : String) : Measurement × Anchors :=
  match anchors.get? name with
  | some anchor =>
    let (measured, anchor) := anchor.measure
    (measured, anchors.insert name anchor)
  | none => (.nowhere, anchors)

end Anchors

end Cutscene
