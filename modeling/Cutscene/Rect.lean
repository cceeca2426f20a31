import Cutscene.Json.Tagged

/-!
# Rectangles

Where something is on the screen. A rectangle is *measurable* if it is finite and has an
extent; what has not been laid out yet is not.
-/

namespace Cutscene

/-- A place on the screen. -/
structure Rect where
  x : Binary64
  y : Binary64
  width : Binary64
  height : Binary64
deriving DecidableEq, Inhabited

namespace Rect

/-- Finite and with an extent. -/
def Measurable (r : Rect) : Prop :=
  r.x.isFinite ∧ r.y.isFinite ∧ r.width.isFinite ∧ r.height.isFinite ∧
    r.width.isPositive ∧ r.height.isPositive

instance (r : Rect) : Decidable r.Measurable := by
  unfold Measurable; infer_instance

/-- The same numbers throughout. -/
def sameNumbers (r s : Rect) : Bool :=
  r.x.sameNumber s.x && r.y.sameNumber s.y && r.width.sameNumber s.width &&
    r.height.sameNumber s.height

/-- A rectangle as a record. -/
def toJson (r : Rect) : Json :=
  .object [("x", .float r.x), ("y", .float r.y), ("width", .float r.width),
    ("height", .float r.height)]

/-- A rectangle out of a record. -/
def ofJson? (j : Json) : Option Rect := do
  let fields ← j.fields? ["x", "y", "width", "height"]
  let x ← Document.required fields "x" Json.number?
  let y ← Document.required fields "y" Json.number?
  let width ← Document.required fields "width" Json.number?
  let height ← Document.required fields "height" Json.number?
  return { x, y, width, height }

end Rect

end Cutscene
