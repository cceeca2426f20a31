import Cutscene.Run.Snapshot

/-!
# Snapshots That Look the Same

Looking the same is not quite equality: the numbers of a rectangle are compared as numbers, so
that the two zeros look the same, and what is no number does not even look like itself. Among
snapshots whose rectangles are numeric it is reflexive, and it is transitive throughout.

## Main results

* `Snapshot.looksLike_self`: a legible snapshot looks like itself.
* `Snapshot.looksLike_trans`: looking the same is transitive.
* `Rect.Measurable.isNumeric`: a measurable rectangle is numeric.
-/

namespace Cutscene

/-! ### Numbers and rectangles -/

namespace Binary64

/-- A number is the same number as itself. -/
theorem sameNumber_self {x : Binary64} (h : x.isNaN = false) : x.sameNumber x = true := by
  simp [sameNumber, h]

/-- Being the same number is transitive. -/
theorem sameNumber_trans {x y z : Binary64} (hxy : x.sameNumber y = true)
    (hyz : y.sameNumber z = true) : x.sameNumber z = true := by
  simp only [sameNumber, Bool.and_eq_true, Bool.or_eq_true, decide_eq_true_eq] at hxy hyz ⊢
  obtain ⟨⟨hx, -⟩, hxy⟩ := hxy
  obtain ⟨⟨-, hz⟩, hyz⟩ := hyz
  refine ⟨⟨hx, hz⟩, ?_⟩
  rcases hxy with rfl | ⟨hx₀, hy₀⟩
  · exact hyz
  · rcases hyz with rfl | ⟨-, hz₀⟩
    · exact .inr ⟨hx₀, hy₀⟩
    · exact .inr ⟨hx₀, hz₀⟩

/-- A finite number is a number. -/
theorem isNaN_eq_false_of_isFinite {x : Binary64} (h : x.isFinite = true) : x.isNaN = false := by
  simp only [isFinite, isNaN, decide_eq_true_eq, decide_eq_false_iff_not] at h ⊢
  omega

end Binary64

namespace Rect

/-- All four are numbers, if perhaps infinite ones. -/
def IsNumeric (r : Rect) : Prop :=
  r.x.isNaN = false ∧ r.y.isNaN = false ∧ r.width.isNaN = false ∧ r.height.isNaN = false

instance (r : Rect) : Decidable r.IsNumeric := by
  unfold IsNumeric; infer_instance

/-- A measurable rectangle is numeric, since its numbers are finite. -/
theorem Measurable.isNumeric {r : Rect} (h : r.Measurable) : r.IsNumeric := by
  obtain ⟨hx, hy, hwidth, hheight, -, -⟩ := h
  exact ⟨Binary64.isNaN_eq_false_of_isFinite hx, Binary64.isNaN_eq_false_of_isFinite hy,
    Binary64.isNaN_eq_false_of_isFinite hwidth, Binary64.isNaN_eq_false_of_isFinite hheight⟩

/-- A numeric rectangle has the same numbers as itself. -/
theorem sameNumbers_self {r : Rect} (h : r.IsNumeric) : r.sameNumbers r = true := by
  obtain ⟨hx, hy, hwidth, hheight⟩ := h
  simp only [sameNumbers, Binary64.sameNumber_self hx, Binary64.sameNumber_self hy,
    Binary64.sameNumber_self hwidth, Binary64.sameNumber_self hheight, Bool.and_self]

/-- Having the same numbers is transitive. -/
theorem sameNumbers_trans {r s t : Rect} (hrs : r.sameNumbers s = true)
    (hst : s.sameNumbers t = true) : r.sameNumbers t = true := by
  simp only [sameNumbers, Bool.and_eq_true] at hrs hst ⊢
  obtain ⟨⟨⟨hx, hy⟩, hwidth⟩, hheight⟩ := hrs
  obtain ⟨⟨⟨hx', hy'⟩, hwidth'⟩, hheight'⟩ := hst
  exact ⟨⟨⟨Binary64.sameNumber_trans hx hx', Binary64.sameNumber_trans hy hy'⟩,
    Binary64.sameNumber_trans hwidth hwidth'⟩, Binary64.sameNumber_trans hheight hheight'⟩

end Rect

/-! ### Highlights -/

namespace Highlight

/-- The place, where there is one, is numeric. -/
def Legible (h : Highlight) : Prop := ∀ rect, h.rect = some rect → rect.IsNumeric

/-- A highlight at a numeric place looks like itself. -/
theorem looksLike_self {h : Highlight} (hlegible : h.Legible) : h.looksLike h = true := by
  simp only [looksLike, and_self, decide_true, Bool.true_and]
  cases hrect : h.rect with
  | none => rfl
  | some rect => exact Rect.sameNumbers_self (hlegible rect hrect)

/-- Looking the same is transitive among highlights. -/
theorem looksLike_trans {h k l : Highlight} (hhk : h.looksLike k = true)
    (hkl : k.looksLike l = true) : h.looksLike l = true := by
  simp only [looksLike, Bool.and_eq_true, decide_eq_true_eq] at hhk hkl ⊢
  refine ⟨⟨hhk.1.1.trans hkl.1.1, hhk.1.2.trans hkl.1.2⟩, ?_⟩
  cases hh : h.rect <;> cases hk : k.rect <;> cases hl : l.rect <;>
    simp only [hh, hk, hl, Bool.false_eq_true, and_false] at hhk hkl ⊢
  exact Rect.sameNumbers_trans hhk.2 hkl.2

end Highlight

/-! ### Snapshots -/

namespace Snapshot

/-- The place of the highlight, where there is one, is numeric. -/
def Legible (s : Snapshot) : Prop := ∀ h, s.highlight = some h → h.Legible

/-- A snapshot without a highlight is legible. -/
theorem legible_of_highlight_eq_none {s : Snapshot} (h : s.highlight = none) : s.Legible :=
  fun k hk => by rw [h] at hk; cases hk

/-- A legible snapshot looks like itself. -/
theorem looksLike_self {s : Snapshot} (hlegible : s.Legible) : s.looksLike s = true := by
  simp only [looksLike, decide_true, Bool.true_and]
  cases hs : s.highlight with
  | none => rfl
  | some h => exact Highlight.looksLike_self (hlegible h hs)

/-- **Looking the same is transitive**, field by field. -/
theorem looksLike_trans {a b c : Snapshot} (hab : a.looksLike b = true)
    (hbc : b.looksLike c = true) : a.looksLike c = true := by
  simp only [looksLike, Bool.and_eq_true, decide_eq_true_eq] at hab hbc ⊢
  refine ⟨hab.1.trans hbc.1, ?_⟩
  cases ha : a.highlight <;> cases hb : b.highlight <;> cases hc : c.highlight <;>
    simp only [ha, hb, hc, Bool.false_eq_true, and_false] at hab hbc ⊢
  exact Highlight.looksLike_trans hab.2 hbc.2

/-- Snapshots that look the same agree in everything but the place of the highlight. -/
theorem eq_of_looksLike {a b : Snapshot} (h : a.looksLike b = true) :
    { a with highlight := none } = { b with highlight := none } := by
  simp only [looksLike, Bool.and_eq_true, decide_eq_true_eq] at h
  exact h.1

/-- Snapshots that look the same are in the same state. -/
theorem state_eq_of_looksLike {a b : Snapshot} (h : a.looksLike b = true) : a.state = b.state := by
  have heq := congrArg Snapshot.state (eq_of_looksLike h)
  exact heq

/-- They are of the same run. -/
theorem run_eq_of_looksLike {a b : Snapshot} (h : a.looksLike b = true) : a.run = b.run := by
  have heq := congrArg Snapshot.run (eq_of_looksLike h)
  exact heq

/-- They bear the same ticket. -/
theorem ticket_eq_of_looksLike {a b : Snapshot} (h : a.looksLike b = true) :
    a.ticket = b.ticket := by
  have heq := congrArg Snapshot.ticket (eq_of_looksLike h)
  exact heq

/-- They show the same sound. -/
theorem sound_eq_of_looksLike {a b : Snapshot} (h : a.looksLike b = true) : a.sound = b.sound := by
  have heq := congrArg Snapshot.sound (eq_of_looksLike h)
  exact heq

end Snapshot

end Cutscene
