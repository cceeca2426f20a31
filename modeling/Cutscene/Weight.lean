/-!
# Weights

What the members of a list count for together. A loop over lists that change ends because the
weight of what is left to be done goes down.
-/

namespace Cutscene

variable {α β : Type}

/-- What the members of a list count for together. -/
def weigh (weight : α → Nat) : List α → Nat
  | [] => 0
  | x :: rest => weight x + weigh weight rest

/-- The order of a list does not matter. -/
theorem weigh_perm {weight : α → Nat} {xs ys : List α} (h : xs.Perm ys) :
    weigh weight xs = weigh weight ys := by
  induction h with
  | nil => rfl
  | cons x _ ih => simp only [weigh, ih]
  | swap x y _ =>
    simp only [weigh]
    omega
  | trans _ _ ih ih' => exact ih.trans ih'

/-- The members that a function gives count for what they are. -/
theorem weigh_map (weight : β → Nat) (f : α → β) (xs : List α) :
    weigh weight (xs.map f) = weigh (fun x => weight (f x)) xs := by
  induction xs with
  | nil => rfl
  | cons x rest ih => simp only [List.map_cons, weigh, ih]

/-- Where each member counts for the same, their number counts. -/
theorem weigh_const (n : Nat) (xs : List α) : weigh (fun _ => n) xs = n * xs.length := by
  induction xs with
  | nil => rfl
  | cons x rest ih =>
    simp only [weigh, ih, List.length_cons, Nat.mul_add]
    omega

/-- Another member in the place of one. -/
theorem weigh_set (weight : α → Nat) {xs : List α} {i : Nat} {x : α} (y : α)
    (h : xs[i]? = some x) :
    weigh weight (xs.set i y) + weight x = weigh weight xs + weight y := by
  induction xs generalizing i with
  | nil => simp at h
  | cons first rest ih =>
    cases i with
    | zero =>
      obtain rfl : first = x := by simpa using h
      simp only [List.set_cons_zero, weigh]
      omega
    | succ i =>
      have := ih (by simpa using h)
      simp only [List.set_cons_succ, weigh]
      omega

/-- A change that makes no member count for more. -/
theorem weigh_modify_le (weight : α → Nat) {f : α → α} (h : ∀ x, weight (f x) ≤ weight x)
    (xs : List α) (i : Nat) : weigh weight (xs.modify i f) ≤ weigh weight xs := by
  induction xs generalizing i with
  | nil => exact Nat.le_of_eq (by simp)
  | cons first rest ih =>
    cases i with
    | zero =>
      have := h first
      simp only [List.modify_zero_cons, weigh]
      omega
    | succ i =>
      have := ih i
      simp only [List.modify_succ_cons, weigh]
      omega

end Cutscene
