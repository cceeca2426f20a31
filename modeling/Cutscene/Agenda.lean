import Cutscene.Weight

/-!
# Agendas

What is to be done and when, in order of time. Of several things that are to be done at one
time, the one that was put down first comes first, unless a later one is given precedence.
-/

namespace Cutscene

/-- Things to be done, each with its time, in order. -/
abbrev Agenda (α : Type) := List (Nat × α)

namespace Agenda

variable {α : Type}

/-- Puts something down, behind what is to be done at the same time. -/
def insert (time : Nat) (item : α) : Agenda α → Agenda α
  | [] => [(time, item)]
  | (t, first) :: rest =>
    if t ≤ time then (t, first) :: insert time item rest
    else (time, item) :: (t, first) :: rest

/-- Puts something down, before what is to be done at the same time. -/
def precede (time : Nat) (item : α) : Agenda α → Agenda α
  | [] => [(time, item)]
  | (t, first) :: rest =>
    if t < time then (t, first) :: precede time item rest
    else (time, item) :: (t, first) :: rest

/-- Puts several things down for one time. -/
def insertAll (time : Nat) (items : List α) (agenda : Agenda α) : Agenda α :=
  items.foldl (fun agenda item => insert time item agenda) agenda

/-- The first time at which something is to be done. -/
def due? (agenda : Agenda α) : Option Nat := agenda.head?.map Prod.fst

/-- In order of time. -/
def Ordered (agenda : Agenda α) : Prop := agenda.Pairwise (·.1 ≤ ·.1)

/-- Putting something down loses nothing and adds nothing else. -/
theorem perm_insert (time : Nat) (item : α) (agenda : Agenda α) :
    (insert time item agenda).Perm ((time, item) :: agenda) := by
  induction agenda with
  | nil => exact .refl _
  | cons first rest ih =>
    simp only [insert]
    split
    · exact (List.Perm.cons _ ih).trans (.swap ..)
    · exact .refl _

/-- Nor does giving it precedence. -/
theorem perm_precede (time : Nat) (item : α) (agenda : Agenda α) :
    (precede time item agenda).Perm ((time, item) :: agenda) := by
  induction agenda with
  | nil => exact .refl _
  | cons first rest ih =>
    simp only [precede]
    split
    · exact (List.Perm.cons _ ih).trans (.swap ..)
    · exact .refl _

/-- An agenda stays in order of time when something is put down. -/
theorem ordered_insert {time : Nat} {item : α} {agenda : Agenda α} (h : Ordered agenda) :
    Ordered (insert time item agenda) := by
  induction agenda with
  | nil => exact List.pairwise_singleton ..
  | cons first rest ih =>
    obtain ⟨hfirst, hrest⟩ := List.pairwise_cons.1 h
    simp only [insert]
    split
    · next hle =>
      refine List.pairwise_cons.2 ⟨fun x hx => ?_, ih hrest⟩
      rcases List.mem_cons.1 ((perm_insert ..).mem_iff.1 hx) with rfl | hx
      · exact hle
      · exact hfirst x hx
    · next hlt =>
      refine List.pairwise_cons.2 ⟨fun x hx => ?_, h⟩
      rcases List.mem_cons.1 hx with rfl | hx
      · exact Nat.le_of_lt (Nat.lt_of_not_le hlt)
      · exact Nat.le_trans (Nat.le_of_lt (Nat.lt_of_not_le hlt)) (hfirst x hx)

/-- What the items of an agenda count for together. -/
def total (weight : α → Nat) (agenda : Agenda α) : Nat :=
  weigh (fun entry => weight entry.2) agenda

/-- What is to be done first counts for what it is. -/
theorem total_cons (weight : α → Nat) (time : Nat) (item : α) (agenda : Agenda α) :
    total weight ((time, item) :: agenda) = weight item + total weight agenda := rfl

/-- What is put down adds its own weight. -/
theorem total_insert (weight : α → Nat) (time : Nat) (item : α) (agenda : Agenda α) :
    total weight (insert time item agenda) = weight item + total weight agenda :=
  weigh_perm (perm_insert ..)

/-- So does what is given precedence. -/
theorem total_precede (weight : α → Nat) (time : Nat) (item : α) (agenda : Agenda α) :
    total weight (precede time item agenda) = weight item + total weight agenda :=
  weigh_perm (perm_precede ..)

/-- Several things that are put down add their weights. -/
theorem total_insertAll (weight : α → Nat) (time : Nat) (items : List α) (agenda : Agenda α) :
    total weight (insertAll time items agenda) = weigh weight items + total weight agenda := by
  induction items generalizing agenda with
  | nil => simp [insertAll, weigh]
  | cons item rest ih =>
    have := ih (insert time item agenda)
    simp only [insertAll, List.foldl_cons, weigh] at this ⊢
    rw [this, total_insert]
    omega

end Agenda

end Cutscene
