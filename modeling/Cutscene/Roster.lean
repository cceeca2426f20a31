import Cutscene.Scene

/-!
# Rosters

The scenes that may be played, in the order in which their ids were first registered. A scene
that is registered under an id already there takes the place of the earlier one.

An index tells at which place the scene of an id stands. A scene that is taken out leaves no gap:
all later scenes move up by one place, and so do their places in the index.
-/

namespace Cutscene

namespace Roster

/-- The index tells of each id at which place its scene stands, and of other ids nothing. -/
def Indexes (places : NameMap Nat) (scenes : List Scene) : Prop :=
  ∀ (id : String) (i : Nat), places[id]? = some i ↔ (scenes.map Scene.id)[i]? = some id

variable {places : NameMap Nat} {scenes : List Scene} {s : Scene} {id : String} {i : Nat}

/-- An empty index tells of no scenes. -/
theorem indexes_nil : Indexes ∅ [] := by
  simp [Indexes]

/-- A scene takes the place of the one with its id. -/
theorem Indexes.set (h : Indexes places scenes) (hs : places[s.id]? = some i) :
    Indexes places (scenes.set i s) := by
  have hids : (scenes.set i s).map Scene.id = scenes.map Scene.id := by
    have hi := (h s.id i).1 hs
    refine List.ext_getElem? fun j => ?_
    rw [List.map_set, List.getElem?_set]
    split
    · next heq =>
      subst heq
      rw [hi, if_pos (List.getElem?_eq_some_iff.1 hi).1]
    · rfl
  unfold Indexes
  rw [hids]
  exact h

/-- A scene whose id is not there comes last. -/
theorem Indexes.concat (h : Indexes places scenes) (hs : places[s.id]? = none) :
    Indexes (places.insert s.id scenes.length) (scenes ++ [s]) := by
  intro id i
  have hnone : ∀ j : Nat, (scenes.map Scene.id)[j]? ≠ some s.id := fun j hj => by
    rw [(h s.id j).2 hj] at hs
    cases hs
  have hbefore := h id i
  rw [Std.ExtTreeMap.getElem?_insert, List.map_append, List.getElem?_append, List.length_map]
  grind

/-- Behind a scene that is taken out, all move up by one place. -/
def moveUp (gap place : Nat) : Nat := if gap < place then place - 1 else place

/-- From which place a scene moves up to a given one. -/
theorem moveUp_eq_iff {gap place j : Nat} (h : place ≠ gap) :
    moveUp gap place = j ↔ place = if j < gap then j else j + 1 := by
  unfold moveUp
  split <;> split <;> omega

/-- A scene is taken out, and all behind it move up. -/
theorem Indexes.eraseIdx (h : Indexes places scenes) (hid : places[id]? = some i) :
    Indexes ((places.erase id).map fun _ => moveUp i) (scenes.eraseIdx i) := by
  intro other j
  have hids : ((scenes.eraseIdx i).map Scene.id)[j]? =
      (scenes.map Scene.id)[if j < i then j else j + 1]? := by
    rw [List.getElem?_map, List.getElem?_eraseIdx, List.getElem?_map]
    split <;> rfl
  rw [hids, ← h other, Std.ExtTreeMap.getElem?_map, Std.ExtTreeMap.getElem?_erase]
  by_cases heq : id = other
  · subst heq
    rw [if_pos (by simp), hid, Option.map_none, Option.some.injEq]
    constructor
    · rintro ⟨⟩
    · intro hplace
      split at hplace <;> omega
  · rw [if_neg (by simpa using heq)]
    cases hplace : places[other]? with
    | none => simp
    | some place =>
      have hne : place ≠ i := by
        rintro rfl
        have hsame := ((h id place).1 hid).symm.trans ((h other place).1 hplace)
        exact heq (Option.some.inj hsame)
      rw [Option.map_some, Option.some.injEq, Option.some.injEq, moveUp_eq_iff hne]

end Roster

/-- The scenes that may be played, each under its own id. -/
structure Roster where
  scenes : List Scene := []
  /-- At which place the scene of an id stands. -/
  places : NameMap Nat := ∅
  indexed : Roster.Indexes places scenes := by exact Roster.indexes_nil

namespace Roster

/-- No scenes. -/
def empty : Roster := {}

/-- The ids of the scenes, in order. -/
def ids (r : Roster) : List String := r.scenes.map Scene.id

/-- The scene with an id. -/
def get? (r : Roster) (id : String) : Option Scene := r.places[id]?.bind fun i => r.scenes[i]?

/-- There is a scene with the id. -/
def contains (r : Roster) (id : String) : Bool := r.places.contains id

/-- Registers a scene: in the place of the one with its id, or at the end. -/
def upsert (r : Roster) (s : Scene) : Roster :=
  match h : r.places[s.id]? with
  | some i => { r with scenes := r.scenes.set i s, indexed := r.indexed.set h }
  | none =>
    { scenes := r.scenes ++ [s]
      places := r.places.insert s.id r.scenes.length
      indexed := r.indexed.concat h }

/-- Takes the scene with an id out. -/
def remove (r : Roster) (id : String) : Roster :=
  match h : r.places[id]? with
  | some i =>
    { scenes := r.scenes.eraseIdx i
      places := (r.places.erase id).map fun _ => moveUp i
      indexed := r.indexed.eraseIdx h }
  | none => r

end Roster

end Cutscene
