import Cutscene.Proofs.Progress
import Mathlib.Data.List.Nodup

/-!
# What Is Read From Members

What is written of a value is read as the value, but so may be other things: an object with its
members in another order, or an array that repeats a name. This module tells for each kind of field
what all of the things are that it is read from. A map is read from the objects that list it
(`Json.Lists`), a set of names from the arrays of its names (`Json.Names`), and a field of a record
from the value that stands under its name, as long as it is the only one there.

## Main results

* `Document.map?_eq_some_iff`, `Document.set?_eq_some_iff`: what maps and sets are read from.
* `Document.defaulted_eq_some_iff`: what a field is read from that has a default.
-/

namespace Cutscene

open Std

/-! ### Maps and sets -/

section Lists

variable {α β : Type} {write : α → β} {read : β → Option α}

/-- What is read of one thing only is read of a list of such things only. -/
theorem mapM_eq_some_iff (hread : ∀ b a, read b = some a ↔ b = write a) {bs : List β}
    {as : List α} : bs.mapM read = some as ↔ bs = as.map write := by
  constructor
  · intro h
    induction bs generalizing as with
    | nil =>
        cases h
        rfl
    | cons b bs ih =>
        rw [List.mapM_cons] at h
        obtain ⟨a, ha, h⟩ := Option.bind_eq_some_iff.mp h
        obtain ⟨as, has, h⟩ := Option.bind_eq_some_iff.mp h
        cases h
        rw [List.map_cons, ← (hread b a).mp ha, ← ih has]
  · rintro rfl
    exact mapM_map_eq_some fun a _ => (hread _ a).mpr rfl

end Lists

namespace Json

/-- The object has the entries of a map as its members, in any order. Of two members with one name,
the later one counts. -/
def Lists {α : Type} (write : α → Json) (map : NameMap α) (j : Json) : Prop :=
  ∃ entries : List (String × α), j = .object (entries.map (Prod.map id write)) ∧
    ∀ name, map[name]? = entries.reverse.lookup name

/-- The array has the names of a set as its items, in any order and any number of times. -/
def Names (set : NameSet) (j : Json) : Prop :=
  ∃ names : List String, j = .ofNames names ∧ ∀ name, name ∈ set ↔ name ∈ names

end Json

namespace Document

/-- A truth value is read from nothing but itself. -/
theorem bool?_eq_some_iff {j : Json} {b : Bool} : bool? j = some b ↔ j = .bool b := by
  cases j <;> simp [bool?, Json.bool?]

/-- A text is read from nothing but its string. -/
theorem text?_eq_some_iff {j : Json} {s : String} : text? j = some s ↔ j = .string s := by
  cases j <;> simp [text?, Json.text?]

/-- An integer is read from nothing but the number that is written for it. -/
theorem int64?_eq_some_iff {j : Json} {n : Int64} : int64? j = some n ↔ j = .ofInt64 n := by
  constructor
  · intro h
    cases j with
    | int i =>
        change (if Int64.minValue.toInt ≤ i ∧ i ≤ Int64.maxValue.toInt then some (Int64.ofInt i)
          else none) = some n at h
        obtain ⟨⟨hmin, hmax⟩, hn⟩ := Option.ite_none_right_eq_some.mp h
        cases hn
        have hlimits : Int64.minValue.toInt = -2 ^ 63 ∧ Int64.maxValue.toInt = 2 ^ 63 - 1 := by
          decide
        rw [Json.ofInt64, Int64.toInt_ofInt_of_le (by omega) (by omega)]
    | _ => cases h
  · rintro rfl
    exact int64?_ofInt64 n

/-- **Objects are read as the maps that they list**, and nothing else is. -/
theorem map?_eq_some_iff {α : Type} {write : α → Json} {read : Json → Option α}
    (hread : ∀ j a, read j = some a ↔ j = write a) {j : Json} {map : NameMap α} :
    map? read j = some map ↔ j.Lists write map := by
  have hentry (member : String × Json) (entry : String × α) :
      (read member.2).map (member.1, ·) = some entry ↔ member = Prod.map id write entry := by
    obtain ⟨name, value⟩ := member
    obtain ⟨name', a⟩ := entry
    simp [hread, and_comm]
  have hmap (entries : List (String × α)) :
      NameMap.ofEntries entries = map ↔ ∀ name, map[name]? = entries.reverse.lookup name := by
    simp only [← NameMap.getElem?_ofEntries]
    exact ⟨fun h name => by rw [h], fun h => ExtTreeMap.ext_getElem? fun name => (h name).symm⟩
  cases j with
  | object members =>
      change NameMap.ofEntries? read members = some map ↔ _
      simp only [NameMap.ofEntries?, Option.map_eq_some_iff, mapM_eq_some_iff hentry, hmap,
        Json.Lists, Json.object.injEq]
  | _ =>
      constructor
      · intro h
        cases h
      · rintro ⟨entries, h, -⟩
        cases h

/-- **Arrays are read as the sets of their names**, and nothing else is. -/
theorem set?_eq_some_iff {j : Json} {names : NameSet} : set? j = some names ↔ j.Names names := by
  have hset (list : List String) :
      ExtTreeSet.ofList list = names ↔ ∀ name, name ∈ names ↔ name ∈ list := by
    constructor
    · rintro rfl name
      rw [NameSet.mem_ofList]
    · intro h
      refine ExtTreeSet.ext_mem fun name => ?_
      rw [h, NameSet.mem_ofList]
  cases j with
  | array items =>
      change (items.mapM (text? : Json → Option String)).map _ = some names ↔ _
      simp only [Option.map_eq_some_iff, mapM_eq_some_iff fun _ _ => text?_eq_some_iff, hset,
        Json.Names, Json.ofNames, Json.array.injEq]
  | _ =>
      constructor
      · intro h
        cases h
      · rintro ⟨list, h, -⟩
        cases h

/-! ### Fields -/

section Members

variable {δ α : Type} {names : List String} {members fields : List (String × δ)} {name : String}

/-- The values of the members with a name. -/
def valuesOf (name : String) (members : List (String × δ)) : List δ :=
  (members.filter fun member => member.1 == name).map Prod.snd

/-- Members with foreign names do not get in the way of the first member with a known name. -/
theorem lookup_known (hname : name ∈ names) :
    (members.filter fun member => names.contains member.1).lookup name =
      (valuesOf name members).head? := by
  induction members with
  | nil => rfl
  | cons member members ih =>
      obtain ⟨other, value⟩ := member
      by_cases hother : other = name
      · subst hother
        rw [List.filter_cons_of_pos (by simpa), List.lookup_cons_self, valuesOf,
          List.filter_cons_of_pos (by simp)]
        rfl
      · have hvalues : valuesOf name ((other, value) :: members) = valuesOf name members := by
          rw [valuesOf, List.filter_cons_of_neg (by simpa), ← valuesOf]
        rw [hvalues, ← ih, List.filter_cons]
        split
        · rw [List.lookup_cons, beq_false_of_ne (Ne.symm hother)]
        · rfl

/-- Nor are they counted among the members with a known name. -/
theorem count_known (hname : name ∈ names) :
    ((members.filter fun member => names.contains member.1).map Prod.fst).count name =
      (valuesOf name members).length := by
  rw [valuesOf, List.length_map, List.count_eq_length_filter, List.filter_map, List.length_map,
    List.filter_filter]
  congr 2
  funext member
  by_cases hmember : member.1 = name
  · simp [hmember, hname]
  · simp [hmember]

/-- The known members are the fields of a record if no two of them have one name. -/
theorem ofMembers?_eq_some_iff : ofMembers? names members = some fields ↔
    (∀ name ∈ names, (valuesOf name members).length ≤ 1) ∧
      members.filter (fun member => names.contains member.1) = fields := by
  have hnodup : ((members.filter fun member => names.contains member.1).map Prod.fst).Nodup ↔
      ∀ name ∈ names, (valuesOf name members).length ≤ 1 := by
    rw [List.nodup_iff_count_le_one]
    constructor
    · intro h name hname
      rw [← count_known hname]
      exact h name
    · intro h name
      by_cases hname : name ∈ names
      · rw [count_known hname]
        exact h name hname
      · rw [List.count_eq_zero_of_not_mem]
        · exact Nat.zero_le 1
        · intro hmem
          obtain ⟨member, hmember, rfl⟩ := List.mem_map.mp hmem
          exact hname (List.contains_iff_mem.mp (List.mem_filter.mp hmember).2)
  rw [ofMembers?, Option.ite_none_right_eq_some, hnodup, Option.some.injEq]

/-- **A field with a default** is missing, or stands once and is read. -/
theorem defaulted_eq_some_iff (hfields : ofMembers? names members = some fields)
    (hname : name ∈ names) {default a : α} {read : δ → Option α} :
    defaulted fields name default read = some a ↔
      (valuesOf name members = [] ∧ a = default) ∨
        ∃ value, valuesOf name members = [value] ∧ read value = some a := by
  obtain ⟨honce, rfl⟩ := ofMembers?_eq_some_iff.mp hfields
  have hlength := honce name hname
  rw [defaulted, lookup_known hname]
  match hvalues : valuesOf name members with
  | [] => simp [eq_comm]
  | [value] => simp
  | _ :: _ :: _ =>
      rw [hvalues] at hlength
      simp at hlength

end Members

end Document

end Cutscene
