import Cutscene.Proofs.Json.Legal
import Cutscene.Proofs.Progress

/-!
# Values That Are Passed On

Parameters and payloads are passed on as they are, in canonical form: the members of an object are
sorted by name, the last one of a name stands, and a number that is not finite is null. A value in
canonical form stays as it is, so passing it on a second time changes nothing. It can be written
(`Json.Legible`) even where what was read cannot, since a number in a text may be too large for a
floating-point number.

## Main results

* `Json.Legal.canonical`: a value that could be read has a canonical form that can be written.
* `Json.Legal.canonical_canonical`: a value in canonical form stays as it is.
-/

namespace Cutscene

open Std

/-- The entries of a map are among those that it was made from. -/
theorem NameMap.mem_of_mem_toList_ofEntries {α : Type} {entries : List (String × α)}
    {entry : String × α} (h : entry ∈ (NameMap.ofEntries entries).toList) : entry ∈ entries := by
  obtain ⟨name, value⟩ := entry
  rw [ExtTreeMap.mem_toList_iff_getElem?_eq_some, NameMap.getElem?_ofEntries,
    List.lookup_eq_some_iff] at h
  obtain ⟨before, after, hentries, -⟩ := h
  rw [← List.mem_reverse, hentries]
  exact List.mem_append_right _ List.mem_cons_self

namespace Json

/-! ### Values that can be written -/

/-- A value that can be written: it is legal, every part of it can be read, and its numbers are
finite. -/
structure Legible (room : Nat) (j : Json) : Prop where
  legal : j.Legal room
  sound : j.Sound
  finite : ∀ x, (Json.float x).Within j → x.isFinite = true

namespace Legible

variable {room : Nat}

/-- A value without parts. -/
theorem of_scalar {j : Json} (hlegal : j.Legal room) (hsound : j.Sound)
    (hpart : ∀ part, ¬PartOf part j) (hfinite : ∀ x, j = .float x → x.isFinite = true) :
    Legible room j where
  legal := hlegal
  sound := hsound
  finite x hx := hfinite x ((within_iff_eq hpart).mp hx).symm

/-- Null can be written. -/
@[simp]
theorem null : Legible room .null := .of_scalar .null rfl nofun nofun

/-- So can a truth value. -/
@[simp]
theorem bool (value : Bool) : Legible room (.bool value) := .of_scalar (.bool value) rfl nofun nofun

/-- So can a whole number that fits into 64 bits. -/
theorem int {n : Int} (hn : Numeral.Fits n) : Legible room (.int n) :=
  .of_scalar (.int hn) rfl nofun nofun

/-- So can a floating-point number that is finite. -/
theorem float {x : Binary64} (hx : x.isFinite = true) : Legible room (.float x) :=
  .of_scalar (.float x) rfl nofun fun _ h => Json.float.inj h ▸ hx

/-- So can a string. -/
@[simp]
theorem string (s : String) : Legible room (.string s) := .of_scalar (.string s) rfl nofun nofun

/-- An array can be written in one more container than its items. -/
theorem array {items : List Json} (hitems : ∀ item ∈ items, Legible room item) :
    Legible (room + 1) (.array items) where
  legal := .array fun item hitem => (hitems item hitem).legal
  sound := sound_array.mpr fun item hitem => (hitems item hitem).sound
  finite x hx := by
    obtain h | ⟨item, hitem, hx⟩ := within_array.mp hx
    · cases h
    · exact (hitems item hitem).finite x hx

/-- So can an object. -/
theorem object {members : List (String × Json)}
    (hmembers : ∀ member ∈ members, Legible room member.2) :
    Legible (room + 1) (.object members) where
  legal := .object fun member hmember => (hmembers member hmember).legal
  sound := sound_object.mpr fun member hmember => (hmembers member hmember).sound
  finite x hx := by
    obtain h | ⟨member, hmember, hx⟩ := within_object.mp hx
    · cases h
    · exact (hmembers member hmember).finite x hx

end Legible

/-- A plain value can be written. -/
theorem Plain.legible {room : Nat} {j : Json} (hj : j.Plain room) : j.Legible room := by
  induction hj with
  | null => exact .null
  | bool value => exact .bool value
  | int hn => exact .int hn
  | float hfinite _ => exact .float hfinite
  | string s => exact .string s
  | array _ ih => exact .array ih
  | object _ ih => exact .object ih

/-! ### Canonical values -/

/-- The items of an array are put into canonical form one by one. -/
theorem canonical_array (items : List Json) :
    (Json.array items).canonical = .array (items.map canonical) := by
  have hitems : canonicalItems items = items.map canonical := by
    induction items with
    | nil => rfl
    | cons item items ih => rw [canonicalItems, ih, List.map_cons]
  rw [canonical, hitems]

/-- Those of an object are too, and then the members are sorted by name. -/
theorem canonical_object (members : List (String × Json)) :
    (Json.object members).canonical = .object
      (NameMap.ofEntries (members.map fun member => (member.1, member.2.canonical))).toList := by
  have hmembers : canonicalMembers members =
      members.map fun member => (member.1, member.2.canonical) := by
    induction members with
    | nil => rfl
    | cons member members ih => rw [canonicalMembers, ih, List.map_cons]
  rw [canonical, hmembers]

/-- The members of an object in canonical form come from its members. -/
theorem exists_of_mem_canonical {members : List (String × Json)} {member : String × Json}
    (h : member ∈ (NameMap.ofEntries
      (members.map fun member => (member.1, member.2.canonical))).toList) :
    ∃ value, (member.1, value) ∈ members ∧ value.canonical = member.2 := by
  obtain ⟨⟨name, value⟩, hmember, rfl⟩ :=
    List.mem_map.mp (NameMap.mem_of_mem_toList_ofEntries h)
  exact ⟨value, hmember, rfl⟩

/-- **A value in canonical form can be written** if the value could be read. -/
theorem Legal.canonical {room : Nat} {j : Json} (hj : j.Legal room) (hsound : j.Sound) :
    j.canonical.Legible room := by
  induction hj with
  | null => exact .null
  | bool value => exact .bool value
  | int hn => exact .int hn
  | float x =>
      rw [Json.canonical]
      split
      · next hx => exact .float hx
      · exact .null
  | string s => exact .string s
  | array _ ih =>
      rw [canonical_array]
      refine .array fun item hitem => ?_
      obtain ⟨item, hmem, rfl⟩ := List.mem_map.mp hitem
      exact ih item hmem (sound_array.mp hsound item hmem)
  | object _ ih =>
      rw [canonical_object]
      refine .object fun member hmember => ?_
      obtain ⟨value, hmem, hvalue⟩ := exists_of_mem_canonical hmember
      rw [← hvalue]
      exact ih _ hmem (sound_object.mp hsound _ hmem)
  | unreadable => cases hsound

/-- **A value in canonical form stays as it is.** -/
theorem Legal.canonical_canonical {room : Nat} {j : Json} (hj : j.Legal room) :
    j.canonical.canonical = j.canonical := by
  induction hj with
  | null | bool | int | string | unreadable => rfl
  | float x =>
      rw [Json.canonical]
      split
      · next hx => rw [Json.canonical, if_pos hx]
      · rfl
  | array _ ih =>
      rw [canonical_array, canonical_array, List.map_map]
      exact congrArg Json.array (List.map_congr_left ih)
  | @object _ members _ ih =>
      rw [canonical_object, canonical_object]
      have hsame : ∀ member ∈ (NameMap.ofEntries
          (members.map fun member => (member.1, member.2.canonical))).toList,
          (member.1, member.2.canonical) = member := by
        rintro ⟨name, value⟩ hmember
        obtain ⟨value, hmem, rfl⟩ := exists_of_mem_canonical hmember
        rw [ih _ hmem]
      rw [List.map_congr_left hsame, List.map_id', NameMap.ofEntries_toList]

/-- A value that is passed on: it is in canonical form and can be written. -/
structure Kept (room : Nat) (j : Json) : Prop where
  canonical_eq : j.canonical = j
  legible : j.Legible room

/-- **What could be read is passed on in canonical form.** -/
theorem Legal.kept_canonical {room : Nat} {j : Json} (hj : j.Legal room) (hsound : j.Sound) :
    j.canonical.Kept room :=
  ⟨hj.canonical_canonical, hj.canonical hsound⟩

end Json

end Cutscene
