import Cutscene.Proofs.Json.Canonical
import Cutscene.Json.Tagged
import Mathlib.Data.List.Forall2

/-!
# Records and Tagged Values

What is read from a record was read from parts of it, each of which has less room. What is written
as a record has members in the order of its fields, some of which may have been left out. They are
found again under their names: a field that has to be there, one that may be missing, and one that
is left out when its default stands. A tagged value is a record of its form and of its members, as
long as none of them is named as the tag is.

## Main results

* `Json.partOf_of_fields?`, `Json.of_tagged?`: fields and bodies come from what is read.
* `Json.fields?_ofMembers`: the fields of a written record are the members that are there.
* `Document.required_of_lookup`, `Document.optional_of_lookup`, `Document.defaulted_of_lookup`: a
  field is read as what was written of it.
* `Json.tagged?_tagged`: the form and the body of a tagged value are found again.
-/

namespace Cutscene

/-! ### What is read from a record -/

namespace Json

/-- A field of a record is part of it. -/
theorem partOf_of_fields? {names : List String} {j : Json} {fields : List (String × Json)}
    (h : j.fields? names = some fields) {member : String × Json} (hmember : member ∈ fields) :
    member.2.PartOf j := by
  cases j with
  | object members =>
      rw [fields?, Document.ofMembers?] at h
      obtain ⟨-, hknown⟩ := Option.ite_none_right_eq_some.mp h
      cases hknown
      exact .member (List.mem_filter.mp hmember).1
  | array items =>
      rw [fields?, Document.ofItems?] at h
      obtain ⟨-, hitems⟩ := Option.ite_none_right_eq_some.mp h
      cases hitems
      exact .item (List.of_mem_zip hmember).2
  | _ => cases h

/-- All of a tagged value is readable, and its body is no deeper than it. -/
theorem of_tagged? {tag form : String} {numbered : List String} {j body : Json} {room : Nat}
    (h : j.tagged? tag numbered = some (form, body)) (hj : j.Legal room) :
    body.Legal room ∧ body.Sound := by
  rw [tagged?.eq_def] at h
  obtain ⟨hsound, h⟩ := Option.ite_none_right_eq_some.mp h
  split at h
  · next members =>
    split at h
    · obtain ⟨_, -, hbody⟩ := Option.map_eq_some_iff.mp h
      cases hbody
      cases hj with
      | object hmembers =>
          exact ⟨.object fun member hmember => hmembers member (List.mem_filter.mp hmember).1,
            sound_object.mpr fun member hmember =>
              sound_object.mp hsound member (List.mem_filter.mp hmember).1⟩
    · cases h
  · next first rest =>
    obtain ⟨_, -, hbody⟩ := Option.map_eq_some_iff.mp h
    cases hbody
    cases hj with
    | array hitems =>
        exact ⟨.array fun item hitem => hitems item (List.mem_cons_of_mem _ hitem),
          sound_array.mpr fun item hitem =>
            sound_array.mp hsound item (List.mem_cons_of_mem _ hitem)⟩
  · cases h

end Json

namespace Document

variable {α : Type} {read? : Json → Option α} {fields : List (String × Json)} {name : String}

/-- A field that is found under a name is one of the fields. -/
theorem mem_of_lookup {j : Json} (h : fields.lookup name = some j) : (name, j) ∈ fields := by
  obtain ⟨before, after, rfl, -⟩ := List.lookup_eq_some_iff.mp h
  exact List.mem_append_right _ List.mem_cons_self

/-- What a field that has to be there holds was read from it. -/
theorem exists_of_required {a : α} (h : required fields name read? = some a) :
    ∃ field ∈ fields, read? field.2 = some a := by
  obtain ⟨j, hj, hread⟩ := Option.bind_eq_some_iff.mp h
  exact ⟨(name, j), mem_of_lookup hj, hread⟩

/-- What a field that may be missing holds is its default, or was read from it. -/
theorem exists_of_defaulted {default a : α} (h : defaulted fields name default read? = some a) :
    a = default ∨ ∃ field ∈ fields, read? field.2 = some a := by
  rw [defaulted] at h
  split at h
  · exact .inl (Option.some.inj h).symm
  · next j hj => exact .inr ⟨(name, j), mem_of_lookup hj, h⟩

/-- What stands in a list was read from one of its items. -/
theorem exists_of_list? {j : Json} {as : List α} (h : list? read? j = some as) :
    ∀ a ∈ as, ∃ item, item.PartOf j ∧ read? item = some a := by
  obtain ⟨items, hitems, hread⟩ := Option.bind_eq_some_iff.mp h
  cases j with
  | array =>
      cases hitems
      intro a ha
      obtain ⟨item, hitem, hread⟩ := exists_of_mem_mapM hread a ha
      exact ⟨item, .item hitem, hread⟩
  | _ => cases hitems

/-- What stands in a map was read from one of its members. -/
theorem exists_of_map? {j : Json} {map : NameMap α} (h : map? read? j = some map) :
    ∀ entry ∈ map.toList, ∃ value, value.PartOf j ∧ read? value = some entry.2 := by
  obtain ⟨entries, hentries, hread⟩ := Option.bind_eq_some_iff.mp h
  obtain ⟨read, hall, rfl⟩ := Option.map_eq_some_iff.mp hread
  cases j with
  | object =>
      cases hentries
      intro entry hentry
      obtain ⟨member, hmember, hread⟩ :=
        exists_of_mem_mapM hall entry (NameMap.mem_of_mem_toList_ofEntries hentry)
      obtain ⟨value, hvalue, rfl⟩ := Option.map_eq_some_iff.mp hread
      exact ⟨member.2, .member hmember, hvalue⟩
  | _ => cases hentries

/-! ### Fields that are found under their names -/

/-- A field that has to be there is read as it is found. -/
theorem required_of_lookup {j : Json} (hlookup : fields.lookup name = some j) :
    required fields name read? = read? j := by
  rw [required, hlookup, Option.bind_some]

/-- A field that may be missing is read as what was written of it. -/
theorem optional_of_lookup {write : α → Json} {value : Option α}
    (hlookup : fields.lookup name = value.map write) (hnull : ∀ a, write a ≠ .null)
    (hread : ∀ a, read? (write a) = some a) : optional fields name read? = some value := by
  rw [optional, hlookup]
  cases value with
  | none => rfl
  | some a =>
      have hpresent : Document.present? (write a) = some (some (write a)) :=
        congrArg some (if_neg (hnull a))
      rw [Option.map_some]
      dsimp only
      rw [hpresent]
      dsimp only
      rw [hread, Option.map_some]

/-- So is one that has a default, if it is there. -/
theorem defaulted_of_some {default : α} {j : Json} (hlookup : fields.lookup name = some j) :
    defaulted fields name default read? = read? j := by
  rw [defaulted, hlookup]

/-- A field that is left out when its default stands is read as what it was. -/
theorem defaulted_of_lookup {default value : α} {skipped : Bool} {j : Json}
    (hlookup : fields.lookup name = if skipped then none else some j)
    (hskipped : skipped = true → value = default) (hread : read? j = some value) :
    defaulted fields name default read? = some value := by
  rw [defaulted, hlookup]
  cases skipped with
  | true => rw [hskipped rfl]; rfl
  | false => exact hread

/-! ### Lists and numbers -/

/-- A written list is read if its items are. -/
theorem list?_map {write : α → Json} {as : List α}
    (hread : ∀ a ∈ as, read? (write a) = some a) :
    list? read? (Json.array (as.map write)) = some as :=
  mapM_map_eq_some hread

/-- A number that is read with a bound is below it. -/
theorem lt_of_natBelow? {bound n : Nat} {j : Json} (h : natBelow? bound j = some n) : n < bound :=
  of_decide_eq_true (Option.filter_eq_some_iff.mp h).2

/-- A number below the bound is read back. -/
theorem natBelow?_int {bound n : Nat} (hn : n < bound) : natBelow? bound (Json.int n) = some n := by
  change (if (0 : Int) ≤ n then some (n : Int).toNat else none).filter (· < bound) = _
  rw [if_pos (Int.natCast_nonneg n), Int.toNat_natCast, Option.filter_some, if_pos (by simpa)]

/-- Numbers of 32 bits are read back. -/
theorem uint32?_int (n : UInt32) : uint32? (Json.int n.toNat) = some n := by
  rw [uint32?, natBelow?_int n.toNat_lt, Option.map_some, UInt32.ofNat_toNat]

/-- So are numbers of 64 bits. -/
theorem uint64?_int (n : UInt64) : uint64? (Json.int n.toNat) = some n := by
  rw [uint64?, natBelow?_int n.toNat_lt, Option.map_some, UInt64.ofNat_toNat]

/-- So are numbers of 32 bits with a sign. -/
theorem int32?_int (n : Int32) : int32? (Json.int n.toInt) = some n := by
  change (some n.toInt).bind _ = _
  rw [Option.bind_some, if_pos ⟨Int32.minValue_le_toInt n, Int32.toInt_le n⟩, Int32.ofInt_toInt]

end Document

namespace Json

/-! ### What can be written -/

/-- A number that fits into 64 bits can be written. -/
theorem Legible.natCast {room n : Nat} (hn : n < UInt64.size) : (Json.int n).Legible room :=
  .int ⟨Int.le_trans (by decide) (Int.natCast_nonneg n), by omega⟩

/-- Numbers of 64 bits can be written. -/
@[simp]
theorem Legible.uint64 {room : Nat} (n : UInt64) : (Json.int n.toNat).Legible room :=
  .natCast n.toNat_lt

/-- So can numbers of 32 bits. -/
@[simp]
theorem Legible.uint32 {room : Nat} (n : UInt32) : (Json.int n.toNat).Legible room :=
  .natCast (Nat.lt_trans n.toNat_lt (by decide))

/-- So can numbers of 64 bits with a sign. -/
@[simp]
theorem Legible.ofInt64 {room : Nat} (n : Int64) : (Json.ofInt64 n).Legible room :=
  (Progress.plain_ofInt64 n).legible

/-- So can numbers of 32 bits with a sign. -/
@[simp]
theorem Legible.int32 {room : Nat} (n : Int32) : (Json.int n.toInt).Legible room :=
  .int ⟨Int.le_trans (by decide) (Int32.minValue_le_toInt n),
    Int.lt_of_le_of_lt (Int32.toInt_le n) (by decide)⟩

/-- A map can be written if its values can. -/
theorem Legible.ofMap {α : Type} {write : α → Json} {room : Nat} {map : NameMap α}
    (hwrite : ∀ entry ∈ map.toList, (write entry.2).Legible room) :
    (Json.ofMap write map).Legible (room + 1) := by
  refine .object fun member hmember => ?_
  obtain ⟨entry, hentry, rfl⟩ := List.mem_map.mp hmember
  exact hwrite entry hentry

/-- A list can be written if its items can. -/
theorem Legible.map {α : Type} {write : α → Json} {room : Nat} {as : List α}
    (hwrite : ∀ a ∈ as, (write a).Legible room) : (Json.array (as.map write)).Legible (room + 1) :=
  .array (List.forall_mem_map.mpr hwrite)

/-! ### What is written as a record -/

/-- A member that passes a test, or none. -/
def Slot (test : String × Json → Prop) (slot : Option (String × Json)) : Prop :=
  ∀ member ∈ slot, test member

section Slots

variable {test : String × Json → Prop} {name : String} {value : Json}

/-- A field that is always written passes a test if its value does. -/
@[simp]
theorem slot_field : Slot test (field name value) ↔ test (name, value) := by
  simp [Slot, field]

/-- A field that may be missing passes if its value does, where there is one. -/
@[simp]
theorem slot_optionalField {α : Type} {write : α → Json} {value : Option α} :
    Slot test (optionalField name write value) ↔ ∀ a ∈ value, test (name, write a) := by
  cases value <;> simp [Slot, optionalField]

/-- A field that may be skipped passes if its value does, unless it is skipped. -/
@[simp]
theorem slot_fieldUnless {skipped : Bool} :
    Slot test (fieldUnless skipped name value) ↔ (skipped = false → test (name, value)) := by
  cases skipped <;> simp [Slot, fieldUnless]

end Slots

/-- All members that are there pass a test. -/
def Members (test : String × Json → Prop) (members : List (Option (String × Json))) : Prop :=
  ∀ slot ∈ members, Slot test slot

section Members

variable {test : String × Json → Prop} {slot : Option (String × Json)}
  {members : List (Option (String × Json))}

/-- No members pass any test. -/
@[simp]
theorem members_nil : Members test [] := nofun

/-- Members pass a test one by one. -/
@[simp]
theorem members_cons :
    Members test (slot :: members) ↔ Slot test slot ∧ Members test members :=
  List.forall_mem_cons

/-- The members that are there. -/
def given (members : List (Option (String × Json))) : List (String × Json) :=
  members.filterMap id

/-- Each member that is there has passed. -/
theorem of_mem_given {member : String × Json} (hmembers : Members test members)
    (h : member ∈ given members) : test member := by
  obtain ⟨slot, hslot, hmember⟩ := List.mem_filterMap.mp h
  exact hmembers slot hslot member hmember

end Members

/-! ### Finding a member again -/

section Lookup

variable {members : List (Option (String × Json))}

/-- A name is looked up in the first field, and then in the others. -/
theorem lookup_cons {name other : String} {value : Json} {fields : List (String × Json)} :
    ((other, value) :: fields).lookup name =
      if name = other then some value else fields.lookup name := by
  rw [List.lookup_cons]
  by_cases hname : name = other
  · rw [if_pos hname, beq_iff_eq.mpr hname]
  · rw [if_neg hname, beq_eq_false_iff_ne.mpr hname]

/-- Where there are no members, none is found. -/
@[simp]
theorem lookup_given_nil {name : String} : (given []).lookup name = none := rfl

/-- A field that is always written is found under its name. -/
@[simp]
theorem lookup_field {name other : String} {value : Json} :
    (given (field other value :: members)).lookup name =
      if name = other then some value else (given members).lookup name :=
  lookup_cons

/-- A field that may be missing is found under its name where it has a value. -/
@[simp]
theorem lookup_optionalField {α : Type} {name other : String} {write : α → Json}
    {value : Option α} :
    (given (optionalField other write value :: members)).lookup name =
      if name = other then (value.map write).or ((given members).lookup name)
      else (given members).lookup name := by
  cases value with
  | none => exact (ite_self _).symm
  | some value => exact lookup_cons

/-- A field that may be skipped is found under its name unless it is skipped. -/
@[simp]
theorem lookup_fieldUnless {name other : String} {skipped : Bool} {value : Json} :
    (given (fieldUnless skipped other value :: members)).lookup name =
      if name = other then (if skipped then (given members).lookup name else some value)
      else (given members).lookup name := by
  cases skipped with
  | true => exact (ite_self _).symm
  | false => exact lookup_cons

/-- **The fields of a written record are its members.** Each of them has the name of a field, in the
order of the names. -/
theorem fields?_ofMembers {names : List String} (hnames : names.Nodup)
    (hmembers : List.Forall₂ (fun name slot => Slot (·.1 = name) slot) names members) :
    (Json.ofMembers members).fields? names = some (given members) := by
  have hsublist : ((given members).map Prod.fst).Sublist names := by
    clear hnames
    induction hmembers with
    | nil => exact List.Sublist.refl _
    | @cons name slot names members hslot _ ih =>
        cases slot with
        | none => exact ih.cons name
        | some member =>
            obtain rfl := hslot member rfl
            exact ih.cons_cons member.1
  have hknown : (given members).filter (fun member => names.contains member.1) =
      given members :=
    List.filter_eq_self.mpr fun member hmember =>
      List.contains_iff_mem.mpr (hsublist.subset (List.mem_map_of_mem hmember))
  have hobject : Json.ofMembers members = .object (given members) := rfl
  rw [hobject, fields?, Document.ofMembers?, hknown, if_pos (hsublist.nodup hnames)]

end Lookup

section Written

variable {room : Nat} {tag form : String} {members : List (Option (String × Json))}

/-- **A record can be written** if its members can. -/
theorem Legible.ofMembers (hmembers : Members (fun member => member.2.Legible room) members) :
    (Json.ofMembers members).Legible (room + 1) :=
  .object fun _ hmember => of_mem_given hmembers hmember

/-- **A tagged value can be written** if its members can. -/
theorem Legible.tagged (hmembers : Members (fun member => member.2.Legible room) members) :
    (Json.tagged tag form members).Legible (room + 1) :=
  .ofMembers (members_cons.mpr ⟨slot_field.mpr (.string form), hmembers⟩)

/-- **The form and the body of a tagged value are found again** if no member is named as the tag
is. -/
theorem tagged?_tagged {numbered : List String}
    (hnames : Members (fun member => member.1 ≠ tag) members)
    (hmembers : Members (fun member => member.2.Legible room) members) :
    (tagged tag form members).tagged? tag numbered = some (form, ofMembers members) := by
  have hlegible : (tagged tag form members).Legible (room + 1) := .tagged hmembers
  have hnone : (given members).filter (·.1 = tag) = [] :=
    List.filter_eq_nil_iff.mpr fun member hmember => by
      simpa using of_mem_given hnames hmember
  have hall : (given members).filter (·.1 ≠ tag) = given members :=
    List.filter_eq_self.mpr fun member hmember => by
      simpa using of_mem_given hnames hmember
  have htagged : tagged tag form members =
      .object ((tag, .string form) :: given members) := rfl
  rw [tagged?.eq_def, if_pos hlegible.sound, htagged]
  dsimp only
  rw [List.filter_cons_of_pos (by simp), hnone, List.filter_cons_of_neg (by simp), hall]
  rfl

end Written

end Json

end Cutscene
