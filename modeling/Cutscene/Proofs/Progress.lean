import Cutscene.Progress
import Cutscene.Proofs.Json.RoundTrip
import Cutscene.Store.FileStore

/-!
# Records of Progress

Progress is kept as a record, and the record as a text. Both ways back are exact: a record holds
each of the four parts of progress under a name of its own, with maps and sets listed by name, and
its text is that of a plain value, two containers deep. So the bytes that a store writes stand for
the very progress that they were written from.

## Main results

* `Progress.ofJson?_toJson`: progress is found again in its record.
* `Progress.plain_toJson`: its record is a plain value.
* `FileStore.decode?_encode`: progress is found again in the bytes of its record.
-/

namespace Cutscene

open Std

/-! ### Maps and sets as lists -/

/-- Of two entries with one name, the later one counts. -/
theorem NameMap.getElem?_ofEntries {α : Type} (entries : List (String × α)) (name : String) :
    (NameMap.ofEntries entries)[name]? = entries.reverse.lookup name := by
  rw [NameMap.ofEntries, ExtTreeMap.ofList_eq_insertMany_empty, ExtTreeMap.getElem?_insertMany_list,
    ExtTreeMap.getElem?_empty, Option.or_none, List.findSomeRev?_eq_findSome?_reverse,
    List.lookup_eq_findSome?]
  congr 1
  funext entry
  simp only [LawfulEqCmp.compare_eq_iff_eq, beq_iff_eq, @eq_comm _ name]

/-- A map is that of its entries. -/
theorem NameMap.ofEntries_toList {α : Type} (map : NameMap α) :
    NameMap.ofEntries map.toList = map := by
  refine ExtTreeMap.ext_getElem? fun name => ?_
  rw [NameMap.ofEntries]
  cases hname : map[name]? with
  | none =>
      refine ExtTreeMap.getElem?_ofList_of_contains_eq_false ?_
      rw [ExtTreeMap.map_fst_toList_eq_keys, ExtTreeMap.contains_keys,
        ExtTreeMap.contains_eq_isSome_getElem?, hname]
      rfl
  | some value =>
      exact ExtTreeMap.getElem?_ofList_of_mem ReflCmp.compare_self
        ExtTreeMap.distinct_keys_toList (ExtTreeMap.mem_toList_iff_getElem?_eq_some.mpr hname)

/-- A set that is made of names has these names. -/
theorem NameSet.mem_ofList {names : List String} {name : String} :
    name ∈ (ExtTreeSet.ofList names : NameSet) ↔ name ∈ names := by
  rw [ExtTreeSet.mem_ofList, List.contains_iff_mem]

/-- A set is that of its names. -/
theorem NameSet.ofList_toList (names : NameSet) : ExtTreeSet.ofList names.toList = names := by
  refine ExtTreeSet.ext_mem fun name => ?_
  rw [NameSet.mem_ofList, ExtTreeSet.mem_toList]

/-! ### Parts of records -/

namespace Document

/-- **A written map is read** if its values are. -/
theorem map?_ofMap {α : Type} {write : α → Json} {read : Json → Option α} {map : NameMap α}
    (hread : ∀ entry ∈ map.toList, read (write entry.2) = some entry.2) :
    map? read (Json.ofMap write map) = some map := by
  have hentries : (map.toList.map fun entry => (entry.1, write entry.2)).mapM
      (fun entry => (read entry.2).map (entry.1, ·)) = some map.toList :=
    mapM_map_eq_some fun entry hentry => by rw [hread entry hentry]; rfl
  change NameMap.ofEntries? read (map.toList.map fun entry => (entry.1, write entry.2)) = _
  rw [NameMap.ofEntries?, hentries, Option.map_some, NameMap.ofEntries_toList]

/-- Written flags are read. -/
theorem map?_bools (flags : NameMap Bool) :
    map? bool? (Json.ofMap .bool flags) = some flags :=
  map?_ofMap fun _ _ => rfl

/-- **A written set of names is read.** -/
theorem set?_ofNames (names : NameSet) : set? (Json.ofNames names.toList) = some names := by
  have hnames : (names.toList.map Json.string).mapM (text? : Json → Option String) =
      some names.toList := mapM_map_eq_some fun _ _ => rfl
  change ((names.toList.map Json.string).mapM (text? : Json → Option String)).map _ = _
  rw [hnames, Option.map_some, NameSet.ofList_toList]

/-- A written number of 64 bits is read. -/
theorem int64?_ofInt64 (n : Int64) : int64? (Json.ofInt64 n) = some n := by
  change (some n.toInt).bind _ = _
  rw [Option.bind_some, if_pos ⟨Int64.minValue_le_toInt n, Int64.toInt_le n⟩,
    Int64.ofInt_toInt]

/-- Written counters are read. -/
theorem map?_counters (counters : NameMap Int64) :
    map? int64? (Json.ofMap .ofInt64 counters) = some counters :=
  map?_ofMap fun _ _ => int64?_ofInt64 _

end Document

/-! ### Progress -/

namespace Progress

/-- **Progress is found again in its record.** -/
theorem ofJson?_toJson (p : Progress) : ofJson? p.toJson = some p := by
  -- Each field is found under its name.
  change (Document.map? Document.bool? (Json.ofMap .bool p.flags)).bind (fun flags =>
    (Document.map? Document.int64? (Json.ofMap .ofInt64 p.counters)).bind fun counters =>
      (Document.set? (Json.ofNames p.completed.toList)).bind fun completed =>
        (Document.map? Document.int64? (Json.ofMap .ofInt64 p.lastSeen)).bind fun lastSeen =>
          some (⟨flags, counters, completed, lastSeen⟩ : Progress)) = some p
  rw [Document.map?_bools, Option.bind_some, Document.map?_counters, Option.bind_some,
    Document.set?_ofNames, Option.bind_some, Document.map?_counters, Option.bind_some]

/-- A map of plain values is a plain value. -/
theorem plain_ofMap {α : Type} {write : α → Json} {room : Nat}
    (hwrite : ∀ value, (write value).Plain room) (map : NameMap α) :
    (Json.ofMap write map).Plain (room + 1) := by
  refine .object fun member hmember => ?_
  obtain ⟨entry, -, rfl⟩ := List.mem_map.mp hmember
  exact hwrite entry.2

/-- An integer is a plain value. -/
theorem plain_ofInt64 {room : Nat} (n : Int64) : (Json.ofInt64 n).Plain room := by
  refine .int ⟨Int64.minValue_le_toInt n, ?_⟩
  have hle := Int64.toInt_le n
  have hmax : Int64.maxValue.toInt < UInt64.size := by decide
  omega

/-- The record of progress is a plain value. -/
theorem plain_toJson (p : Progress) {room : Nat} : p.toJson.Plain (room + 2) := by
  refine .object fun member hmember => ?_
  simp only [List.mem_cons, List.not_mem_nil, or_false] at hmember
  rcases hmember with rfl | rfl | rfl | rfl
  · exact plain_ofMap (fun value => .bool value) p.flags
  · exact plain_ofMap plain_ofInt64 p.counters
  · refine .array fun item hitem => ?_
    obtain ⟨name, -, rfl⟩ := List.mem_map.mp hitem
    exact .string name
  · exact plain_ofMap plain_ofInt64 p.lastSeen

end Progress

namespace FileStore

/-- **Progress is found again in the bytes of its record.** -/
theorem decode?_encode (p : Progress) : decode? (encode p) = some p := by
  have hread : Json.ofText? p.toJson.indented = some p.toJson := by
    rw [Json.ofText?, Json.indented, String.toList_ofList]
    exact Json.ofChars?_write p.plain_toJson Json.Layout.isBlank_indented 0
  have htext (s : String) : String.fromUTF8? s.toUTF8 = some s := dif_pos s.isValidUTF8
  rw [decode?, encode, htext, Option.bind_some, hread, Option.bind_some, Progress.ofJson?_toJson]

end FileStore

end Cutscene
