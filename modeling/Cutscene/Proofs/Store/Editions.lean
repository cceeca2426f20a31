import Cutscene.Proofs.Json.Derivation
import Cutscene.Proofs.Json.Members

/-!
# Records of Other Editions

A record need not be the work of this program. One that was written before there were all four parts
of progress lacks some of them, and one that was written since may have members that nobody asks
for. Its members stand in any order, with any blanks in between, and so do the names of scenes,
which may even be repeated.

What such a record says is told here by what stands under the name of each part
(`Progress.Part.Stands`): nothing, so that the part is empty, or a single value, which tells all of
it (`Progress.Part.Tells`). Nothing else is read, and nothing more is asked for.

## Main results

* `Progress.ofJson?_object_eq_some_iff`: the progress that the members of a record say.
* `FileStore.decode?_edition`: records of other editions are read, and ambiguous ones are not.
-/

namespace Cutscene

open Std

/-! ### Parts of progress -/

namespace Progress

/-- The four parts of progress. -/
inductive Part where
  | flags
  | counters
  | completed
  | lastSeen
deriving DecidableEq

namespace Part

/-- The name of a part in a record. -/
def name : Part → String
  | flags => "flags"
  | counters => "progress"
  | completed => "completedScenes"
  | lastSeen => "lastSeenAt"

/-- What stands in a record under the name of a part. -/
def values (part : Part) (members : List (String × Json)) : List Json :=
  Document.valuesOf part.name members

/-- A value of the kind that a part has: an object of truth values or of numbers of 64 bits, or an
array of texts. -/
def Takes : Part → Json → Prop
  | flags, .object members => ∀ member ∈ members, ∃ b, member.2 = .bool b
  | counters, .object members | lastSeen, .object members =>
    ∀ member ∈ members, ∃ n, member.2 = .ofInt64 n
  | completed, .array items => ∀ item ∈ items, ∃ s, item = .string s
  | _, _ => False

/-- The part is empty. -/
def Lacks (p : Progress) : Part → Prop
  | flags => p.flags = ∅
  | counters => p.counters = ∅
  | completed => p.completed = ∅
  | lastSeen => p.lastSeen = ∅

/-- The value tells the part. -/
def Tells (p : Progress) : Part → Json → Prop
  | flags => Json.Lists .bool p.flags
  | counters => Json.Lists .ofInt64 p.counters
  | completed => Json.Names p.completed
  | lastSeen => Json.Lists .ofInt64 p.lastSeen

/-- The part is as the members of a record say: nothing is said, and it is empty, or all of it is
told once. -/
def Stands (p : Progress) (members : List (String × Json)) (part : Part) : Prop :=
  (part.values members = [] ∧ part.Lacks p) ∨
    ∃ value, part.values members = [value] ∧ part.Tells p value

/-- The part is what is read of its field. -/
def IsRead (p : Progress) (fields : List (String × Json)) : Part → Prop
  | flags => Document.defaulted fields "flags" ∅ (Document.map? Document.bool?) = some p.flags
  | counters =>
    Document.defaulted fields "progress" ∅ (Document.map? Document.int64?) = some p.counters
  | completed => Document.defaulted fields "completedScenes" ∅ Document.set? = some p.completed
  | lastSeen =>
    Document.defaulted fields "lastSeenAt" ∅ (Document.map? Document.int64?) = some p.lastSeen

/-- The names of all parts. -/
def names : List String := ["flags", "progress", "completedScenes", "lastSeenAt"]

/-- The names are those of the parts. -/
theorem mem_names {name : String} : name ∈ names ↔ ∃ part : Part, part.name = name := by
  constructor
  · intro h
    simp only [names, List.mem_cons, List.not_mem_nil, or_false] at h
    rcases h with rfl | rfl | rfl | rfl
    exacts [⟨flags, rfl⟩, ⟨counters, rfl⟩, ⟨completed, rfl⟩, ⟨lastSeen, rfl⟩]
  · rintro ⟨part, rfl⟩
    cases part <;> decide

/-- What is read of the field of a part is what stands under the part's name. -/
theorem isRead_iff {p : Progress} {members fields : List (String × Json)} {part : Part}
    (hfields : Document.ofMembers? names members = some fields) :
    part.IsRead p fields ↔ part.Stands p members := by
  have hname : part.name ∈ names := mem_names.mpr ⟨part, rfl⟩
  cases part with
  | flags =>
      refine (Document.defaulted_eq_some_iff hfields hname).trans ?_
      simp only [Document.map?_eq_some_iff fun _ _ => Document.bool?_eq_some_iff]
      rfl
  | counters | lastSeen =>
      refine (Document.defaulted_eq_some_iff hfields hname).trans ?_
      simp only [Document.map?_eq_some_iff fun _ _ => Document.int64?_eq_some_iff]
      rfl
  | completed =>
      refine (Document.defaulted_eq_some_iff hfields hname).trans ?_
      simp only [Document.set?_eq_some_iff]
      rfl

/-- What tells a part is of the part's kind. -/
theorem Tells.takes {p : Progress} {part : Part} {j : Json} (h : part.Tells p j) :
    part.Takes j := by
  cases part with
  | flags | counters | lastSeen =>
      obtain ⟨entries, rfl, -⟩ := h
      rintro member hmember
      obtain ⟨entry, -, rfl⟩ := List.mem_map.mp hmember
      exact ⟨entry.2, rfl⟩
  | completed =>
      obtain ⟨names, rfl, -⟩ := h
      rintro item hitem
      obtain ⟨name, -, rfl⟩ := List.mem_map.mp hitem
      exact ⟨name, rfl⟩

end Part

/-- Progress is read of a record if each of its parts is. -/
theorem ofJson?_eq_some_iff {j : Json} {p : Progress} : ofJson? j = some p ↔
    ∃ fields, j.fields? Part.names = some fields ∧ ∀ part : Part, part.IsRead p fields := by
  rw [ofJson?]
  constructor
  · intro h
    obtain ⟨fields, hfields, h⟩ := Option.bind_eq_some_iff.mp h
    obtain ⟨flags, hflags, h⟩ := Option.bind_eq_some_iff.mp h
    obtain ⟨counters, hcounters, h⟩ := Option.bind_eq_some_iff.mp h
    obtain ⟨completed, hcompleted, h⟩ := Option.bind_eq_some_iff.mp h
    obtain ⟨lastSeen, hlastSeen, h⟩ := Option.bind_eq_some_iff.mp h
    cases h
    refine ⟨fields, hfields, fun part => ?_⟩
    cases part <;> assumption
  · rintro ⟨fields, hfields, hparts⟩
    have hflags := hparts .flags
    have hcounters := hparts .counters
    have hcompleted := hparts .completed
    have hlastSeen := hparts .lastSeen
    simp only [Part.IsRead] at hflags hcounters hcompleted hlastSeen
    rw [Part.names] at hfields
    simp only [bind, hfields, hflags, hcounters, hcompleted, hlastSeen, Option.bind_some, pure]

/-- **The progress that the members of a record say** is the one of which each part stands there. -/
theorem ofJson?_object_eq_some_iff {members : List (String × Json)} {p : Progress} :
    ofJson? (.object members) = some p ↔ ∀ part : Part, part.Stands p members := by
  rw [ofJson?_eq_some_iff]
  constructor
  · rintro ⟨fields, hfields, hparts⟩ part
    exact (Part.isRead_iff hfields).mp (hparts part)
  · intro h
    have honce : ∀ name ∈ Part.names, (Document.valuesOf name members).length ≤ 1 := by
      intro name hname
      obtain ⟨part, rfl⟩ := Part.mem_names.mp hname
      obtain ⟨hnone, -⟩ | ⟨value, hone, -⟩ := h part
      · change (part.values members).length ≤ 1
        simp [hnone]
      · change (part.values members).length ≤ 1
        simp [hone]
    have hfields := Document.ofMembers?_eq_some_iff.mpr ⟨honce, rfl⟩
    exact ⟨_, hfields, fun part => (Part.isRead_iff hfields).mpr (h part)⟩

/-! ### Editions -/

/-- Progress with nothing but the parts that are kept. -/
def only (p : Progress) (kept : Part → Bool) : Progress where
  flags := if kept .flags then p.flags else ∅
  counters := if kept .counters then p.counters else ∅
  completed := if kept .completed then p.completed else ∅
  lastSeen := if kept .lastSeen then p.lastSeen else ∅

/-- **The members of a record in some edition** tell each part that is kept once, and do not name
the others. They may stand in any order, with any members of other names among them. -/
def IsEdition (p : Progress) (kept : Part → Bool) (members : List (String × Json)) : Prop :=
  ∀ part : Part, if kept part then ∃ value, part.values members = [value] ∧ part.Tells p value
    else part.values members = []

/-- Each part of an edition is as its members say, whether the part has been kept or left out. -/
theorem IsEdition.stands {p : Progress} {kept : Part → Bool} {members : List (String × Json)}
    (h : p.IsEdition kept members) (part : Part) : part.Stands (p.only kept) members := by
  have hpart := h part
  by_cases hkept : kept part = true
  · rw [if_pos hkept] at hpart
    obtain ⟨value, hvalue, htells⟩ := hpart
    refine .inr ⟨value, hvalue, ?_⟩
    cases part <;> simpa only [Part.Tells, only, if_pos hkept] using htells
  · rw [if_neg hkept] at hpart
    refine .inl ⟨hpart, ?_⟩
    cases part <;> simp only [Part.Lacks, only, if_neg hkept]

end Progress

namespace FileStore

/-- **Records of other editions are read**, with the parts that were left out empty. A record that
names a part twice, or holds what is not of the part's kind, is not read. -/
theorem decode?_edition {members : List (String × Json)} {text : String}
    (htext : Json.Spells Json.Reading.depthLimit (.element (.object members)) text.toList) :
    (∀ (p : Progress) (kept : Progress.Part → Bool), p.IsEdition kept members →
      decode? text.toUTF8 = some (p.only kept)) ∧
    ∀ part : Progress.Part, (1 < (part.values members).length ∨
      ∃ value ∈ part.values members, ¬part.Takes value) → decode? text.toUTF8 = none := by
  have hdecode : decode? text.toUTF8 = Progress.ofJson? (.object members) := by
    have hutf8 : String.fromUTF8? text.toUTF8 = some text := dif_pos text.isValidUTF8
    rw [decode?, hutf8, Option.bind_some, Json.ofText?, Json.ofChars?_of_spells htext,
      Option.bind_some]
  rw [hdecode]
  constructor
  · intro p kept h
    exact Progress.ofJson?_object_eq_some_iff.mpr h.stands
  · intro part h
    refine Option.eq_none_iff_forall_ne_some.mpr fun p hp => ?_
    obtain ⟨hvalues, -⟩ | ⟨value, hvalues, htells⟩ :=
      Progress.ofJson?_object_eq_some_iff.mp hp part
    · rw [hvalues] at h
      obtain h | ⟨value, hvalue, -⟩ := h
      · exact absurd h (by decide)
      · cases hvalue
    · rw [hvalues] at h
      obtain h | ⟨other, hother, hkind⟩ := h
      · exact absurd h (Nat.lt_irrefl 1)
      · rw [List.mem_singleton.mp hother] at hkind
        exact hkind htells.takes

/-- A record of a later edition, which knows of no flags and of no times, and repeats a scene. -/
def laterRecord : String :=
  "\x7b \"newer\" : [null, \x7b\"flags\":[1e400]\x7d] ,\n" ++
    "\"completedScenes\":[\"b\",\"a\",\"b\"],\t\"progr\\u0065ss\":\x7b\"visits\":-3\x7d\x7d"

/-- The members of that record. -/
def laterMembers : List (String × Json) := [
  ("newer", .array [.null, .object [("flags", .array [.unreadable])]]),
  ("completedScenes", .ofNames ["b", "a", "b"]),
  ("progress", .object [("visits", .ofInt64 (-3))])]

/-- The later record is read, without flags and times. A record is not read that has a null for its
flags, or tells them twice. -/
theorem decode?_laterRecord :
    (Json.Spells Json.Reading.depthLimit (.element (.object laterMembers)) laterRecord.toList ∧
      decode? laterRecord.toUTF8 = some
        { counters := .ofEntries [("visits", -3)], completed := .ofList ["a", "b"] }) ∧
    decode? "\x7b\"flags\":null\x7d".toUTF8 = none ∧
    decode? "\x7b\"flags\":\x7b\x7d,\"flags\":\x7b\x7d\x7d".toUTF8 = none := by
  have hlater : Json.Spells Json.Reading.depthLimit (.element (.object laterMembers))
      laterRecord.toList := by decide +kernel
  have hnull : Json.Spells Json.Reading.depthLimit (.element (.object [("flags", .null)]))
      "\x7b\"flags\":null\x7d".toList := by decide +kernel
  have htwice : Json.Spells Json.Reading.depthLimit
      (.element (.object [("flags", .object []), ("flags", .object [])]))
      "\x7b\"flags\":\x7b\x7d,\"flags\":\x7b\x7d\x7d".toList := by decide +kernel
  let p : Progress := {
    flags := .ofEntries [("met", true)]
    counters := .ofEntries [("visits", -3)]
    completed := .ofList ["a", "b"]
    lastSeen := .ofEntries [("a", 12)] }
  have hedition : p.IsEdition (fun part => part = .counters ∨ part = .completed) laterMembers := by
    intro part
    cases part with
    | flags | lastSeen => exact rfl
    | counters => exact ⟨_, rfl, [("visits", -3)], rfl, NameMap.getElem?_ofEntries _⟩
    | completed =>
        refine ⟨_, rfl, ["b", "a", "b"], rfl, fun name => ?_⟩
        rw [NameSet.mem_ofList]
        grind
  refine ⟨⟨hlater, ?_⟩, ?_, ?_⟩
  · exact (decode?_edition hlater).1 p _ hedition
  · exact (decode?_edition hnull).2 .flags (.inr ⟨.null, List.mem_singleton.mpr rfl, id⟩)
  · exact (decode?_edition htwice).2 .flags (.inl (by decide))

end FileStore

end Cutscene
