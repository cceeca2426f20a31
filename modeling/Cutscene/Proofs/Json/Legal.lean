import Cutscene.Proofs.Json.Derivation
import Cutscene.Proofs.Json.RoundTrip

/-!
# Values That Can Be Read

What a text holds is not any value at all: whole numbers have 64 bits, and containers that are
nested too deeply have become unreadable. Such a value is *legal* (`Json.Legal`). A value that is
legal for as many containers as there is room for is read back once it is written, if no part of it
is unreadable and every floating-point number in it survives being written (`Json.Legal.plain`).

## Main results

* `Json.Spells.legal`, `Json.legal_of_ofText?`: what is spelled by a text, and so what is read from
  it, is legal.
* `Json.Legal.plain`: legal values whose parts can be written are plain.
-/

namespace Cutscene

namespace Json

/-- A value that can stand in a text: its whole numbers are numbers of 64 bits, and its containers
are nested no deeper than there is room. Parts of it may be unreadable. -/
inductive Legal : Nat → Json → Prop
  | null {room : Nat} : Legal room .null
  | bool {room : Nat} (value : Bool) : Legal room (.bool value)
  | int {room : Nat} {n : Int} (hn : Numeral.Fits n) : Legal room (.int n)
  | float {room : Nat} (x : Binary64) : Legal room (.float x)
  | string {room : Nat} (s : String) : Legal room (.string s)
  | array {room : Nat} {items : List Json} (hitems : ∀ item ∈ items, Legal room item) :
      Legal (room + 1) (.array items)
  | object {room : Nat} {members : List (String × Json)}
      (hmembers : ∀ member ∈ members, Legal room member.2) : Legal (room + 1) (.object members)
  | unreadable {room : Nat} : Legal room .unreadable

/-! ### Texts -/

/-- A whole number that a numeral stands for has 64 bits. -/
theorem fits_of_int? {numeral : Numeral} {n : Int} (hn : numeral.int? = some n) :
    Numeral.Fits n := by
  have hmin : Int64.minValue.toInt ≤ 0 := by decide
  rw [Numeral.int?] at hn
  split at hn
  · split at hn
    · obtain ⟨hrange, h⟩ := Option.ite_none_right_eq_some.mp hn
      cases h
      exact ⟨hrange.2, by omega⟩
    · obtain ⟨hrange, h⟩ := Option.ite_none_right_eq_some.mp hn
      cases h
      exact ⟨by omega, by omega⟩
  · cases hn

/-- The value of a numeral is legal: a whole number that does not fit is made a floating-point one.
-/
theorem legal_value (numeral : Numeral) {room : Nat} : Legal room numeral.value := by
  rw [Numeral.value]
  split
  · next n hn => exact .int (fits_of_int? hn)
  dsimp only
  split
  · exact .float _
  · exact .unreadable

/-- All values of the phrase are legal. -/
def Phrase.Legal (room : Nat) : Phrase → Prop
  | value j | element j | member _ j => j.Legal room
  | items js => ∀ item ∈ js, item.Legal room
  | members ms => ∀ member ∈ ms, member.2.Legal room

/-- An array for which there is no room is not there. -/
theorem legal_inRoom_array {room : Nat} {items : List Json}
    (hitems : ∀ item ∈ items, item.Legal (room - 1)) : (inRoom room (.array items)).Legal room := by
  cases room with
  | zero => exact .unreadable
  | succ room => exact .array hitems

/-- Neither is an object, and one whose names have no text is not there either. -/
theorem legal_inRoom_object {room : Nat} {members : List (Option String × Json)}
    (hmembers : ∀ member ∈ members, member.2.Legal (room - 1)) :
    (inRoom room ((named? members).elim .unreadable .object)).Legal room := by
  cases room with
  | zero => exact .unreadable
  | succ room =>
      cases hnamed : named? members with
      | none => exact .unreadable
      | some named =>
          refine .object fun member hmember => ?_
          obtain ⟨spelled, hspelled, hread⟩ := exists_of_mem_mapM hnamed member hmember
          obtain ⟨name, -, rfl⟩ := Option.map_eq_some_iff.mp hread
          exact hmembers spelled hspelled

/-- **What a text spells is legal.** Induction on the rules of the grammar. -/
theorem Spells.legal {room : Nat} {phrase : Phrase} {text : List Char}
    (h : Spells room phrase text) : phrase.Legal room := by
  induction h with
  | null => exact .null
  | true | false => exact .bool _
  | number => exact legal_value _
  | @string _ s =>
      cases s with
      | none => exact .unreadable
      | some s => exact .string s
  | emptyArray => exact legal_inRoom_array nofun
  | array _ ih => exact legal_inRoom_array ih
  | emptyObject => exact @legal_inRoom_object _ [] nofun
  | object _ ih => exact legal_inRoom_object ih
  | element _ _ _ ih | member _ _ _ _ ih => exact ih
  | lastItem _ ih => exact List.forall_mem_singleton.mpr ih
  | lastMember _ ih => exact List.forall_mem_singleton.mpr ih
  | nextItem _ _ ih ihMore => exact List.forall_mem_cons.mpr ⟨ih, ihMore⟩
  | nextMember _ _ ih ihMore => exact List.forall_mem_cons.mpr ⟨ih, ihMore⟩

/-- **What is read from a text is legal.** -/
theorem legal_of_ofText? {text : String} {j : Json} (h : ofText? text = some j) :
    j.Legal Reading.depthLimit :=
  (ofChars?_eq_some_iff.mp h).legal

/-! ### Parts -/

/-- An item of an array, or the value of a member of an object. -/
inductive PartOf : Json → Json → Prop
  | item {items : List Json} {item : Json} (hitem : item ∈ items) : PartOf item (.array items)
  | member {members : List (String × Json)} {member : String × Json} (hmember : member ∈ members) :
      PartOf member.2 (.object members)

/-- What a value consists of: itself, and what its parts consist of. -/
inductive Within (inner : Json) : Json → Prop
  | self : Within inner inner
  | inside {part j : Json} (hpart : PartOf part j) (hinner : Within inner part) : Within inner j

/-- A value without parts consists of itself only. -/
theorem within_iff_eq {inner j : Json} (hpart : ∀ part, ¬PartOf part j) :
    inner.Within j ↔ inner = j := by
  constructor
  · rintro (_ | ⟨h, -⟩)
    · rfl
    · exact absurd h (hpart _)
  · rintro rfl
    exact .self

/-- A whole number has no parts. -/
theorem within_int {inner : Json} {n : Int} : inner.Within (.int n) ↔ inner = .int n :=
  within_iff_eq nofun

/-- Nor has a floating-point number. -/
theorem within_float {inner : Json} {x : Binary64} : inner.Within (.float x) ↔ inner = .float x :=
  within_iff_eq nofun

/-- Nor has a string. -/
theorem within_string {inner : Json} {s : String} : inner.Within (.string s) ↔ inner = .string s :=
  within_iff_eq nofun

/-- What an array consists of is the array, or it is in an item. -/
theorem within_array {inner : Json} {items : List Json} :
    inner.Within (.array items) ↔ inner = .array items ∨ ∃ item ∈ items, inner.Within item := by
  constructor
  · rintro (_ | ⟨hpart, h⟩)
    · exact .inl rfl
    · cases hpart with
      | item hitem => exact .inr ⟨_, hitem, h⟩
  · rintro (rfl | ⟨item, hitem, h⟩)
    · exact .self
    · exact .inside (.item hitem) h

/-- What an object consists of is the object, or it is in a member. -/
theorem within_object {inner : Json} {members : List (String × Json)} :
    inner.Within (.object members) ↔
      inner = .object members ∨ ∃ member ∈ members, inner.Within member.2 := by
  constructor
  · rintro (_ | ⟨hpart, h⟩)
    · exact .inl rfl
    · cases hpart with
      | member hmember => exact .inr ⟨_, hmember, h⟩
  · rintro (rfl | ⟨member, hmember, h⟩)
    · exact .self
    · exact .inside (.member hmember) h

/-- An array is sound if its items are. -/
theorem sound_array {items : List Json} :
    (Json.array items).Sound ↔ ∀ item ∈ items, item.Sound := by
  have hitems : areSoundItems items = true ↔ ∀ item ∈ items, item.Sound := by
    induction items with
    | nil => exact ⟨fun _ => List.forall_mem_nil _, fun _ => rfl⟩
    | cons item items ih =>
        rw [areSoundItems, Bool.and_eq_true, ih, List.forall_mem_cons]
        rfl
  rw [Sound, isSound, hitems]

/-- An object is sound if its members are. -/
theorem sound_object {members : List (String × Json)} :
    (Json.object members).Sound ↔ ∀ member ∈ members, member.2.Sound := by
  have hmembers : areSoundMembers members = true ↔ ∀ member ∈ members, member.2.Sound := by
    induction members with
    | nil => exact ⟨fun _ => List.forall_mem_nil _, fun _ => rfl⟩
    | cons member members ih =>
        obtain ⟨name, value⟩ := member
        rw [areSoundMembers, Bool.and_eq_true, ih, List.forall_mem_cons]
        rfl
  rw [Sound, isSound, hmembers]

/-- A part of a sound value is sound. -/
theorem Sound.part {part j : Json} (hpart : PartOf part j) (hj : j.Sound) : part.Sound := by
  cases hpart with
  | item hitem => exact sound_array.mp hj _ hitem
  | member hmember => exact sound_object.mp hj _ hmember

/-- A part has less room. -/
theorem Legal.part {room : Nat} {part j : Json} (hpart : PartOf part j) (hj : j.Legal (room + 1)) :
    part.Legal room := by
  cases hpart with
  | item hitem => cases hj with
    | array hitems => exact hitems _ hitem
  | member hmember => cases hj with
    | object hmembers => exact hmembers _ hmember

/-- **A legal value that can be written is plain.** -/
theorem Legal.plain {room : Nat} {j : Json} (hj : j.Legal room) (hsound : j.Sound)
    (hfloats : ∀ x, (Json.float x).Within j → x.isFinite = true ∧ x.Survives) : j.Plain room := by
  induction hj with
  | null => exact .null
  | bool value => exact .bool value
  | int hn => exact .int hn
  | float x => exact .float (hfloats x .self).1 (hfloats x .self).2
  | string s => exact .string s
  | array _ ih =>
      exact .array fun item hitem => ih item hitem (sound_array.mp hsound item hitem)
        fun x hx => hfloats x (.inside (.item hitem) hx)
  | object _ ih =>
      exact .object fun member hmember => ih member hmember (sound_object.mp hsound member hmember)
        fun x hx => hfloats x (.inside (.member hmember) hx)
  | unreadable => cases hsound

end Json

end Cutscene
