import Cutscene.Proofs.Formats

/-!
# Which Events a Trigger Responds To

A trigger and an event are written alike: a kind, and the details of that kind. So what a trigger
responds to can be told from what is written: a trigger responds to an event if each member of the
trigger as it is written is a member of the event as it is written (`Trigger.responds_iff_written`).
A detail that is left out asks for nothing.

The kinds have to be the same, since the kind is a member too, and no detail is named as it is. For
triggers and events of one kind it remains to compare the details.

## Main results

* `Trigger.responds_iff_members`: of one kind, the details that are declared have to be given.
* `Trigger.responds_iff_subset`: in general, all that is written of the trigger has to be written of
  the event.
* `Trigger.responds_iff_written`: the same of the values that are written, and what follows from it
  for triggers that declare less and for those that declare everything.
-/

namespace Cutscene

namespace Json

/-- Of no members none is given. -/
theorem given_nil : given [] = [] := rfl

/-- A member that is always written is given. -/
theorem given_field {name : String} {value : Json} {members : List (Option (String × Json))} :
    given (field name value :: members) = (name, value) :: given members := rfl

/-- Members are among others if each that is there is. -/
theorem given_subset_iff {members : List (Option (String × Json))}
    {others : List (String × Json)} : given members ⊆ others ↔ Members (· ∈ others) members := by
  constructor
  · intro h slot hslot member hmember
    refine h (List.mem_filterMap.mpr ⟨slot, hslot, hmember⟩)
  · intro h member hmember
    exact of_mem_given h hmember

end Json

open Json

/-- What is written of a result tells the result. -/
theorem BattleResult.toJson_inj {r r' : BattleResult} : r.toJson = r'.toJson ↔ r = r' := by
  cases r <;> cases r' <;> simp [toJson, word]

namespace Trigger

/-- A detail that is declared has to be the actual one. -/
theorem meets_iff {declared : Option String} {actual : String} :
    meets declared actual = true ↔ ∀ detail ∈ declared, detail = actual := by
  cases declared <;> simp [meets]

/-- A trigger responds to events of its own kind only. -/
theorem kind_eq_of_responds {t : Trigger} {e : GameEvent} (h : t.responds e = true) :
    t.kind = e.kind := by
  cases t <;> cases e <;> first | rfl | simp [responds] at h

/-- **Of one kind, the details that a trigger declares have to be given.** -/
theorem responds_iff_members {t : Trigger} {e : GameEvent} (h : t.kind = e.kind) :
    t.responds e = true ↔ Members (· ∈ given e.members) t.members := by
  cases t <;> cases e <;> first
    | simp [kind, GameEvent.kind] at h; done
    | simp [responds, members, GameEvent.members, given_field, given_nil, meets_iff,
        BattleResult.toJson_inj]

/-- **All that is written of a trigger has to be written of the event.** -/
theorem responds_iff_subset (t : Trigger) (e : GameEvent) :
    t.responds e = true ↔ ("type", .string t.kind) :: given t.members ⊆
      ("type", .string e.kind) :: given e.members := by
  rw [List.cons_subset]
  -- No detail is named as the kind is.
  have hkind : ("type", .string t.kind) ∈ ("type", .string e.kind) :: given e.members ↔
      t.kind = e.kind := by
    rw [List.mem_cons]
    constructor
    · rintro (h | h)
      · simpa using h
      · exact absurd rfl (of_mem_given e.ne_tag_of_members h)
    · intro h
      exact .inl (by rw [h])
  have hdetails : given t.members ⊆ ("type", .string e.kind) :: given e.members ↔
      given t.members ⊆ given e.members := by
    constructor
    · intro h member hmember
      rcases List.mem_cons.mp (h hmember) with rfl | hgiven
      · exact absurd rfl (of_mem_given t.ne_tag_of_members hmember)
      · exact hgiven
    · exact List.subset_cons_of_subset _
  rw [hkind, hdetails, given_subset_iff]
  constructor
  · intro h
    have hsame := kind_eq_of_responds h
    exact ⟨hsame, (responds_iff_members hsame).mp h⟩
  · rintro ⟨hsame, hmembers⟩
    exact (responds_iff_members hsame).mpr hmembers

/-- The second trigger is the first one less a detail that may be left out. -/
inductive LeavesOut : Trigger → Trigger → Prop
  | chapter (chapter : String) (battle : Option String) :
      LeavesOut (battleStart (some chapter) battle) (battleStart none battle)
  | battle (chapter : Option String) (battle : String) :
      LeavesOut (battleStart chapter (some battle)) (battleStart chapter none)
  | storyBattle (chapter battle : String) :
      LeavesOut (storyProgress chapter (some battle)) (storyProgress chapter none)
  | packType (packType : String) : LeavesOut (packOpened (some packType)) (packOpened none)

/-- Less is written of a trigger that declares less. -/
theorem LeavesOut.subset {t t' : Trigger} (h : LeavesOut t t') :
    ("type", .string t'.kind) :: given t'.members ⊆
      ("type", .string t.kind) :: given t.members := by
  cases h with
  | chapter | packType => simp [members, given, optionalField, kind]
  | storyBattle => simp [members, given, optionalField, field, kind]
  | battle chapter => cases chapter <;> simp [members, given, optionalField, kind]

/-- The trigger that declares every detail of an event. -/
def exactly : GameEvent → Trigger
  | .firstLaunch => firstLaunch
  | .enterScreen screen => enterScreen screen
  | .battleStart chapter battle => battleStart (some chapter) (some battle)
  | .battleEnd result => battleEnd result
  | .battleAction action => battleAction action
  | .storyProgress chapter battle => storyProgress chapter (some battle)
  | .packOpened packType => packOpened (some packType)
  | .achievement id => achievement id
  | .manual id => manual id

/-- The trigger that declares every detail is written as the event is. -/
theorem toJson_exactly (e : GameEvent) : (exactly e).toJson = e.toJson := by
  cases e <;> rfl

/-- **A trigger responds to an event if each member of what is written of it is a member of what is
written of the event.** So it responds to more if it declares less, and what is written like an
event responds to it, which there is for every event. -/
theorem responds_iff_written (t : Trigger) (e : GameEvent) :
    (∃ declared actual, t.toJson.entries? = some declared ∧ e.toJson.entries? = some actual ∧
      (t.responds e = true ↔ ∀ member ∈ declared, member ∈ actual)) ∧
    (∀ t', LeavesOut t t' → t.responds e = true → t'.responds e = true) ∧
    (t.toJson = e.toJson → t.responds e = true) ∧
    (exactly e).toJson = e.toJson := by
  refine ⟨⟨_, _, rfl, rfl, responds_iff_subset t e⟩, fun t' hless hresponds => ?_, fun hsame => ?_,
    toJson_exactly e⟩
  · rw [responds_iff_subset] at hresponds ⊢
    exact List.Subset.trans hless.subset hresponds
  · have hmembers : ("type", Json.string t.kind) :: given t.members =
        ("type", Json.string e.kind) :: given e.members := Json.object.inj hsame
    rw [responds_iff_subset, hmembers]
    exact List.Subset.refl _

/-- A trigger for one battle of a chapter is written like that battle. Less the chapter it responds
to the battle still, since nothing is written of it then that is not written of the battle. -/
theorem responds_at_reef :
    (battleStart (some "reef") (some "third")).toJson =
        (GameEvent.battleStart "reef" "third").toJson ∧
      (battleStart (some "reef") (some "third")).responds (.battleStart "reef" "third") = true ∧
      (battleStart none (some "third")).responds (.battleStart "reef" "third") = true ∧
      ∃ declared actual, (battleStart none (some "third")).toJson.entries? = some declared ∧
        (GameEvent.battleStart "reef" "third").toJson.entries? = some actual ∧
        ∀ member ∈ declared, member ∈ actual := by
  have hsame : (battleStart (some "reef") (some "third")).toJson =
      (GameEvent.battleStart "reef" "third").toJson := rfl
  obtain ⟨-, hless, hexact, -⟩ :=
    responds_iff_written (battleStart (some "reef") (some "third")) (.battleStart "reef" "third")
  have hresponds := hless _ (.chapter "reef" (some "third")) (hexact hsame)
  obtain ⟨⟨declared, actual, hdeclared, hactual, hiff⟩, -⟩ :=
    responds_iff_written (battleStart none (some "third")) (.battleStart "reef" "third")
  exact ⟨hsame, hexact hsame, hresponds, declared, actual, hdeclared, hactual, hiff.mp hresponds⟩

end Trigger

end Cutscene
