import Cutscene.Proofs.Store.Atomicity
import Mathlib.Data.List.TakeWhile

/-!
# Whose Record It Is

A user goes by an id, blanks around which do not count. Who has no id, or a blank one, shares the
record of the nameless with all others who have none. That record has a name like any other's, and
no id is kept from being the same: who goes by `anonymous` is taken for nameless
(`Namespace.Nameless`). Beyond that no two users share a record, and so nothing that is saved for
the one is ever loaded for the other.

## Main results

* `Blank.trim_eq_empty_iff`: nothing is left of a text exactly if it is blank.
* `Namespace.ofUser?_eq_iff`: which users have the same namespace.
* `FileStore.shares_record_iff`: exactly those share a record, and are loaded what is saved for one
  of them.
* `FileStore.recordPath_anonymous`: an id that is not blank, but shares the record of the nameless.
-/

namespace Cutscene

/-! ### Blank texts -/

namespace Blank

/-- Nothing is left of a row of blanks only. -/
theorem trimChars_eq_nil_iff (chars : List Char) :
    trimChars chars = [] ↔ chars.all isBlank = true := by
  rw [trimChars, List.reverse_eq_nil_iff, List.dropWhile_eq_nil_iff]
  constructor
  · intro h
    have hnone : chars.dropWhile isBlank = [] := by
      cases hrest : chars.dropWhile isBlank with
      | nil => rfl
      | cons c rest =>
          have hfirst := head?_dropWhile_isBlank chars c (by rw [hrest]; rfl)
          rw [h c (by rw [hrest]; simp)] at hfirst
          cases hfirst
    exact List.all_eq_true.mpr (List.dropWhile_eq_nil_iff.mp hnone)
  · intro h c hc
    rw [List.dropWhile_eq_nil_iff.mpr (List.all_eq_true.mp h)] at hc
    cases hc

/-- **Nothing is left of a text exactly if it is blank.** -/
theorem trim_eq_empty_iff (s : String) : trim s = "" ↔ isAllBlank s = true := by
  have hempty : String.ofList (trimChars s.toList) = String.ofList [] ↔
      trimChars s.toList = [] := String.ofList_inj
  rw [isAllBlank, ← trimChars_eq_nil_iff, ← hempty]
  rfl

end Blank

/-! ### Users -/

namespace Namespace

/-- The user is not known, or is taken for one who is not: the id is missing or blank, or it is the
name under which the record of unknown users is kept. -/
inductive Nameless : Option String → Prop
  | absent : Nameless none
  | blank {id : String} (hid : Blank.isAllBlank id = true) : Nameless (some id)
  | byName {id : String} (hid : Blank.trim id = anonymous.key) : Nameless (some id)

/-- The users are one and the same, as far as can be told from their ids: both are nameless, or
their ids are not blank and differ only in the blanks around them. -/
inductive SameUser : Option String → Option String → Prop
  | nameless {u v : Option String} (hu : Nameless u) (hv : Nameless v) : SameUser u v
  | known {a b : String} (ha : Blank.isAllBlank a = false) (hb : Blank.isAllBlank b = false)
      (hab : Blank.trim a = Blank.trim b) : SameUser (some a) (some b)

/-- A user with an id goes by it. -/
theorem ofUser?_some (id : String) : ofUser? (some id) = ofUser id := rfl

/-- A blank id is none. -/
theorem ofUser_of_isAllBlank {id : String} (hid : Blank.isAllBlank id = true) :
    ofUser id = anonymous := by
  rw [ofUser, if_pos ((Blank.trim_eq_empty_iff id).mpr hid)]

/-- Any other id counts without the blanks around it. -/
theorem ofUser_of_not_isAllBlank {id : String} (hid : Blank.isAllBlank id = false) :
    ofUser id = ⟨Blank.trim id⟩ := by
  refine if_neg fun h => ?_
  rw [(Blank.trim_eq_empty_iff id).mp h] at hid
  cases hid

/-- Exactly the nameless have the namespace of unknown users. -/
theorem ofUser?_eq_anonymous_iff (u : Option String) : ofUser? u = anonymous ↔ Nameless u := by
  constructor
  · intro h
    cases u with
    | none => exact .absent
    | some id =>
        cases hid : Blank.isAllBlank id with
        | true => exact .blank hid
        | false =>
            rw [ofUser?_some, ofUser_of_not_isAllBlank hid] at h
            exact .byName (congrArg key h)
  · rintro (_ | hid | hid)
    · rfl
    · rw [ofUser?_some, ofUser_of_isAllBlank hid]
    · rw [ofUser?_some, ofUser, hid]
      rfl

/-- **Which users have the same namespace.** -/
theorem ofUser?_eq_iff (u v : Option String) : ofUser? u = ofUser? v ↔ SameUser u v := by
  constructor
  · intro h
    by_cases hu : Nameless u
    · refine .nameless hu ((ofUser?_eq_anonymous_iff v).mp ?_)
      rw [← h]
      exact (ofUser?_eq_anonymous_iff u).mpr hu
    · have hv : ¬ Nameless v := fun hv =>
        hu ((ofUser?_eq_anonymous_iff u).mp (h.trans ((ofUser?_eq_anonymous_iff v).mpr hv)))
      cases u with
      | none => exact absurd .absent hu
      | some a =>
          cases v with
          | none => exact absurd .absent hv
          | some b =>
              have ha : Blank.isAllBlank a = false := Bool.eq_false_iff.mpr fun ha => hu (.blank ha)
              have hb : Blank.isAllBlank b = false := Bool.eq_false_iff.mpr fun hb => hv (.blank hb)
              rw [ofUser?_some, ofUser?_some, ofUser_of_not_isAllBlank ha,
                ofUser_of_not_isAllBlank hb] at h
              exact .known ha hb (congrArg key h)
  · rintro (⟨hu, hv⟩ | ⟨ha, hb, hab⟩)
    · rw [(ofUser?_eq_anonymous_iff u).mpr hu, (ofUser?_eq_anonymous_iff v).mpr hv]
    · rw [ofUser?_some, ofUser?_some, ofUser_of_not_isAllBlank ha, ofUser_of_not_isAllBlank hb, hab]

end Namespace

/-! ### Records -/

/-- The path of a name in a directory tells the name. -/
theorem Path.join_right_injective (directory : String) : Function.Injective (join directory) := by
  intro m n h
  rw [join, join] at h
  split at h <;> exact (String.append_right_inj _).mp h

namespace FileStore

open Namespace

/-- **Who shares a record.** Two users have their records at the same path exactly if they are the
same user, or both nameless. And whatever becomes of a save for any other user, wherever it ends,
what is loaded for a user is what was loaded before. -/
theorem shares_record_iff (s : FileStore) (u v : Option String) :
    (s.recordPath (ofUser? u) = s.recordPath (ofUser? v) ↔ SameUser u v) ∧
    ∀ (p : Progress) (folder : Folder) left answer folder', ¬ SameUser u v →
      SaveStep.MayEnd s.root folder (saveSteps (ofUser? u) p) left answer folder' →
        s.LoadsAlike folder folder' (ofUser? v) := by
  constructor
  · rw [← ofUser?_eq_iff]
    exact ((Path.join_right_injective s.root).comp recordName_injective).eq_iff
  · intro p folder left answer folder' hother h
    have hne : ofUser? v ≠ ofUser? u := fun heq => hother ((ofUser?_eq_iff u v).mp heq.symm)
    exact loadsAlike_of_readsAlike s ((read_of_mayEnd h).1 _
      (stagingName_ne_recordName _ _).symm (recordName_injective.ne hne))

/-- Ada shares her record with nobody but herself, and not with the nameless: what is saved for them
is not loaded for her. -/
theorem shares_record_ada :
    saves.recordPath (ofUser? (some "ada")) = saves.recordPath (ofUser? (some "\tada ")) ∧
    saves.recordPath (ofUser? none) ≠ saves.recordPath (ofUser? (some "ada")) ∧
    ¬ SameUser none (some "ada") ∧
    ∃ left, SaveStep.MayEnd saves.root (Folder.directory ∅) (saveSteps (ofUser? none) venture) left
        (some (saves.save (ofUser? none) venture (Folder.directory ∅)).1)
        (saves.save (ofUser? none) venture (Folder.directory ∅)).2 ∧
      saves.LoadsAlike (Folder.directory ∅)
        (saves.save (ofUser? none) venture (Folder.directory ∅)).2 (ofUser? (some "ada")) := by
  have hsame : SameUser (some "ada") (some "\tada ") :=
    .known (by decide +kernel) (by decide +kernel) (by decide +kernel)
  have hother : ¬ SameUser none (some "ada") := by
    rw [← ofUser?_eq_iff]
    decide +kernel
  obtain ⟨left, hend⟩ := SaveStep.mayEnd_runAll saves.root (Folder.directory ∅)
    (saveSteps (ofUser? none) venture)
  exact ⟨(shares_record_iff saves (some "ada") (some "\tada ")).1.mpr hsame,
    fun h => hother ((shares_record_iff saves none (some "ada")).1.mp h), hother, left, hend,
    (shares_record_iff saves none (some "ada")).2 _ _ _ _ _ hother hend⟩

/-- **An id that is not blank, but shares the record of the nameless.** -/
theorem recordPath_anonymous :
    Blank.isAllBlank "anonymous" = false ∧
      saves.recordPath (ofUser? (some "anonymous")) = saves.recordPath (ofUser? none) :=
  ⟨by decide +kernel, by decide +kernel⟩

end FileStore

end Cutscene
