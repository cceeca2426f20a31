import Cutscene.Roster
import Mathlib.Data.Set.Card
import Mathlib.Order.Bounds.Basic

/-!
# Rosters Keep the Order of Registration

A roster holds the same information twice: in its list of scenes, and in the index of their places.
The two agree in every roster (`Roster.Indexes`). What remains to be said is what a roster has to do
with what has been done to it. Two things are said of each id from the registrations alone: what was
done last under it (`latest?`), and when it was registered first after it was last taken out
(`EntersAt`).

## Main results

* `Roster.scenes_upsert_of_mem`, `Roster.scenes_upsert_of_not_mem`, `Roster.scenes_remove`: what
  becomes of the list.
* `Roster.get?_upsert`, `Roster.get?_remove`: what becomes of what is looked up.
* `Roster.scenes_after_upserts`: scenes without repeated ids stand as they were registered.
* `Roster.reflects_after`: a roster after any registrations.
-/

namespace Cutscene

/-! ### Registrations -/

/-- Something that is done to a roster. -/
inductive Registration where
  | upsert (scene : Scene)
  | remove (id : String)
deriving DecidableEq

namespace Registration

/-- The id that it is about. -/
def id : Registration → String
  | upsert scene => scene.id
  | remove id => id

end Registration

/-- What was done last under an id. -/
def latest? (past : List Registration) (id : String) : Option Registration :=
  (past.filter (·.id = id)).getLast?

/-- When a scene was registered under an id that has not been taken out since. -/
def entries (past : List Registration) (id : String) : Set Nat :=
  {k | ∃ s : Scene, past[k]? = some (.upsert s) ∧ s.id = id ∧ .remove id ∉ past.drop k}

/-- The id was registered first, since it was last taken out, at this time. -/
def EntersAt (past : List Registration) (id : String) (k : Nat) : Prop :=
  IsLeast (entries past id) k

section Registrations

variable {past : List Registration} {op : Registration} {s : Scene} {id : String} {k : Nat}

/-- What is done now is what was done last under its id, and under no other. -/
theorem latest?_concat (past : List Registration) (op : Registration) (id : String) :
    latest? (past ++ [op]) id = if op.id = id then some op else latest? past id := by
  rw [latest?, List.filter_append, latest?]
  by_cases hid : op.id = id
  · rw [if_pos hid, List.filter_singleton, decide_eq_true hid, cond_true, List.getLast?_concat]
  · rw [if_neg hid, List.filter_singleton, decide_eq_false hid, cond_false, List.append_nil]

/-- A scene was registered at a time that is over. -/
theorem lt_of_mem_entries (h : k ∈ entries past id) : k < past.length := by
  obtain ⟨s, hs, -, -⟩ := h
  exact (List.getElem?_eq_some_iff.mp hs).1

/-- One more registration takes out the entries of its id, or is an entry itself. -/
theorem mem_entries_concat : k ∈ entries (past ++ [op]) id ↔
    (k ∈ entries past id ∧ op ≠ .remove id) ∨
      (k = past.length ∧ ∃ s : Scene, op = .upsert s ∧ s.id = id) := by
  rcases Nat.lt_trichotomy k past.length with hlt | rfl | hgt
  · have hdrop : (past ++ [op]).drop k = past.drop k ++ [op] :=
      List.drop_append_of_le_length hlt.le
    simp only [entries, Set.mem_ofPred_eq, List.getElem?_append_left hlt, hdrop, List.mem_append,
      List.mem_singleton]
    grind
  · have hlast : (past ++ [op])[past.length]? = some op := List.getElem?_concat_length
    have hdrop : (past ++ [op]).drop past.length = [op] := List.drop_left
    simp only [entries, Set.mem_ofPred_eq, hlast, hdrop, List.mem_singleton]
    grind
  · have hnot : k ∉ entries past id := fun h => (lt_of_mem_entries h).not_gt hgt
    have hnot' : k ∉ entries (past ++ [op]) id := fun h => by
      have := lt_of_mem_entries h
      rw [List.length_append, List.length_singleton] at this
      omega
    simp only [hnot, hnot']
    grind

/-- What enters stays where it is, unless it is taken out. -/
theorem EntersAt.concat (h : EntersAt past id k) (hop : op ≠ .remove id) :
    EntersAt (past ++ [op]) id k := by
  refine ⟨mem_entries_concat.mpr (.inl ⟨h.1, hop⟩), fun j hj => ?_⟩
  rcases mem_entries_concat.mp hj with ⟨hj, -⟩ | ⟨rfl, -⟩
  · exact h.2 hj
  · exact (lt_of_mem_entries h.1).le

/-- What has not entered yet enters now. -/
theorem entersAt_length (hnew : entries past s.id = ∅) :
    EntersAt (past ++ [.upsert s]) s.id past.length := by
  refine ⟨mem_entries_concat.mpr (.inr ⟨rfl, s, rfl, rfl⟩), fun j hj => ?_⟩
  rcases mem_entries_concat.mp hj with ⟨hj, -⟩ | ⟨rfl, -⟩
  · rw [hnew] at hj
    exact absurd hj (Set.notMem_empty j)
  · exact le_rfl

end Registrations

/-! ### What becomes of a roster -/

namespace Roster

variable {r : Roster} {s : Scene} {id other : String} {i : Nat}

/-- The index tells where an id stands in the list. -/
theorem place_iff (r : Roster) (id : String) (i : Nat) :
    r.places[id]? = some i ↔ r.ids[i]? = some id :=
  r.indexed id i

/-- No id is there twice. -/
theorem nodup_ids (r : Roster) : r.ids.Nodup := by
  refine List.nodup_iff_getElem?_ne_getElem?.mpr fun i j hij hj hsame => ?_
  have hi := (r.place_iff _ i).mpr (hsame.trans (List.getElem?_eq_getElem hj))
  have hj' := (r.place_iff _ j).mpr (List.getElem?_eq_getElem hj)
  exact hij.ne (Option.some.inj (hi.symm.trans hj'))

/-- The ids that are there are those that have a place. -/
theorem mem_ids_iff (r : Roster) (id : String) :
    id ∈ r.ids ↔ ∃ i : Nat, r.places[id]? = some i := by
  rw [List.mem_iff_getElem?]
  exact exists_congr fun i => (r.place_iff id i).symm

/-- An id that is not there has no place. -/
theorem place_eq_none_iff (r : Roster) (id : String) : r.places[id]? = none ↔ id ∉ r.ids := by
  rw [mem_ids_iff, ← Option.ne_none_iff_exists', not_not]

/-- There is a scene with an id if the id is there. -/
theorem contains_iff (r : Roster) (id : String) : r.contains id = true ↔ id ∈ r.ids := by
  rw [contains, Std.ExtTreeMap.contains_eq_isSome_getElem?, Option.isSome_iff_exists, mem_ids_iff]

/-- A place in the index is one of the list, with a scene under that id. -/
theorem exists_scene_of_place (hid : r.places[id]? = some i) :
    ∃ s, r.scenes[i]? = some s ∧ s.id = id := by
  have hi := (r.place_iff id i).mp hid
  rwa [ids, List.getElem?_map, Option.map_eq_some_iff] at hi

/-- What is looked up is the scene with the id. -/
theorem get?_eq_some_iff : r.get? id = some s ↔ s ∈ r.scenes ∧ s.id = id := by
  rw [get?, Option.bind_eq_some_iff]
  constructor
  · rintro ⟨i, hi, hs⟩
    obtain ⟨t, ht, hid⟩ := exists_scene_of_place hi
    obtain rfl := Option.some.inj (hs.symm.trans ht)
    exact ⟨List.mem_of_getElem? hs, hid⟩
  · rintro ⟨hs, hid⟩
    obtain ⟨i, hi⟩ := List.mem_iff_getElem?.mp hs
    refine ⟨i, (r.place_iff id i).mpr ?_, hi⟩
    rw [ids, List.getElem?_map, hi, Option.map_some, hid]

/-- A scene takes the place of the one with its id. -/
theorem upsert_of_place (hs : r.places[s.id]? = some i) :
    r.upsert s = { r with scenes := r.scenes.set i s, indexed := r.indexed.set hs } := by
  rw [upsert]
  split
  · next j hj =>
    obtain rfl := Option.some.inj (hj.symm.trans hs)
    rfl
  · next hnone =>
    rw [hs] at hnone
    cases hnone

/-- A scene whose id is there takes the place of the one with its id, and nothing moves. -/
theorem upsert_of_mem (hs : s.id ∈ r.ids) :
    (r.upsert s).ids = r.ids ∧ (r.upsert s).places = r.places ∧
      ∀ i : Nat, r.ids[i]? ≠ some s.id → (r.upsert s).scenes[i]? = r.scenes[i]? := by
  obtain ⟨i, hi⟩ := (r.mem_ids_iff s.id).mp hs
  rw [upsert_of_place hi]
  refine ⟨List.ext_getElem? fun j => Option.ext fun id => ?_, rfl, fun j hj => ?_⟩
  · exact ((r.indexed.set hi) id j).symm.trans (r.indexed id j)
  · refine List.getElem?_set_ne ?_
    rintro rfl
    exact hj ((r.place_iff _ _).mp hi)

/-- A scene whose id is not there comes last. -/
theorem scenes_upsert_of_not_mem (hs : s.id ∉ r.ids) :
    (r.upsert s).scenes = r.scenes ++ [s] := by
  rw [upsert]
  split
  · next i hi => exact absurd ((r.mem_ids_iff s.id).mpr ⟨i, hi⟩) hs
  · rfl

/-- A new id comes last. -/
theorem ids_upsert_of_not_mem (hs : s.id ∉ r.ids) : (r.upsert s).ids = r.ids ++ [s.id] := by
  rw [ids, scenes_upsert_of_not_mem hs, List.map_append]
  rfl

/-- After a registration its id is there, and those that were. -/
theorem mem_ids_upsert : id ∈ (r.upsert s).ids ↔ id = s.id ∨ id ∈ r.ids := by
  by_cases hs : s.id ∈ r.ids
  · rw [(upsert_of_mem hs).1]
    exact ⟨.inr, fun h => h.elim (fun heq => heq ▸ hs) fun h => h⟩
  · rw [ids_upsert_of_not_mem hs, List.mem_append, List.mem_singleton, or_comm]

/-- What is looked up after a scene has been registered. -/
theorem get?_upsert (r : Roster) (s : Scene) (id : String) :
    (r.upsert s).get? id = if s.id = id then some s else r.get? id := by
  by_cases hs : s.id ∈ r.ids
  · obtain ⟨i, hi⟩ := (r.mem_ids_iff s.id).mp hs
    rw [upsert_of_place hi, get?, get?]
    dsimp only
    split
    · next heq =>
      have hlt : i < r.scenes.length := by
        obtain ⟨t, ht, -⟩ := exists_scene_of_place hi
        exact (List.getElem?_eq_some_iff.mp ht).1
      rw [← heq, hi, Option.bind_some, List.getElem?_set_self hlt]
    · next hne =>
      refine Option.bind_congr fun j hj => List.getElem?_set_ne fun hij => hne ?_
      subst hij
      exact Option.some.inj (((r.place_iff _ _).mp hi).symm.trans ((r.place_iff _ _).mp hj))
  · refine Option.ext fun t => ?_
    rw [get?_eq_some_iff, scenes_upsert_of_not_mem hs, List.mem_append, List.mem_singleton]
    split
    · next heq =>
      have hnot : ∀ t ∈ r.scenes, t.id ≠ id := fun t ht htid =>
        hs (List.mem_map.mpr ⟨t, ht, htid.trans heq.symm⟩)
      grind
    · next hne =>
      rw [get?_eq_some_iff]
      grind

/-- What stands at one place, and nowhere else, is all that has the id. -/
theorem eraseIdx_eq_filter {scenes : List Scene} (hnodup : (scenes.map Scene.id).Nodup)
    (hi : (scenes.map Scene.id)[i]? = some id) :
    scenes.eraseIdx i = scenes.filter (·.id ≠ id) := by
  induction scenes generalizing i with
  | nil => rfl
  | cons first rest ih =>
    obtain ⟨hfirst, hrest⟩ := List.nodup_cons.mp hnodup
    cases i with
    | zero =>
      obtain rfl : first.id = id := by simpa using hi
      have hstays : rest.filter (·.id ≠ first.id) = rest :=
        List.filter_eq_self.mpr fun s hs => decide_eq_true fun heq =>
          hfirst (heq ▸ List.mem_map_of_mem hs)
      rw [List.eraseIdx_cons_zero, List.filter_cons_of_neg (by simp), hstays]
    | succ i =>
      have hi' : (rest.map Scene.id)[i]? = some id := by simpa using hi
      have hne : first.id ≠ id := fun heq => hfirst (heq ▸ List.mem_of_getElem? hi')
      rw [List.eraseIdx_cons_succ, List.filter_cons_of_pos (by simpa using hne),
        ih hrest hi']

/-- All but the scene with the id remain, in their order. -/
theorem scenes_remove (r : Roster) (id : String) :
    (r.remove id).scenes = r.scenes.filter (·.id ≠ id) := by
  rw [remove]
  split
  · next i hi => exact eraseIdx_eq_filter r.nodup_ids ((r.place_iff id i).mp hi)
  · next hnone =>
    refine (List.filter_eq_self.mpr fun s hs => ?_).symm
    have hid := (r.place_eq_none_iff id).mp hnone
    exact decide_eq_true fun heq => hid (heq ▸ List.mem_map_of_mem hs)

/-- An id that is taken out leaves the others in their order. -/
theorem ids_remove (r : Roster) (id : String) : (r.remove id).ids = r.ids.filter (· ≠ id) := by
  rw [ids, scenes_remove, ids, List.filter_map]
  rfl

/-- What is looked up after a scene has been taken out. -/
theorem get?_remove (r : Roster) (id other : String) :
    (r.remove id).get? other = if id = other then none else r.get? other := by
  refine Option.ext fun s => ?_
  rw [get?_eq_some_iff, scenes_remove, List.mem_filter, decide_eq_true_eq]
  split
  · next heq => simp [heq]
  · next hne =>
    rw [get?_eq_some_iff]
    grind

/-! ### What has been done to a roster -/

/-- What a registration makes of a roster, and whether there was a scene with its id. -/
def apply (r : Roster) : Registration → Bool × Roster
  | .upsert s => (r.contains s.id, r.upsert s)
  | .remove id => (r.contains id, r.remove id)

/-- The roster after some registrations, one after the other. -/
def after (past : List Registration) : Roster := past.foldl (fun r op => (r.apply op).2) .empty

variable {past : List Registration}

/-- Registrations are made one after the other. -/
theorem after_concat (past : List Registration) (op : Registration) :
    after (past ++ [op]) = ((after past).apply op).2 := by
  rw [after, List.foldl_append]
  rfl

/-- **What is looked up is what was registered last**, if it has not been taken out since. -/
theorem get?_after (past : List Registration) (id : String) :
    (after past).get? id = some s ↔ latest? past id = some (.upsert s) := by
  induction past using List.reverseRecOn with
  | nil => simp [after, empty, get?, latest?]
  | append_singleton past op ih =>
      rw [after_concat, latest?_concat]
      cases op with
      | upsert t =>
          change (((after past).upsert t).get? id = some s) ↔ _
          rw [get?_upsert]
          by_cases heq : t.id = id
          · simp [heq, Registration.id]
          · simpa [heq, Registration.id] using ih
      | remove other =>
          change (((after past).remove other).get? id = some s) ↔ _
          rw [get?_remove]
          by_cases heq : other = id
          · simp [heq, Registration.id]
          · simpa [heq, Registration.id] using ih

/-- The ids that are there are those that have entered. -/
theorem mem_ids_after_iff (past : List Registration) (id : String) :
    id ∈ (after past).ids ↔ (entries past id).Nonempty := by
  induction past using List.reverseRecOn with
  | nil => simp [after, empty, ids, Set.Nonempty, entries]
  | append_singleton past op ih =>
      rw [after_concat]
      simp only [Set.Nonempty, mem_entries_concat] at ih ⊢
      cases op with
      | upsert s =>
          change id ∈ ((after past).upsert s).ids ↔ _
          rw [mem_ids_upsert, ih]
          constructor
          · rintro (rfl | ⟨k, hk⟩)
            · exact ⟨past.length, .inr ⟨rfl, s, rfl, rfl⟩⟩
            · exact ⟨k, .inl ⟨hk, Registration.noConfusion⟩⟩
          · rintro ⟨k, ⟨hk, -⟩ | ⟨-, t, heq, rfl⟩⟩
            · exact .inr ⟨k, hk⟩
            · exact .inl (congrArg Scene.id (Registration.upsert.inj heq).symm)
      | remove other =>
          change id ∈ ((after past).remove other).ids ↔ _
          rw [ids_remove, List.mem_filter, decide_eq_true_eq, ih]
          constructor
          · rintro ⟨⟨k, hk⟩, hne⟩
            exact ⟨k, .inl ⟨hk, fun heq => hne (Registration.remove.inj heq).symm⟩⟩
          · rintro ⟨k, ⟨hk, hne⟩ | ⟨-, s, ⟨⟩, -⟩⟩
            exact ⟨⟨k, hk⟩, fun heq => hne (congrArg _ heq.symm)⟩

/-- What is there has entered at some time. -/
theorem exists_entersAt (hid : id ∈ (after past).ids) : ∃ k, EntersAt past id k := by
  obtain ⟨k, hk, hleast⟩ :=
    wellFounded_lt.has_min (entries past id) ((mem_ids_after_iff past id).mp hid)
  exact ⟨k, hk, fun j hj => not_lt.mp (hleast j hj)⟩

/-- **The ids stand in the order in which they have entered.** -/
theorem sorted_after (past : List Registration) : (after past).ids.Pairwise fun a b =>
    ∃ i j, EntersAt past a i ∧ EntersAt past b j ∧ i < j := by
  induction past using List.reverseRecOn with
  | nil => exact .nil
  | append_singleton past op ih =>
      rw [after_concat]
      cases op with
      | upsert s =>
          change ((after past).upsert s).ids.Pairwise _
          -- What has been there keeps its place, and a new id comes behind all others.
          have hstay : (after past).ids.Pairwise fun a b => ∃ i j,
              EntersAt (past ++ [.upsert s]) a i ∧ EntersAt (past ++ [.upsert s]) b j ∧ i < j :=
            ih.imp fun ⟨i, j, ha, hb, hlt⟩ => ⟨i, j, ha.concat Registration.noConfusion,
              hb.concat Registration.noConfusion, hlt⟩
          by_cases hs : s.id ∈ (after past).ids
          · rw [(upsert_of_mem hs).1]
            exact hstay
          · rw [ids_upsert_of_not_mem hs, List.pairwise_append]
            refine ⟨hstay, List.pairwise_singleton _ _, fun a ha b hb => ?_⟩
            obtain rfl := List.mem_singleton.mp hb
            obtain ⟨i, hi⟩ := exists_entersAt ha
            have hnew : entries past s.id = ∅ :=
              Set.not_nonempty_iff_eq_empty.mp fun h => hs ((mem_ids_after_iff past s.id).mpr h)
            exact ⟨i, past.length, hi.concat Registration.noConfusion, entersAt_length hnew,
              lt_of_mem_entries hi.1⟩
      | remove id =>
          change ((after past).remove id).ids.Pairwise _
          rw [ids_remove]
          refine (ih.filter _).imp_of_mem fun {a b} ha hb => ?_
          rintro ⟨i, j, hi, hj, hlt⟩
          -- An id that is left has not been removed by this.
          have hne : ∀ c ∈ (after past).ids.filter (· ≠ id),
              (.remove id : Registration) ≠ .remove c := fun c hc heq =>
            (of_decide_eq_true (List.mem_filter.mp hc).2) (Registration.remove.inj heq).symm
          exact ⟨i, j, hi.concat (hne a ha), hj.concat (hne b hb), hlt⟩

/-- Scenes without repeated ids stand in a roster as they were registered. -/
theorem scenes_after_upserts {scenes : List Scene} (hnodup : (scenes.map Scene.id).Nodup) :
    (after (scenes.map .upsert)).scenes = scenes := by
  induction scenes using List.reverseRecOn with
  | nil => rfl
  | append_singleton scenes s ih =>
      rw [List.map_append, List.nodup_append] at hnodup
      have hscenes := ih hnodup.1
      have hnew : s.id ∉ (after (scenes.map .upsert)).ids := by
        rw [ids, hscenes]
        exact fun hmem => hnodup.2.2 _ hmem s.id List.mem_cons_self rfl
      rw [List.map_append, List.map_singleton, after_concat]
      exact (scenes_upsert_of_not_mem hnew).trans (by rw [hscenes])

/-- None of them takes the place of another. -/
theorem apply_after_upserts {before rest : List Scene}
    (hnodup : ((before ++ s :: rest).map Scene.id).Nodup) :
    ((after (before.map .upsert)).apply (.upsert s)).1 = false := by
  rw [List.map_append, List.nodup_append] at hnodup
  refine Bool.eq_false_iff.mpr fun hthere => ?_
  have hmem := (contains_iff _ _).mp hthere
  rw [ids, scenes_after_upserts hnodup.1] at hmem
  exact hnodup.2.2 _ hmem s.id List.mem_cons_self rfl

/-! ### Rosters after any registrations -/

/-- **What there is to say of a roster after some registrations**, and of what is done to it
next. -/
structure Reflects (past : List Registration) (r : Roster) : Prop where
  /-- No id is there twice. -/
  nodup : r.ids.Nodup
  /-- The index tells of each id where it stands, and of other ids nothing. -/
  place_eq : ∀ (id : String) (i : Nat), r.places[id]? = some i ↔ r.ids[i]? = some id
  /-- So every place in the index is one of the list. -/
  place_lt : ∀ (id : String) (i : Nat), r.places[id]? = some i → i < r.scenes.length
  /-- What is looked up is what was registered last, if it has not been taken out since. -/
  lookup : ∀ id s, r.get? id = some s ↔ latest? past id = some (.upsert s)
  /-- The ids that are there are those that have entered. -/
  mem_iff : ∀ id, id ∈ r.ids ↔ ∃ k, EntersAt past id k
  /-- They stand in the order in which they have entered. -/
  sorted : r.ids.Pairwise fun a b => ∃ i j, EntersAt past a i ∧ EntersAt past b j ∧ i < j
  /-- There are as many scenes as ids under which a scene was registered last. -/
  length_eq : r.scenes.length = {id | ∃ s, latest? past id = some (.upsert s)}.ncard
  /-- What is answered to a registration is whether a scene was there under the id. -/
  answer_iff : ∀ op, (r.apply op).1 = true ↔ ∃ s, latest? past op.id = some (.upsert s)
  /-- A scene that takes the place of another changes no other entry and no place. -/
  replaces : ∀ s, (r.apply (.upsert s)).1 = true → (r.upsert s).ids = r.ids ∧
    (r.upsert s).places = r.places ∧
    ∀ i : Nat, r.ids[i]? ≠ some s.id → (r.upsert s).scenes[i]? = r.scenes[i]?
  /-- Any other scene comes last. -/
  appends : ∀ s, (r.apply (.upsert s)).1 = false → (r.upsert s).scenes = r.scenes ++ [s]
  /-- What is taken out leaves all others in their order. -/
  removes : ∀ id, (r.remove id).scenes = r.scenes.filter (·.id ≠ id)
  /-- They are looked up as before. -/
  keeps : ∀ id other, other ≠ id → (r.remove id).get? other = r.get? other

/-- There is a scene under an id exactly if one was registered under it last. -/
theorem mem_ids_after_iff_latest? (past : List Registration) (id : String) :
    id ∈ (after past).ids ↔ ∃ s, latest? past id = some (.upsert s) := by
  rw [ids, List.mem_map]
  exact exists_congr fun s => get?_eq_some_iff.symm.trans (get?_after past id)

/-- The ids that are there are as many as the scenes. -/
theorem length_scenes_eq_ncard (r : Roster) : r.scenes.length = {id | id ∈ r.ids}.ncard := by
  have hset : {id | id ∈ r.ids} = ↑r.ids.toFinset := by ext; simp
  rw [hset, Set.ncard_coe_finset, List.toFinset_card_of_nodup r.nodup_ids, ids, List.length_map]

/-- **A roster keeps the order of registration**, whatever has been done to it. -/
theorem reflects_after (past : List Registration) : Reflects past (after past) where
  nodup := nodup_ids _
  place_eq := place_iff _
  place_lt id i hi := by
    obtain ⟨s, hs, -⟩ := exists_scene_of_place hi
    exact (List.getElem?_eq_some_iff.mp hs).1
  lookup id s := get?_after past id
  mem_iff id := ⟨exists_entersAt, fun ⟨k, hk⟩ => (mem_ids_after_iff past id).mpr ⟨k, hk.1⟩⟩
  sorted := sorted_after past
  length_eq := by
    simp only [length_scenes_eq_ncard, mem_ids_after_iff_latest?]
  answer_iff op := by
    rw [← mem_ids_after_iff_latest?, ← contains_iff]
    cases op <;> rfl
  replaces s hs := upsert_of_mem ((contains_iff _ _).mp hs)
  appends s hs := scenes_upsert_of_not_mem fun hmem => by
    have hthere : ((after past).apply (.upsert s)).1 = true := (contains_iff _ _).mpr hmem
    rw [hs] at hthere
    cases hthere
  removes := scenes_remove _
  keeps id other hne := by rw [get?_remove, if_neg hne.symm]

end Roster

end Cutscene
