import Cutscene.Catalog
import Cutscene.Proofs.Roster
import Cutscene.Proofs.Scene

/-!
# Catalogs Are Sifted Once

Of several scenes with one id a catalog keeps the first, where a roster keeps the last. The two
agree on what a catalog has kept: no scene takes the place of another when they are registered, and
nothing more is left out when they are written and sifted again.

What a sift makes of a scene depends on the scenes before it only by their ids. So a list is looked
at scene by scene, each with whether its id has come before (`Catalog.marked`), and what is kept and
what is noted are read off one scene at a time.

## Main results

* `CatalogNote.message_eq_iff`: the words for a repeated id are never those for a finding.
* `Catalog.sift_eq`: what is kept of a list, and what is noted.
* `Catalog.report_of_nodup`: where no id is repeated, everything is kept.
* `Catalog.settled_of_read?`: the scenes of a catalog can be written, and are read as what they
  were.
* `Catalog.sifts_once`: what there is to say of a catalog that was read from a text.
-/

namespace Cutscene

/-! ### Notes in words -/

namespace CatalogNote

variable {note : CatalogNote} {id : String}

/-- Whether a note is about an id that has come before. -/
def isDuplicate : CatalogNote → Bool
  | finding _ _ => false
  | duplicateScene _ => true

/-- The words for a repeated id. -/
theorem message_duplicateScene (id : String) : (duplicateScene id).message =
    "authoring error in scene " ++ id ++ ": duplicate scene id, skipped" := by
  have hskipped : ": " ++ "duplicate scene id, skipped" = ": duplicate scene id, skipped" := by
    decide +kernel
  rw [← hskipped, ← String.append_assoc]
  rfl

/-- A text that is put behind another one determines how both end. -/
theorem getLast?_append {front back : String} {c : Char} (h : back.toList.getLast? = some c) :
    (front ++ back).toList.getLast? = some c := by
  rw [String.toList_append, List.getLast?_append, h, Option.some_or]

/-- The words for a repeated id end in `skipped`, and those for a finding end in a quote or in a
plural. -/
theorem message_finding_ne (scene : String) (found : Finding) :
    (finding scene found).message ≠ (duplicateScene id).message := by
  have hskipped : (duplicateScene id).message.toList.getLast? = some 'd' :=
    getLast?_append rfl
  have hfound : ∃ c, (finding scene found).message.toList.getLast? = some c ∧ c ≠ 'd' := by
    cases found with
    | duplicateLabel name => exact ⟨_, getLast?_append (getLast?_append rfl), by decide⟩
    | undefinedLabel index kind target =>
        exact ⟨_, getLast?_append (getLast?_append rfl), by decide⟩
    | emptyChoice index => exact ⟨_, getLast?_append (getLast?_append rfl), by decide⟩
    | noTriggers => exact ⟨_, getLast?_append rfl, by decide⟩
  obtain ⟨c, hlast, hne⟩ := hfound
  intro heq
  rw [heq, hskipped] at hlast
  exact hne (Option.some.inj hlast).symm

/-- **The words for a repeated id are those of no other note.** -/
theorem message_eq_iff : note.message = (duplicateScene id).message ↔ note = duplicateScene id := by
  cases note with
  | finding scene found => exact iff_of_false (message_finding_ne scene found) nofun
  | duplicateScene scene =>
      rw [message_duplicateScene, message_duplicateScene, duplicateScene.injEq,
        ← String.toList_inj, ← String.toList_inj]
      simp only [String.toList_append, List.append_cancel_left_eq, List.append_cancel_right_eq]

/-- So it can be told from its words that a note is about a repeated id. -/
theorem exists_message_eq_iff :
    (∃ id, note.message = (duplicateScene id).message) ↔ note.isDuplicate = true := by
  simp only [message_eq_iff]
  cases note <;> simp [isDuplicate]

end CatalogNote

namespace Catalog

open Json

variable {scenes before : List Scene} {s : Scene}

/-! ### Scenes whose ids have come before -/

/-- Each scene of a list, with whether its id is that of an earlier one. Those in `before` are
earlier than all of them. -/
def marked (before scenes : List Scene) : List (Scene × Bool) :=
  scenes.mapIdx fun i s => (s, decide (s.id ∈ (before ++ scenes.take i).map Scene.id))

/-- The scene, if it counts. -/
def kept? : Scene × Bool → Option Scene
  | (s, again) => if again then none else some s

/-- What is noted about it. -/
def notes : Scene × Bool → List CatalogNote
  | (s, again) => if again then [.duplicateScene s.id] else s.lint.map (.finding s.id)

/-- What is noted about it, in words. -/
def lines : Scene × Bool → List String
  | (s, again) =>
    if again then ["authoring error in scene " ++ s.id ++ ": duplicate scene id, skipped"]
    else s.lint.map fun found => s.id ++ ": " ++ found.message

/-- The first scene is marked by those before, and the others by those and it. -/
theorem marked_cons (before scenes : List Scene) (s : Scene) :
    marked before (s :: scenes) =
      (s, decide (s.id ∈ before.map Scene.id)) :: marked (before ++ [s]) scenes := by
  simp [marked, List.mapIdx_cons]

/-- The words of the notes on a scene are its lines. -/
theorem map_message_notes (m : Scene × Bool) : (notes m).map CatalogNote.message = lines m := by
  obtain ⟨s, _ | _⟩ := m
  · exact List.map_map
  · exact congrArg (fun line => [line]) (CatalogNote.message_duplicateScene s.id)

/-! ### What has been seen -/

/-- What has been seen is the ids of the scenes before. -/
def Remembers (seen : NameSet) (before : List Scene) : Prop :=
  ∀ id, seen.contains id = true ↔ id ∈ before.map Scene.id

namespace Remembers

variable {seen : NameSet}

/-- Before the first scene nothing has been seen. -/
theorem empty : Remembers ∅ [] := fun id => by simp

/-- A repeated id adds nothing. -/
theorem again (h : Remembers seen before) (hs : s.id ∈ before.map Scene.id) :
    Remembers seen (before ++ [s]) := by
  intro id
  rw [h id, List.map_append, List.mem_append, List.map_singleton, List.mem_singleton]
  constructor
  · exact .inl
  · rintro (hmem | rfl)
    · exact hmem
    · exact hs

/-- A scene that has been looked at is remembered. -/
theorem insert (h : Remembers seen before) (s : Scene) :
    Remembers (seen.insert s.id) (before ++ [s]) := by
  intro id
  rw [Std.ExtTreeSet.contains_insert, Bool.or_eq_true, h id, List.map_append, List.mem_append,
    List.map_singleton, List.mem_singleton, beq_iff_eq, Std.LawfulEqCmp.compare_eq_iff_eq,
    or_comm, eq_comm]

end Remembers

/-- **What is kept of a list, and what is noted.** -/
theorem sift_eq {seen : NameSet} (hseen : Remembers seen before) :
    sift seen scenes =
      ⟨(marked before scenes).filterMap kept?, (marked before scenes).flatMap notes⟩ := by
  induction scenes generalizing seen before with
  | nil => rfl
  | cons s rest ih =>
      rw [marked_cons, sift]
      by_cases hs : s.id ∈ before.map Scene.id
      · rw [if_pos ((hseen s.id).mpr hs), ih (hseen.again hs), decide_eq_true hs]
        rfl
      · rw [if_neg (mt (hseen s.id).mp hs), ih (hseen.insert s), decide_eq_false hs]
        rfl

/-- A report is made of what is kept and what is noted of each scene. -/
theorem report_eq (scenes : List Scene) :
    report scenes = ⟨(marked [] scenes).filterMap kept?, (marked [] scenes).flatMap notes⟩ :=
  sift_eq .empty

/-! ### What is kept -/

/-- What is kept stands in the list. -/
theorem mem_of_kept (hs : s ∈ (marked before scenes).filterMap kept?) : s ∈ scenes := by
  obtain ⟨⟨t, again⟩, hm, hkept⟩ := List.mem_filterMap.mp hs
  obtain ⟨i, hi, heq⟩ := List.mem_mapIdx.mp hm
  cases heq
  obtain ⟨-, hkept⟩ := Option.ite_none_left_eq_some.mp hkept
  cases hkept
  exact List.getElem_mem hi

/-- Nothing is kept whose id has come before. -/
theorem id_not_mem_of_kept (hs : s ∈ (marked before scenes).filterMap kept?) :
    s.id ∉ before.map Scene.id := by
  induction scenes generalizing before with
  | nil => cases hs
  | cons first rest ih =>
      rw [marked_cons] at hs
      have hlater (h : s ∈ (marked (before ++ [first]) rest).filterMap kept?) :
          s.id ∉ before.map Scene.id := fun hmem =>
        ih h (by rw [List.map_append]; exact List.mem_append_left _ hmem)
      by_cases hfirst : first.id ∈ before.map Scene.id
      · rw [decide_eq_true hfirst] at hs
        exact hlater hs
      · rw [decide_eq_false hfirst] at hs
        rcases List.mem_cons.mp hs with rfl | hs
        · exact hfirst
        · exact hlater hs

/-- **No id is kept twice.** -/
theorem nodup_kept (before scenes : List Scene) :
    (((marked before scenes).filterMap kept?).map Scene.id).Nodup := by
  induction scenes generalizing before with
  | nil => exact .nil
  | cons first rest ih =>
      rw [marked_cons]
      cases decide (first.id ∈ before.map Scene.id) with
      | true => exact ih (before ++ [first])
      | false =>
          refine List.nodup_cons.mpr ⟨fun hmem => ?_, ih (before ++ [first])⟩
          obtain ⟨s, hs, heq⟩ := List.mem_map.mp hmem
          exact id_not_mem_of_kept hs (by simp [heq])

/-- There is one note on a repeated id for each scene that is not kept. -/
theorem countP_notes (ms : List (Scene × Bool)) :
    (ms.flatMap notes).countP CatalogNote.isDuplicate + (ms.filterMap kept?).length =
      ms.length := by
  induction ms with
  | nil => rfl
  | cons m ms ih =>
      obtain ⟨s, _ | _⟩ := m
      · have hfindings : (s.lint.map (CatalogNote.finding s.id)).countP CatalogNote.isDuplicate =
            0 := by
          simp [List.countP_eq_zero, CatalogNote.isDuplicate]
        simp only [List.flatMap_cons, notes, kept?, List.filterMap_cons, List.countP_append,
          List.length_cons, Bool.false_eq_true, if_false, hfindings]
        omega
      · simp only [List.flatMap_cons, notes, kept?, List.filterMap_cons, List.countP_append,
          List.length_cons, if_true, List.countP_singleton, CatalogNote.isDuplicate]
        omega

/-- Without the notes on repeated ids, there remain the findings in what is kept. -/
theorem filter_notes (ms : List (Scene × Bool)) :
    (ms.flatMap notes).filter (fun note => !note.isDuplicate) =
      (ms.filterMap kept?).flatMap fun s => s.lint.map (.finding s.id) := by
  induction ms with
  | nil => rfl
  | cons m ms ih =>
      obtain ⟨s, _ | _⟩ := m
      · have hfindings : (s.lint.map (CatalogNote.finding s.id)).filter
            (fun note => !note.isDuplicate) = s.lint.map (.finding s.id) := by
          simp [List.filter_eq_self, CatalogNote.isDuplicate]
        rw [List.flatMap_cons, List.filter_append, ih]
        simp only [notes, kept?, List.filterMap_cons, List.flatMap_cons, Bool.false_eq_true,
          if_false, hfindings]
      · rw [List.flatMap_cons, List.filter_append, ih]
        rfl

/-- In a list without repeated ids, no id has come before. -/
theorem marked_of_nodup (hnodup : (scenes.map Scene.id).Nodup)
    (hbefore : ∀ s ∈ scenes, s.id ∉ before.map Scene.id) :
    marked before scenes = scenes.map fun s => (s, false) := by
  induction scenes generalizing before with
  | nil => rfl
  | cons first rest ih =>
      obtain ⟨hfirst, hrest⟩ := List.nodup_cons.mp hnodup
      have hnext : ∀ s ∈ rest, s.id ∉ (before ++ [first]).map Scene.id := by
        intro s hs
        rw [List.map_append, List.mem_append, not_or]
        refine ⟨hbefore s (List.mem_cons_of_mem _ hs), fun heq => hfirst ?_⟩
        rw [List.map_singleton, List.mem_singleton] at heq
        exact heq ▸ List.mem_map_of_mem hs
      rw [marked_cons, decide_eq_false (hbefore first List.mem_cons_self), ih hrest hnext]
      rfl

/-- **Where no id is repeated, everything is kept.** -/
theorem report_of_nodup (hnodup : (scenes.map Scene.id).Nodup) :
    report scenes = ⟨scenes, scenes.flatMap fun s => s.lint.map (.finding s.id)⟩ := by
  rw [report_eq, marked_of_nodup hnodup fun _ _ => List.not_mem_nil]
  simp [List.filterMap_map, List.flatMap_map, Function.comp_def, kept?, notes]

/-! ### Catalogs in JSON -/

/-- The scenes of a catalog that has been read can be written, and are read as what they were. -/
theorem settled_of_read? {room : Nat} {j : Json} (hj : j.Legal (room + 8))
    (h : read? j = some scenes) :
    ∀ s ∈ scenes, s.toJson.Legible (room + 6) ∧ Scene.read? s.toJson = some s := by
  obtain ⟨fields, hfields, h⟩ := Option.bind_eq_some_iff.mp h
  intro s hs
  rcases Document.exists_of_defaulted h with rfl | ⟨field, hmem, hread⟩
  · cases hs
  · obtain ⟨item, hitem, hread⟩ := Document.exists_of_list? hread s hs
    exact Scene.settles item s ((hj.part (partOf_of_fields? hfields hmem)).part hitem) hread

/-- A catalog can be written if its scenes can be. -/
theorem legible_toJson {room : Nat} (h : ∀ s ∈ scenes, s.toJson.Legible (room + 6)) :
    (toJson scenes).Legible (room + 8) :=
  .object (by simpa using Legible.map h)

/-- What is written of a catalog is read as the catalog, if its scenes are. -/
theorem read?_toJson (h : ∀ s ∈ scenes, Scene.read? s.toJson = some s) :
    read? (toJson scenes) = some scenes := by
  change Document.list? Scene.read? (Json.array (scenes.map Scene.toJson)) = some scenes
  exact Document.list?_map h

/-! ### What there is to say of a catalog -/

/-- **What there is to say of the report on some scenes.** -/
structure Sifts (scenes : List Scene) (r : CatalogReport) : Prop where
  /-- The first scene with each id is kept, and they keep their order. -/
  keeps : r.scenes = (marked [] scenes).filterMap kept?
  /-- In the order of the scenes, the lines tell what was found in those that are kept, and that
  the others have been left out. -/
  tells : r.notes.map CatalogNote.message = (marked [] scenes).flatMap lines
  /-- There is one note on a repeated id for each scene that has been left out. -/
  counts : r.notes.countP CatalogNote.isDuplicate + r.scenes.length = scenes.length
  /-- A line reads as such a note does only if it is one. -/
  distinct : ∀ note ∈ r.notes, note.isDuplicate = true ↔
    ∃ id, note.message = (CatalogNote.duplicateScene id).message
  /-- Registered in their order, none of the scenes takes the place of another. -/
  fresh : ∀ before s rest, r.scenes = before ++ s :: rest →
    ((Roster.after (before.map .upsert)).apply (.upsert s)).1 = false
  /-- Then they stand in the roster as they do here. -/
  registered : (Roster.after (r.scenes.map .upsert)).scenes = r.scenes

/-- **What there is to say of a report**, put together from the lemmas on each part. -/
theorem sifts_report (scenes : List Scene) : Sifts scenes (report scenes) := by
  have hnodup : ((report scenes).scenes.map Scene.id).Nodup := by
    rw [report_eq]
    exact nodup_kept [] scenes
  exact {
    keeps := by rw [report_eq]
    tells := by simp only [report_eq, List.map_flatMap, map_message_notes]
    counts := by rw [report_eq, countP_notes, marked, List.length_mapIdx]
    distinct := fun _ _ => CatalogNote.exists_message_eq_iff.symm
    fresh := fun before s rest heq => Roster.apply_after_upserts (heq ▸ hnodup)
    registered := Roster.scenes_after_upserts hnodup }

/-- What is kept is kept again, and only the notes on repeated ids are missing then. -/
theorem report_kept (scenes : List Scene) :
    report (report scenes).scenes =
      ⟨(report scenes).scenes, (report scenes).notes.filter fun note => !note.isDuplicate⟩ := by
  rw [report_eq scenes, report_of_nodup (nodup_kept [] scenes), filter_notes]

/-- **What a catalog keeps is sifted once and for all.** The report on a catalog that was read from
a text is as it should be. What it keeps can be written and read again, and the report on that
differs from the first by the notes on repeated ids only. For this, floating-point numbers in
parameters and payloads are supposed to survive being written. -/
theorem sifts_once {text : String} (h : parse? .json text = some scenes) :
    Sifts scenes (report scenes) ∧
    ((∀ x, (Json.float x).Within (toJson (report scenes).scenes) → x.Survives) →
      ∀ print ∈ [compact, indented],
        (parse? .json (print (toJson (report scenes).scenes))).map report =
          some ⟨(report scenes).scenes,
            (report scenes).notes.filter fun note => !note.isDuplicate⟩) := by
  refine ⟨sifts_report scenes, fun hfloats print hprint => ?_⟩
  obtain ⟨j, htext, hread⟩ := Option.bind_eq_some_iff.mp h
  have hkept : ∀ s ∈ (report scenes).scenes, s ∈ scenes := by
    rw [report_eq]
    exact fun _ => mem_of_kept
  have hsettled := fun s hs =>
    settled_of_read? (legal_of_ofText? htext) hread s (hkept s hs)
  have hlegible := legible_toJson fun s hs => (hsettled s hs).1
  have hplain := hlegible.legal.plain hlegible.sound
    fun x hx => ⟨hlegible.finite x hx, hfloats x hx⟩
  have hagain : parse? .json (print (toJson (report scenes).scenes)) =
      some (report scenes).scenes := by
    rw [parse?, ofJsonText?, hplain.ofText?_print print hprint, Option.bind_some]
    exact read?_toJson fun s hs => (hsettled s hs).2
  rw [hagain, Option.map_some, report_kept]

/-! ### A playbill -/

namespace Playbill

/-- A catalog as somebody may write it. -/
def draft : String :=
  "\x7b\"scenes\":[\x7b\"id\":\"prologue\",\"triggers\":[\x7b\"type\":\"first-launch\"\x7d]," ++
    "\"steps\":[[\"goto\",\"curtain\"],[\"triggerReward\",\"coins\",1.5]]\x7d," ++
    "\x7b\"id\":\"prologue\"\x7d,\x7b\"id\":\"finale\"\x7d]\x7d"

/-- Its first scene. -/
def prologue : Scene where
  id := "prologue"
  triggers := [.firstLaunch]
  steps := [.goto "curtain", .command (.reward "coins" (.float ⟨0x3FF8000000000000⟩))]

/-- The draft is read as three scenes, two of them with one id. -/
theorem parse?_draft :
    parse? .json draft = some [prologue, { id := "prologue" }, { id := "finale" }] := by
  decide +kernel

/-- The second scene is left out, and something is noted about each of the others. -/
theorem report_draft : report [prologue, { id := "prologue" }, { id := "finale" }] =
    ⟨[prologue, { id := "finale" }],
      [.finding "prologue" (.undefinedLabel 0 "goto" "curtain"), .duplicateScene "prologue",
        .finding "finale" .noTriggers]⟩ := by
  decide +kernel

/-- What is kept is written without the scene that was left out. -/
theorem toJson_kept : toJson [prologue, { id := "finale" }] = .object [("scenes", .array [
    .object [("id", .string "prologue"), ("version", .int 1),
      ("triggers", .array [.object [("type", .string "first-launch")]]),
      ("steps", .array [.object [("type", .string "goto"), ("label", .string "curtain")],
        .object [("type", .string "triggerReward"), ("kind", .string "coins"),
          ("payload", .float ⟨0x3FF8000000000000⟩)]]),
      ("priority", .int 0)],
    .object [("id", .string "finale"), ("version", .int 1), ("triggers", .array []),
      ("steps", .array []), ("priority", .int 0)]])] := rfl

/-- The number in the payload survives being written. -/
theorem survives_kept (x : Binary64)
    (hx : (Json.float x).Within (toJson [prologue, { id := "finale" }])) : x.Survives := by
  rw [toJson_kept] at hx
  simp only [within_object, within_array, within_string, within_int, within_float,
    Json.float.injEq, List.mem_cons, List.not_mem_nil, or_false, exists_eq_or_imp, exists_eq_left,
    reduceCtorEq, false_or, false_and, exists_false] at hx
  rw [hx, Binary64.Survives]
  decide +kernel

/-- What is kept of the playbill is found again in its indented text. -/
theorem sifts_once_playbill :
    (parse? .json (indented (toJson [prologue, { id := "finale" }]))).map report =
      some ⟨[prologue, { id := "finale" }],
        [.finding "prologue" (.undefinedLabel 0 "goto" "curtain"),
          .finding "finale" .noTriggers]⟩ := by
  have hkept : (report [prologue, { id := "prologue" }, { id := "finale" }]).scenes =
      [prologue, { id := "finale" }] := by rw [report_draft]
  have hagain := (sifts_once parse?_draft).2 (fun x hx => survives_kept x (by rwa [hkept] at hx))
    indented (by simp)
  rw [report_draft] at hagain
  exact hagain

/-- Not every number survives: this payload is written as `9.102058389777701`, which is read as
another number. -/
theorem drifts_again : ∃ scenes,
    parse? .json ("\x7b\"scenes\":[\x7b\"id\":\"tip\",\"steps\":" ++
      "[[\"triggerReward\",\"coins\",9.102058389777702]]\x7d]\x7d") = some scenes ∧
    (parse? .json (compact (toJson (report scenes).scenes))).map report ≠
      some ⟨(report scenes).scenes,
        (report scenes).notes.filter fun note => !note.isDuplicate⟩ := by
  refine ⟨[{ id := "tip", steps := [.command (.reward "coins" (.float ⟨0x40223440ff4cc15b⟩))] }],
    ?_, ?_⟩
  · decide +kernel
  · decide +kernel

end Playbill

end Catalog

end Cutscene
