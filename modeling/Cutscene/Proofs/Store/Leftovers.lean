import Cutscene.Proofs.Store.Atomicity
import Cutscene.Proofs.Store.Paths

/-!
# What a Save Leaves Behind

A save that is complete leaves nothing behind but the record. One that is not may leave its staging
file behind, and nothing else, but nothing is taken back. If the disk gives out while the staging
file is being written, some first part of the record is in it, and if the staging file cannot take
the place of the record, the whole of it.

Which of these has happened can be told from the answer: each step is about a path of its own.

Why the disk refuses a step is left open, for it may be full, or broken. The refusals that are due
to what is in the folder are those of the model's own operations. They come before anything has been
written, and a staging file stays only if there is a directory in the place of the record.

## Main results

* `FileStore.leaves_of_mayEnd`: the five ways in which a save comes to an answer.
* `FileStore.save_leaves`: what is left behind, told from the answer.
* `FileStore.save_strands_staging`: a staging file that stays.
-/

namespace Cutscene

/-- The path that a fault is about. -/
def StoreFault.path : StoreFault → String
  | io path _ | corrupt path => path

namespace SaveStep

/-- The first of some steps is refused, and all is as it was, or it is carried out and then the
others. -/
theorem runAll_cons_cases {δ : Type} [Disk δ] (root : String) (disk : δ) (step : SaveStep)
    (rest : List SaveStep) :
    (∃ cause, step.run disk = .error cause ∧
        runAll root disk (step :: rest) = (.error (step.refusal root cause), disk)) ∨
      ∃ disk₁, step.run disk = .ok disk₁ ∧
        runAll root disk (step :: rest) = runAll root disk₁ rest := by
  rw [runAll]
  cases step.run disk with
  | error cause => exact .inl ⟨cause, rfl, rfl⟩
  | ok disk₁ => exact .inr ⟨disk₁, rfl, rfl⟩

end SaveStep

/-- What has been put under a name does not matter once the name has been taken out. -/
theorem NameMap.erase_insert {α : Type} (map : NameMap α) (name : String) (value : α) :
    (map.insert name value).erase name = map.erase name := by
  refine Std.ExtTreeMap.ext_getElem? fun other => ?_
  rw [NameMap.getElem?_erase, NameMap.getElem?_erase, NameMap.getElem?_insert]
  split <;> rfl

namespace Folder

/-- Writing that does not come to its end leaves a directory as it was, or with a first part of the
bytes in the file. -/
theorem breaks_write {items : NameMap FolderItem} {name : String} {bytes : ByteArray}
    {after : Folder} (h : (SaveStep.write name bytes).Breaks (directory items) after) :
    after = directory items ∨ items[name]? ≠ some .directory ∧
      ∃ n, after = directory (items.insert name (.file (bytes.extract 0 n))) := by
  cases h with
  | untouched => exact .inl rfl
  | torn n hwrite =>
      obtain ⟨-, hitem, rfl⟩ := @write_directory_eq_ok items _ _ _ hwrite
      exact .inr ⟨hitem, n, rfl⟩

/-- What has been written to a directory is found there. -/
theorem find_insert {items : NameMap FolderItem} {name : String} (item : FolderItem)
    (hname : ¬maxNameSize < name.utf8ByteSize) :
    (directory (items.insert name item)).find name = .ok (some item) := by
  rw [find_directory _ (Nat.not_lt.mp hname), NameMap.getElem?_insert, if_pos rfl]

end Folder

namespace FileStore

/-- A path with one name more is another one. -/
theorem ne_of_names_eq {root path : String} {name : List Char}
    (h : Path.names path = Path.names root ++ [name]) : path ≠ root := by
  rintro rfl
  simpa using congrArg List.length h

/-- The staging file has not the path of a record. -/
theorem recordPath_ne_stagingPath (s : FileStore) (ns : Namespace) :
    s.recordPath ns ≠ s.stagingPath ns := fun h =>
  stagingPath_ne_recordPath s ns ns (congrArg Path.names h.symm)

/-- **How a save comes to an answer**: with which answer, and with what left behind. A step is
refused for any `cause`. From the second step on there is a directory. -/
inductive Leaves (s : FileStore) (ns : Namespace) (p : Progress) (folder : Folder) :
    Except StoreFault Unit → Folder → Prop
  /-- The directory cannot be made. -/
  | unmade (cause : DiskError) : Leaves s ns p folder (.error (.io s.root cause.message)) folder
  /-- The staging file cannot be opened. -/
  | unopened (cause : DiskError) (hroot : folder ≠ .plainFile) :
      Leaves s ns p folder (.error (.io (s.stagingPath ns) cause.message))
        (.directory folder.items)
  /-- The staging file can be opened, but not all bytes come to be in it. -/
  | torn (cause : DiskError) (n : Nat) (hroot : folder ≠ .plainFile)
      (hstaging : folder.items[stagingName ns]? ≠ some .directory) :
      Leaves s ns p folder (.error (.io (s.stagingPath ns) cause.message))
        (.directory (folder.items.insert (stagingName ns) (.file ((encode p).extract 0 n))))
  /-- The staging file is complete, but it cannot take the place of the record. -/
  | stranded (cause : DiskError) (hroot : folder ≠ .plainFile)
      (hstaging : folder.items[stagingName ns]? ≠ some .directory) :
      Leaves s ns p folder (.error (.io (s.recordPath ns) cause.message))
        (.directory (folder.items.insert (stagingName ns) (.file (encode p))))
  /-- All steps are carried out. -/
  | saved (hroot : folder ≠ .plainFile)
      (hstaging : folder.items[stagingName ns]? ≠ some .directory)
      (hrecord : folder.items[recordName ns]? ≠ some .directory) :
      Leaves s ns p folder (.ok ()) (.directory
        ((folder.items.erase (stagingName ns)).insert (recordName ns) (.file (encode p))))

/-- **Every save that comes to an answer does so in one of the five ways.** The cases follow the
steps of the save: each is refused, or it is carried out. -/
theorem leaves_of_mayEnd {s : FileStore} {ns : Namespace} {p : Progress} {folder after : Folder}
    {left : List SaveStep} {answer : Except StoreFault Unit}
    (h : SaveStep.MayEnd s.root folder (saveSteps ns p) left (some answer) after) :
    Leaves s ns p folder answer after := by
  rcases h.cons_cases with ⟨-, hbreaks, hanswer⟩ | ⟨folder₁, hcreate, h₁⟩
  · obtain ⟨cause, rfl⟩ := hanswer answer rfl
    cases hbreaks
    exact .unmade cause
  obtain ⟨hroot, rfl⟩ := @Folder.create_eq_ok folder folder₁ hcreate
  rcases h₁.cons_cases with ⟨-, hbreaks, hanswer⟩ | ⟨folder₂, hwrite, h₂⟩
  · obtain ⟨cause, rfl⟩ := hanswer answer rfl
    -- Only here something may be left behind that is not whole.
    rcases Folder.breaks_write hbreaks with rfl | ⟨hstaging, n, rfl⟩
    · exact .unopened cause hroot
    · exact .torn cause n hroot hstaging
  obtain ⟨hlong, hstaging, rfl⟩ := @Folder.write_directory_eq_ok _ folder₂ _ _ hwrite
  rcases h₂.cons_cases with ⟨-, hbreaks, hanswer⟩ | ⟨folder₃, hrename, h₃⟩
  · obtain ⟨cause, rfl⟩ := hanswer answer rfl
    cases hbreaks
    exact .stranded cause hroot hstaging
  obtain ⟨-, hrecord, rfl⟩ :=
    @Folder.rename_eq_ok _ folder₃ _ _ _ (Folder.find_insert _ hlong) hrename
  obtain ⟨-, rfl, hanswer⟩ := h₃.nil_cases
  cases hanswer answer rfl
  rw [NameMap.getElem?_insert, if_neg (stagingName_ne_recordName ns ns).symm] at hrecord
  rw [NameMap.erase_insert]
  exact .saved hroot hstaging hrecord

/-- **What is in the folder** makes a save leave nothing behind, unless there is a directory in the
place of the record. -/
theorem save_refused (s : FileStore) (ns : Namespace) (p : Progress) (folder : Folder)
    {fault : StoreFault} (h : (s.save ns p folder).1 = .error fault) :
    (fault.path = s.stagingPath ns → (s.save ns p folder).2 = .directory folder.items) ∧
      (fault.path = s.recordPath ns → folder.items[recordName ns]? = some .directory) := by
  have hstaging : s.root ≠ s.stagingPath ns := (ne_of_names_eq (names_stagingPath s ns)).symm
  have hrecord : s.root ≠ s.recordPath ns := (ne_of_names_eq (names_recordPath s ns)).symm
  rw [save, saveSteps] at h ⊢
  rcases SaveStep.runAll_cons_cases s.root folder .create
      [.write (stagingName ns) (encode p), .rename (stagingName ns) (recordName ns)] with
    ⟨cause, -, hrun⟩ | ⟨folder₁, hcreate, hrun⟩
  · rw [hrun] at h
    cases h
    exact ⟨fun hpath => absurd hpath hstaging, fun hpath => absurd hpath hrecord⟩
  rw [hrun] at h ⊢
  obtain ⟨-, rfl⟩ := @Folder.create_eq_ok folder folder₁ hcreate
  rcases SaveStep.runAll_cons_cases s.root (Folder.directory folder.items)
      (.write (stagingName ns) (encode p)) [.rename (stagingName ns) (recordName ns)] with
    ⟨cause, -, hrun⟩ | ⟨folder₂, hwrite, hrun⟩
  · rw [hrun] at h ⊢
    cases h
    exact ⟨fun _ => rfl, fun hpath => absurd hpath.symm (recordPath_ne_stagingPath s ns)⟩
  rw [hrun] at h
  obtain ⟨hlong, -, rfl⟩ := @Folder.write_directory_eq_ok _ folder₂ _ _ hwrite
  rcases SaveStep.runAll_cons_cases s.root (Folder.directory (folder.items.insert (stagingName ns)
      (.file (encode p)))) (.rename (stagingName ns) (recordName ns)) [] with
    ⟨cause, hrename, hrun⟩ | ⟨folder₃, -, hrun⟩
  · rw [hrun] at h
    cases h
    refine ⟨fun hpath => absurd hpath (recordPath_ne_stagingPath s ns), fun _ => ?_⟩
    -- The staging file's name is the longer one, and was not too long.
    have hshort : ¬Folder.maxNameSize < (recordName ns).utf8ByteSize := by
      have hle := utf8ByteSize_recordName_le ns
      omega
    have hdirectory := @Folder.rename_eq_error _ _ _ _ cause (Folder.find_insert _ hlong) hshort
      hrename
    rwa [NameMap.getElem?_insert, if_neg (stagingName_ne_recordName ns ns).symm] at hdirectory
  · rw [hrun] at h
    cases h

/-- **What a save leaves behind**, told from its answer. It may be that the disk refuses only what
the folder does not allow, as the model's own operations do. A fault about the staging file then
means that all is as it was, but that the folder may have been made, and a fault about the record's
path that there is a directory.

It may also be that the disk refuses any step for any cause, also while bytes are being written. A
fault about the root: all is as it was. A fault about the staging file: all is as it was, but that
the folder may have been made, and that a staging file may stay that holds a first part of the
record. A fault about the record's path: the staging file stays, with the whole record in it, and
all else is as it was. No fault: the record is there, no staging file is, and all else is as it was.
-/
theorem save_leaves (s : FileStore) (ns : Namespace) (p : Progress) (folder : Folder) :
    (∃ left, SaveStep.MayEnd s.root folder (saveSteps ns p) left (some (s.save ns p folder).1)
      (s.save ns p folder).2) ∧
    (∀ fault, (s.save ns p folder).1 = .error fault →
      (fault.path = s.stagingPath ns → (s.save ns p folder).2 = .directory folder.items) ∧
      (fault.path = s.recordPath ns → folder.items[recordName ns]? = some .directory)) ∧
    ∀ left answer after,
      SaveStep.MayEnd s.root folder (saveSteps ns p) left (some answer) after →
      (∀ fault, answer = .error fault →
        (fault.path = s.root ∨ fault.path = s.stagingPath ns ∨ fault.path = s.recordPath ns) ∧
        (fault.path = s.root → after = folder) ∧
        (fault.path = s.stagingPath ns → folder ≠ .plainFile ∧
          (after = .directory folder.items ∨
            folder.items[stagingName ns]? ≠ some .directory ∧ ∃ n, after =
              .directory (folder.items.insert (stagingName ns)
                (.file ((encode p).extract 0 n))))) ∧
        (fault.path = s.recordPath ns → folder ≠ .plainFile ∧
          folder.items[stagingName ns]? ≠ some .directory ∧
          after = .directory (folder.items.insert (stagingName ns) (.file (encode p))))) ∧
      (answer = .ok () → folder ≠ .plainFile ∧
        folder.items[recordName ns]? ≠ some .directory ∧
        after = .directory ((folder.items.erase (stagingName ns)).insert (recordName ns)
          (.file (encode p))) ∧
        after.items[stagingName ns]? = none) := by
  have hstaging : s.stagingPath ns ≠ s.root := ne_of_names_eq (names_stagingPath s ns)
  have hrecord : s.recordPath ns ≠ s.root := ne_of_names_eq (names_recordPath s ns)
  have hrecord' : s.recordPath ns ≠ s.stagingPath ns := recordPath_ne_stagingPath s ns
  refine ⟨SaveStep.mayEnd_runAll s.root folder (saveSteps ns p),
    fun fault h => save_refused s ns p folder h, fun left answer after h => ?_⟩
  -- The three paths differ, so that each answer belongs to the ways of one step only.
  cases leaves_of_mayEnd h with
  | unmade cause =>
      refine ⟨fun fault hfault => ?_, nofun⟩
      cases hfault
      exact ⟨.inl rfl, fun _ => rfl, fun hpath => absurd hpath.symm hstaging,
        fun hpath => absurd hpath.symm hrecord⟩
  | unopened cause hroot =>
      refine ⟨fun fault hfault => ?_, nofun⟩
      cases hfault
      exact ⟨.inr (.inl rfl), fun hpath => absurd hpath hstaging, fun _ => ⟨hroot, .inl rfl⟩,
        fun hpath => absurd hpath.symm hrecord'⟩
  | torn cause n hroot hitem =>
      refine ⟨fun fault hfault => ?_, nofun⟩
      cases hfault
      exact ⟨.inr (.inl rfl), fun hpath => absurd hpath hstaging,
        fun _ => ⟨hroot, .inr ⟨hitem, n, rfl⟩⟩, fun hpath => absurd hpath.symm hrecord'⟩
  | stranded cause hroot hitem =>
      refine ⟨fun fault hfault => ?_, nofun⟩
      cases hfault
      exact ⟨.inr (.inr rfl), fun hpath => absurd hpath hrecord,
        fun hpath => absurd hpath hrecord', fun _ => ⟨hroot, hitem, rfl⟩⟩
  | saved hroot _ hitem =>
      refine ⟨nofun, fun _ => ⟨hroot, hitem, rfl, ?_⟩⟩
      rw [Folder.items, NameMap.getElem?_insert, if_neg (stagingName_ne_recordName ns ns),
        NameMap.getElem?_erase, if_pos rfl]

/-- Bob's record cannot be saved where there is a directory in its place. -/
theorem save_bob_clutter :
    saves.save ⟨"bob"⟩ venture (Folder.directory clutter) =
      (.error (.io (saves.recordPath ⟨"bob"⟩) DiskError.isADirectory.message),
        .directory (clutter.insert "bob.json.tmp" (.file (encode venture)))) := by
  have hrecord : recordName ⟨"bob"⟩ = "bob.json" := by decide +kernel
  have hstaging : stagingName ⟨"bob"⟩ = "bob.json.tmp" := by decide +kernel
  rw [save, saveSteps, recordPath, hrecord, hstaging]
  generalize encode venture = bytes
  rfl

/-- Ada's can, which takes away what had been left of an earlier save. -/
theorem save_ada_clutter : (saves.save ⟨"ada"⟩ venture (Folder.directory clutter)).1 = .ok () := by
  have hrecord : recordName ⟨"ada"⟩ = "ada.json" := by decide +kernel
  have hstaging : stagingName ⟨"ada"⟩ = "ada.json.tmp" := by decide +kernel
  rw [save, saveSteps, hrecord, hstaging]
  generalize encode venture = bytes
  rfl

/-- What a system says when there is no room for more bytes. -/
def noSpace : DiskError := .other "No space left on device (os error 28)"

/-- Of four saves the first finds a plain file in place of the folder, and the second a directory in
place of the record. The third finds the disk full after five bytes. The fourth takes away what had
been left of an earlier save. -/
theorem save_leaves_clutter :
    ((saves.save ⟨"bob"⟩ venture Folder.plainFile).1 =
        .error (.io saves.root DiskError.alreadyExists.message) ∧
      (saves.save ⟨"bob"⟩ venture Folder.plainFile).2 = Folder.plainFile) ∧
    ((saves.save ⟨"bob"⟩ venture (Folder.directory clutter)).1 =
        .error (.io (saves.recordPath ⟨"bob"⟩) DiskError.isADirectory.message) ∧
      clutter[recordName ⟨"bob"⟩]? = some .directory ∧
      (saves.save ⟨"bob"⟩ venture (Folder.directory clutter)).2 =
        .directory (clutter.insert (stagingName ⟨"bob"⟩) (.file (encode venture)))) ∧
    (∃ left after, SaveStep.MayEnd saves.root (Folder.directory clutter)
        (saveSteps ⟨"ada"⟩ venture) left
        (some (.error (.io (saves.stagingPath ⟨"ada"⟩) noSpace.message))) after ∧
      after.items["ada.json.tmp"]? = some (.file ((encode venture).extract 0 5)) ∧
      (after = .directory clutter ∨ ∃ n, after = .directory (clutter.insert (stagingName ⟨"ada"⟩)
        (.file ((encode venture).extract 0 n))))) ∧
    (saves.save ⟨"ada"⟩ venture (Folder.directory clutter)).1 = .ok () ∧
      clutter[stagingName ⟨"ada"⟩]? ≠ none ∧
      (saves.save ⟨"ada"⟩ venture (Folder.directory clutter)).2.items[stagingName ⟨"ada"⟩]? =
        none := by
  have hplain : (saves.save ⟨"bob"⟩ venture Folder.plainFile).1 =
      .error (.io saves.root DiskError.alreadyExists.message) := rfl
  have hbob := congrArg Prod.fst save_bob_clutter
  have hada : clutter[stagingName ⟨"ada"⟩]? ≠ none := by
    have hstaging : stagingName ⟨"ada"⟩ = "ada.json.tmp" := by decide +kernel
    rw [hstaging]
    nofun
  have hfull : SaveStep.MayEnd saves.root (Folder.directory clutter) (saveSteps ⟨"ada"⟩ venture) _
      (some (.error (.io (saves.stagingPath ⟨"ada"⟩) noSpace.message))) _ :=
    .next rfl (.refused _ noSpace (.torn 5 (write_clutter _)))
  obtain ⟨⟨_, hplainEnds⟩, -, hplainLeaves⟩ := save_leaves saves ⟨"bob"⟩ venture .plainFile
  obtain ⟨⟨_, hbobEnds⟩, hbobRefused, hbobLeaves⟩ :=
    save_leaves saves ⟨"bob"⟩ venture (.directory clutter)
  obtain ⟨⟨_, hadaEnds⟩, -, hadaLeaves⟩ := save_leaves saves ⟨"ada"⟩ venture (.directory clutter)
  refine ⟨⟨hplain, ?_⟩, ⟨hbob, (hbobRefused _ hbob).2 rfl, ?_⟩, ⟨_, _, hfull, ?_, ?_⟩,
    save_ada_clutter, hada, ?_⟩
  · exact ((hplainLeaves _ _ _ hplainEnds).1 _ hplain).2.1 rfl
  · exact (((hbobLeaves _ _ _ hbobEnds).1 _ hbob).2.2.2 rfl).2.2
  · rw [Folder.items, NameMap.getElem?_insert, if_pos rfl]
  · obtain ⟨-, hwhole | ⟨-, htorn⟩⟩ := ((hadaLeaves _ _ _ hfull).1 _ rfl).2.2.1 rfl
    · exact .inl hwhole
    · exact .inr htorn
  · exact ((hadaLeaves _ _ _ hadaEnds).2 save_ada_clutter).2.2.2

/-- **A staging file that stays.** Bob's save is refused, and beside the directory that is in place
of his record there is a file that was not there before. -/
theorem save_strands_staging :
    (∃ fault, (saves.save ⟨"bob"⟩ venture (Folder.directory clutter)).1 = .error fault) ∧
      (Folder.directory clutter).items["bob.json.tmp"]? = none ∧
      (saves.save ⟨"bob"⟩ venture (Folder.directory clutter)).2.items["bob.json.tmp"]? =
        some (.file (encode venture)) := by
  rw [save_bob_clutter]
  refine ⟨⟨_, rfl⟩, rfl, ?_⟩
  rw [Folder.items, NameMap.getElem?_insert, if_pos rfl]

end FileStore

end Cutscene
