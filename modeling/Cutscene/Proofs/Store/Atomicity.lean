import Cutscene.Proofs.Store.FileStore

/-!
# A Save Is All or Nothing

A save may come to an end before its last step: the disk may refuse a step, for whatever cause, and
the program may be cut off at any moment, also while bytes are being written. Whatever is left
behind then, nobody who loads a record can tell that there was a save, unless its last step has been
carried out, and then the whole record is there. The disk is a folder with anything in it, or no
folder at all.

There is one thing that can be told. Where there is no folder there is no record either, under any
name. Once a save has made the folder, the disk refuses to look for a name that is too long for it.

## Main results

* `SaveStep.mayEnd_runAll`: saving ends in one of the ways that are spoken of.
* `Folder.readsAlike_create`, `Folder.read_write`, `Folder.read_rename`: what is read after each
  step of a save.
* `FileStore.save_atomic`: all records are loaded as before the save, unless it is complete.
* `FileStore.load_long_name`: the one exception.
-/

namespace Cutscene

/-! ### Saves that are cut short -/

namespace SaveStep

variable {δ : Type} [Disk δ]

/-- What a step may leave behind that does not come to its end: the disk as it was, or, of the bytes
that were to be written, the first few. -/
inductive Breaks (disk : δ) : SaveStep → δ → Prop
  | untouched (step : SaveStep) : Breaks disk step disk
  | torn {name : String} {bytes : ByteArray} {disk' : δ} (n : Nat)
      (h : Disk.write disk name (bytes.extract 0 n) = .ok disk') :
      Breaks disk (.write name bytes) disk'

/-- **How the carrying out of steps may end**, if the disk may refuse any step and the program may
be cut off at any moment. In `MayEnd root disk steps left answer disk'` the steps `left` have not
been carried out, `answer` is what is answered, if the program comes to that, and `disk'` is what is
left behind. -/
inductive MayEnd (root : String) :
    δ → List SaveStep → List SaveStep → Option (Except StoreFault Unit) → δ → Prop
  /-- All steps have been carried out. -/
  | done (disk : δ) : MayEnd root disk [] [] (some (.ok ())) disk
  /-- All steps have been carried out, but the program is cut off before it says so. -/
  | unsaid (disk : δ) : MayEnd root disk [] [] none disk
  /-- The disk refuses a step. -/
  | refused {disk disk' : δ} {step : SaveStep} (rest : List SaveStep) (cause : DiskError)
      (h : step.Breaks disk disk') :
      MayEnd root disk (step :: rest) (step :: rest) (some (.error (step.refusal root cause)))
        disk'
  /-- The program is cut off before a step, or in the middle of it. -/
  | cutOff {disk disk' : δ} {step : SaveStep} (rest : List SaveStep)
      (h : step.Breaks disk disk') : MayEnd root disk (step :: rest) (step :: rest) none disk'
  /-- A step is carried out. -/
  | next {disk disk₁ disk' : δ} {step : SaveStep} {rest left : List SaveStep}
      {answer : Option (Except StoreFault Unit)} (h : step.run disk = .ok disk₁)
      (hrest : MayEnd root disk₁ rest left answer disk') :
      MayEnd root disk (step :: rest) left answer disk'

/-- **Carrying out steps ends in one of these ways**, with an answer. Induction on the steps. -/
theorem mayEnd_runAll (root : String) (disk : δ) (steps : List SaveStep) :
    ∃ left, MayEnd root disk steps left (some (runAll root disk steps).1)
      (runAll root disk steps).2 := by
  induction steps generalizing disk with
  | nil => exact ⟨[], .done disk⟩
  | cons step rest ih =>
      cases hrun : step.run disk with
      | ok disk₁ =>
          obtain ⟨left, hleft⟩ := ih disk₁
          refine ⟨left, ?_⟩
          rw [runAll, hrun]
          exact .next hrun hleft
      | error cause =>
          refine ⟨step :: rest, ?_⟩
          rw [runAll, hrun]
          exact .refused rest cause (.untouched step)

/-- Where there are no steps, nothing happens, and if anything is answered, it is that all is well.
-/
theorem MayEnd.nil_cases {root : String} {disk disk' : δ} {left : List SaveStep}
    {answer : Option (Except StoreFault Unit)} (h : MayEnd root disk [] left answer disk') :
    left = [] ∧ disk' = disk ∧ ∀ a, answer = some a → a = .ok () := by
  cases h with
  | done => exact ⟨rfl, rfl, fun _ ha => (Option.some.inj ha).symm⟩
  | unsaid => exact ⟨rfl, rfl, nofun⟩

/-- The first step is not carried out, and if anything is answered, it is that the step was refused,
or it is carried out and then the others. -/
theorem MayEnd.cons_cases {root : String} {disk disk' : δ} {step : SaveStep}
    {rest left : List SaveStep} {answer : Option (Except StoreFault Unit)}
    (h : MayEnd root disk (step :: rest) left answer disk') :
    (left = step :: rest ∧ step.Breaks disk disk' ∧
        ∀ a, answer = some a → ∃ cause, a = .error (step.refusal root cause)) ∨
      ∃ disk₁, step.run disk = .ok disk₁ ∧ MayEnd root disk₁ rest left answer disk' := by
  cases h with
  | refused _ cause hbreaks =>
      exact .inl ⟨rfl, hbreaks, fun _ ha => ⟨cause, (Option.some.inj ha).symm⟩⟩
  | cutOff _ hbreaks => exact .inl ⟨rfl, hbreaks, nofun⟩
  | next hrun hrest => exact .inr ⟨_, hrun, hrest⟩

/-- Steps that are reported to be carried out are. -/
theorem MayEnd.left_eq_nil {root : String} {disk disk' : δ} {steps left : List SaveStep}
    {answer : Option (Except StoreFault Unit)} (h : MayEnd root disk steps left answer disk')
    (hanswer : answer = some (.ok ())) : left = [] := by
  induction h with
  | done | unsaid => rfl
  | refused | cutOff => cases hanswer
  | next _ _ ih => exact ih hanswer

end SaveStep

/-! ### Reading -/

namespace Folder

/-- Under a name, the same is read as before. Where there was no folder, and so nothing under any
name, a name may now be refused because it is too long. -/
def ReadsAlike (before after : Folder) (name : String) : Prop :=
  after.read name = before.read name ∨
    (before = missing ∧ maxNameSize < name.utf8ByteSize ∧
      after.read name = .error .nameTooLong)

/-- Reading goes on to be alike as long as the same is read. -/
theorem ReadsAlike.trans_eq {f g k : Folder} {name : String} (hfg : ReadsAlike f g name)
    (hgk : k.read name = g.read name) : ReadsAlike f k name := by
  rw [ReadsAlike, hgk]
  exact hfg

/-- What is read from a directory is what the item of the name holds. -/
theorem read_directory (items : NameMap FolderItem) (name : String) :
    (directory items).read name =
      if maxNameSize < name.utf8ByteSize then .error .nameTooLong
      else match items[name]? with
        | some (.file bytes) => .ok bytes
        | some .directory => .error .isADirectory
        | none => .error .notFound := by
  rw [read, find]
  split <;> rfl

/-- An item is found only in a directory, and only under a name that is not too long. -/
theorem find_eq_ok {folder : Folder} {name : String} {item : Option FolderItem}
    (h : folder.find name = .ok item) :
    ∃ items, folder = directory items ∧ ¬ maxNameSize < name.utf8ByteSize ∧
      items[name]? = item := by
  cases folder with
  | missing | plainFile => cases h
  | directory items =>
      rw [find] at h
      split at h
      · cases h
      · next hname =>
        injection h with h
        exact ⟨items, rfl, hname, h⟩

/-- Other items do not matter. -/
theorem read_congr {items items' : NameMap FolderItem} {name : String}
    (h : items'[name]? = items[name]?) :
    (directory items').read name = (directory items).read name := by
  rw [read_directory, read_directory, h]

/-- Making the directory changes nothing that is read, but that a long name is then refused. -/
theorem readsAlike_create {folder folder' : Folder} (h : folder.create = .ok folder')
    (name : String) : ReadsAlike folder folder' name := by
  cases folder with
  | missing =>
      cases h
      rw [ReadsAlike, read_directory]
      split
      · next hname => exact .inr ⟨rfl, hname, rfl⟩
      · rw [Std.ExtTreeMap.getElem?_empty]
        exact .inl rfl
  | plainFile => cases h
  | directory items =>
      cases h
      exact .inl rfl

/-- What becomes of a directory to which a file is written. -/
theorem write_directory (items : NameMap FolderItem) (name : String) (bytes : ByteArray) :
    (directory items).write name bytes =
      if maxNameSize < name.utf8ByteSize then .error .nameTooLong
      else if items[name]? = some .directory then .error .isADirectory
      else .ok (directory (items.insert name (.file bytes))) := by
  rw [write, find]
  split
  · rfl
  · have hget : items.get? name = items[name]? := rfl
    rw [hget]
    rcases items[name]? with _ | _ | _ <;> rfl

/-- What becomes of a directory in which a file is given another name. -/
theorem rename_directory {items : NameMap FolderItem} {source : String} {bytes : ByteArray}
    (hsource : (directory items).find source = .ok (some (.file bytes))) (target : String) :
    (directory items).rename source target =
      if maxNameSize < target.utf8ByteSize then .error .nameTooLong
      else if items[target]? = some .directory then .error .isADirectory
      else .ok (directory ((items.erase source).insert target (.file bytes))) := by
  rw [rename, hsource, find]
  split
  · rfl
  · have hget : items.get? target = items[target]? := rfl
    rw [hget]
    rcases items[target]? with _ | _ | _ <;> rfl

/-- A directory is made where there is none, but not in the place of a plain file. -/
theorem create_eq_ok {folder folder' : Folder} (h : folder.create = .ok folder') :
    folder ≠ plainFile ∧ folder' = directory folder.items := by
  cases folder with
  | missing | directory => cases h; exact ⟨nofun, rfl⟩
  | plainFile => cases h

/-- A file is not written in the place of a directory. -/
theorem write_directory_eq_ok {items : NameMap FolderItem} {folder' : Folder} {name : String}
    {bytes : ByteArray} (h : (directory items).write name bytes = .ok folder') :
    ¬ maxNameSize < name.utf8ByteSize ∧ items[name]? ≠ some .directory ∧
      folder' = directory (items.insert name (.file bytes)) := by
  rw [write_directory] at h
  split at h
  · cases h
  · next hname =>
    split at h
    · cases h
    · next hitem =>
      cases h
      exact ⟨hname, hitem, rfl⟩

/-- A file is written only to a directory. -/
theorem write_eq_ok {folder folder' : Folder} {name : String} {bytes : ByteArray}
    (h : folder.write name bytes = .ok folder') :
    ∃ items, folder = directory items ∧ ¬ maxNameSize < name.utf8ByteSize ∧
      items[name]? ≠ some .directory ∧ folder' = directory (items.insert name (.file bytes)) := by
  cases folder with
  | missing | plainFile => cases h
  | directory items => exact ⟨items, rfl, write_directory_eq_ok h⟩

/-- A file is not given another name in the place of a directory. -/
theorem rename_eq_ok {items : NameMap FolderItem} {folder' : Folder} {source target : String}
    {bytes : ByteArray} (hsource : (directory items).find source = .ok (some (.file bytes)))
    (h : (directory items).rename source target = .ok folder') :
    ¬ maxNameSize < target.utf8ByteSize ∧ items[target]? ≠ some .directory ∧
      folder' = directory ((items.erase source).insert target (.file bytes)) := by
  rw [rename_directory hsource] at h
  split at h
  · cases h
  · next hname =>
    split at h
    · cases h
    · next hitem =>
      cases h
      exact ⟨hname, hitem, rfl⟩

/-- Under a name that is not too long, nothing but a directory keeps a file from taking it. -/
theorem rename_eq_error {items : NameMap FolderItem} {source target : String} {bytes : ByteArray}
    {cause : DiskError} (hsource : (directory items).find source = .ok (some (.file bytes)))
    (htarget : ¬ maxNameSize < target.utf8ByteSize)
    (h : (directory items).rename source target = .error cause) :
    items[target]? = some .directory := by
  rw [rename_directory hsource, if_neg htarget] at h
  split at h
  · assumption
  · cases h

/-- What is read after a file has been written: its bytes under its name, and under any other name
the same as before. -/
theorem read_write {folder folder' : Folder} {name : String} {bytes : ByteArray}
    (h : folder.write name bytes = .ok folder') :
    folder'.read name = .ok bytes ∧
      ∀ other, other ≠ name → folder'.read other = folder.read other := by
  obtain ⟨items, rfl, hname, -, rfl⟩ := write_eq_ok h
  refine ⟨?_, fun other hother => read_congr ?_⟩
  · rw [read_directory, if_neg hname, NameMap.getElem?_insert, if_pos rfl]
  · rw [NameMap.getElem?_insert, if_neg hother]

/-- Where bytes are read, there is a file that holds them. -/
theorem find_of_read_eq_ok {folder : Folder} {name : String} {bytes : ByteArray}
    (h : folder.read name = .ok bytes) : folder.find name = .ok (some (.file bytes)) := by
  rw [read] at h
  cases hfind : folder.find name with
  | error cause => rw [hfind] at h; cases h
  | ok item =>
      rw [hfind] at h
      cases item with
      | none => cases h
      | some item =>
          cases item with
          | file held => cases h; rfl
          | directory => cases h

/-- What is read after a file has been given another name: its bytes under the new name, and under
any third name the same as before. -/
theorem read_rename {folder folder' : Folder} {source target : String} {bytes : ByteArray}
    (h : folder.rename source target = .ok folder') (hbytes : folder.read source = .ok bytes) :
    folder'.read target = .ok bytes ∧
      ∀ other, other ≠ source → other ≠ target → folder'.read other = folder.read other := by
  have hsource := find_of_read_eq_ok hbytes
  obtain ⟨items, rfl, -⟩ := find_eq_ok hsource
  obtain ⟨hname, -, rfl⟩ := rename_eq_ok hsource h
  refine ⟨?_, fun other hother hother' => read_congr ?_⟩
  · rw [read_directory, if_neg hname, NameMap.getElem?_insert, if_pos rfl]
  · rw [NameMap.getElem?_insert, if_neg hother', NameMap.getElem?_erase, if_neg hother]

end Folder

/-! ### Loading after a save -/

namespace FileStore

/-- Bytes of which some have been written are read under no other name than their own. -/
theorem read_breaks_write {folder folder' : Folder} {name : String} {bytes : ByteArray}
    (h : (SaveStep.write name bytes).Breaks folder folder') {other : String}
    (hother : other ≠ name) : folder'.read other = folder.read other := by
  cases h with
  | untouched => rfl
  | torn n hwrite => exact (Folder.read_write hwrite).2 other hother

/-- **What is read after a save that may have been cut short.** The cases follow the steps of the
save. -/
theorem read_of_mayEnd {root : String} {folder folder' : Folder} {ns : Namespace} {p : Progress}
    {left : List SaveStep} {answer : Option (Except StoreFault Unit)}
    (h : SaveStep.MayEnd root folder (saveSteps ns p) left answer folder') :
    (∀ name, name ≠ stagingName ns → name ≠ recordName ns →
        folder.ReadsAlike folder' name) ∧
      (left ≠ [] → folder.ReadsAlike folder' (recordName ns)) ∧
      (left = [] → folder'.read (recordName ns) = .ok (encode p)) := by
  have hstaging : recordName ns ≠ stagingName ns := (stagingName_ne_recordName ns ns).symm
  rcases h.cons_cases with ⟨rfl, hbreaks, -⟩ | ⟨folder₁, hcreate, h₁⟩
  · cases hbreaks
    exact ⟨fun _ _ _ => .inl rfl, fun _ => .inl rfl, by rintro ⟨⟩⟩
  have hmade := @Folder.readsAlike_create folder folder₁ hcreate
  rcases h₁.cons_cases with ⟨rfl, hbreaks, -⟩ | ⟨folder₂, hwrite, h₂⟩
  · exact ⟨fun name hname _ => (hmade name).trans_eq (read_breaks_write hbreaks hname),
      fun _ => (hmade _).trans_eq (read_breaks_write hbreaks hstaging), by rintro ⟨⟩⟩
  obtain ⟨hwritten, hothers⟩ := @Folder.read_write folder₁ folder₂ _ _ hwrite
  rcases h₂.cons_cases with ⟨rfl, hbreaks, -⟩ | ⟨folder₃, hrename, h₃⟩
  · cases hbreaks
    exact ⟨fun name hname _ => (hmade name).trans_eq (hothers name hname),
      fun _ => (hmade _).trans_eq (hothers _ hstaging), by rintro ⟨⟩⟩
  obtain ⟨rfl, rfl, -⟩ := h₃.nil_cases
  obtain ⟨hrecord, hothers'⟩ := @Folder.read_rename folder₂ _ _ _ _ hrename hwritten
  refine ⟨fun name hname hname' => (hmade name).trans_eq ?_, fun h => absurd rfl h,
    fun _ => hrecord⟩
  exact (hothers' name hname hname').trans (hothers name hname)

/-- A load gives the same as before. Where there was no folder, and so no record, a namespace whose
file would have too long a name may now be refused. -/
def LoadsAlike (s : FileStore) (before after : Folder) (ns : Namespace) : Prop :=
  s.load ns after = s.load ns before ∨
    (before = .missing ∧ Folder.maxNameSize < (recordName ns).utf8ByteSize ∧
      s.load ns before = .ok none ∧
      s.load ns after = .error (.io (s.recordPath ns) DiskError.nameTooLong.message))

/-- Where the record's file is read as before, the record is loaded as before. -/
theorem loadsAlike_of_readsAlike (s : FileStore) {before after : Folder} {ns : Namespace}
    (h : before.ReadsAlike after (recordName ns)) : s.LoadsAlike before after ns := by
  rcases h with hread | ⟨rfl, hlong, hread⟩
  · exact .inl (congrArg (s.interpret ns) hread)
  · exact .inr ⟨rfl, hlong, rfl, congrArg (s.interpret ns) hread⟩

/-- **A save is all or nothing.** Whatever there is at the root, and wherever a save ends, be it
that the disk refuses a step or that the program is cut off: every other namespace is loaded as
before, and so is the namespace itself, unless the last step has been carried out, and then what is
loaded is what was saved. Only then does a save report success. -/
theorem save_atomic (s : FileStore) (ns : Namespace) (p : Progress) (folder : Folder) :
    (∃ left, SaveStep.MayEnd s.root folder (saveSteps ns p) left (some (s.save ns p folder).1)
      (s.save ns p folder).2) ∧
    ∀ left answer folder', SaveStep.MayEnd s.root folder (saveSteps ns p) left answer folder' →
      (∀ other, other ≠ ns → s.LoadsAlike folder folder' other) ∧
      (left ≠ [] → s.LoadsAlike folder folder' ns) ∧
      (left = [] → s.load ns folder' = .ok (some p)) ∧
      (answer = some (.ok ()) → left = []) := by
  refine ⟨SaveStep.mayEnd_runAll s.root folder (saveSteps ns p), fun left answer folder' h => ?_⟩
  obtain ⟨hothers, hbefore, hafter⟩ := read_of_mayEnd h
  refine ⟨fun other hother => ?_, fun hleft => ?_, fun hleft => ?_, h.left_eq_nil⟩
  · exact loadsAlike_of_readsAlike s (hothers _ (stagingName_ne_recordName ns other).symm
      (recordName_injective.ne hother))
  · exact loadsAlike_of_readsAlike s (hbefore hleft)
  · change s.interpret ns (folder'.read (recordName ns)) = _
    rw [hafter hleft, interpret, decode?_encode]

/-- A folder with a record that is none, a directory where a record should be, and what is left of
an earlier save. -/
def clutter : NameMap FolderItem :=
  ((((∅ : NameMap FolderItem).insert "ada.json" (.file "\x7b".toUTF8)).insert "bob.json"
    .directory).insert "ada.json.tmp" (.file "\x7b\x7d".toUTF8))

/-- To the clutter, bytes can be written under the name that Ada's record has at first. -/
theorem write_clutter (bytes : ByteArray) :
    Disk.write (Folder.directory clutter) (stagingName ⟨"ada"⟩) bytes =
      .ok (.directory (clutter.insert "ada.json.tmp" (.file bytes))) := by
  have hstaging : stagingName ⟨"ada"⟩ = "ada.json.tmp" := by decide +kernel
  rw [hstaging]
  rfl

/-- In the clutter, they can take the place of Ada's record. -/
theorem rename_clutter (bytes : ByteArray) :
    Disk.rename (Folder.directory (clutter.insert "ada.json.tmp" (.file bytes)))
        (stagingName ⟨"ada"⟩) (recordName ⟨"ada"⟩) =
      .ok (.directory (((clutter.insert "ada.json.tmp" (.file bytes)).erase
        "ada.json.tmp").insert "ada.json" (.file bytes))) := by
  have hstaging : stagingName ⟨"ada"⟩ = "ada.json.tmp" := by decide +kernel
  have hrecord : recordName ⟨"ada"⟩ = "ada.json" := by decide +kernel
  rw [hstaging, hrecord]
  rfl

/-- In the clutter, a save is cut off after five bytes, and another one is completed. -/
theorem save_atomic_clutter :
    (∃ folder, SaveStep.MayEnd saves.root (Folder.directory clutter)
        (saveSteps ⟨"ada"⟩ venture) ((saveSteps ⟨"ada"⟩ venture).drop 1) none folder ∧
      saves.load ⟨"ada"⟩ folder = saves.load ⟨"ada"⟩ (Folder.directory clutter) ∧
      saves.load ⟨"bob"⟩ folder = saves.load ⟨"bob"⟩ (Folder.directory clutter)) ∧
    ∃ folder, SaveStep.MayEnd saves.root (Folder.directory clutter)
        (saveSteps ⟨"ada"⟩ venture) [] (some (.ok ())) folder ∧
      saves.load ⟨"ada"⟩ folder = .ok (some venture) ∧
      saves.load ⟨"bob"⟩ folder = saves.load ⟨"bob"⟩ (Folder.directory clutter) := by
  have hsame {folder : Folder} {ns : Namespace}
      (h : saves.LoadsAlike (Folder.directory clutter) folder ns) :
      saves.load ns folder = saves.load ns (Folder.directory clutter) := by
    rcases h with h | ⟨h, -⟩
    · exact h
    · cases h
  have hcut : SaveStep.MayEnd saves.root (Folder.directory clutter) (saveSteps ⟨"ada"⟩ venture)
      ((saveSteps ⟨"ada"⟩ venture).drop 1) none _ :=
    .next rfl (.cutOff _ (.torn 5 (write_clutter _)))
  have hdone : SaveStep.MayEnd saves.root (Folder.directory clutter)
      (saveSteps ⟨"ada"⟩ venture) [] (some (.ok ())) _ :=
    .next rfl (.next (write_clutter _) (.next (rename_clutter _) (.done _)))
  obtain ⟨hothers, hbefore, -, -⟩ :=
    (save_atomic saves ⟨"ada"⟩ venture (.directory clutter)).2 _ _ _ hcut
  obtain ⟨hothers', -, hafter, -⟩ :=
    (save_atomic saves ⟨"ada"⟩ venture (.directory clutter)).2 _ _ _ hdone
  exact ⟨⟨_, hcut, hsame (hbefore (by rintro ⟨⟩)), hsame (hothers ⟨"bob"⟩ (by decide))⟩,
    _, hdone, hafter rfl, hsame (hothers' ⟨"bob"⟩ (by decide))⟩

/-- A traveller whose file would have too long a name: each dot takes three bytes of it. -/
def rambler : Namespace := ⟨String.ofList (List.replicate 84 '.')⟩

/-- **A name that is too long is refused once there is a folder.** Before the first save, for
whomever it is, nothing is found under it. -/
theorem load_long_name :
    rambler ≠ ⟨"ada"⟩ ∧ (saves.save ⟨"ada"⟩ venture Folder.missing).1 = .ok () ∧
      saves.load rambler Folder.missing = .ok none ∧
      saves.load rambler (saves.save ⟨"ada"⟩ venture Folder.missing).2 =
        .error (.io (saves.recordPath rambler) DiskError.nameTooLong.message) := by
  have hfits : Fits (fun name => name.utf8ByteSize ≤ Folder.maxNameSize) ⟨"ada"⟩ := by
    rw [Fits]
    decide +kernel
  have hname : RecordName.record rambler =
      (List.replicate 84 ['%', '2', 'E']).flatten ++ ['.', 'j', 's', 'o', 'n'] := by
    decide +kernel
  have hlong : Folder.maxNameSize < (recordName rambler).utf8ByteSize := by
    rw [recordName, hname]
    decide +kernel
  obtain ⟨folder, hsave, hkept⟩ :=
    exists_save Folder.reliable saves (d := Folder.missing) venture hfits (.inl ⟨rfl, rfl⟩)
  rw [hsave]
  refine ⟨by decide +kernel, rfl, rfl, ?_⟩
  rcases hkept with ⟨-, hnone⟩ | ⟨files, ⟨items, rfl, -⟩, -⟩
  · have hrecord := congrFun hnone ⟨"ada"⟩
    rw [Function.update_self] at hrecord
    cases hrecord
  · change saves.interpret rambler ((Folder.directory items).read (recordName rambler)) = _
    rw [Folder.read_directory, if_pos hlong]
    rfl

end FileStore

end Cutscene
