import Cutscene.Proofs.Progress
import Cutscene.Proofs.Store.RecordName
import Cutscene.Proofs.Store.Records
import Cutscene.Store.Folder

/-!
# A Store on a Disk Answers Like One in Memory

As long as a disk does what it is asked to (`Disk.Reliable`), what a file holds is what was written
to it. The store on it then mirrors records: what is decoded is what was encoded, no two namespaces
share a file, and a record that is on its way has a file that is none of theirs.

A disk takes some names and not others, and nothing is said of those that it does not take. A disk
that takes names of any length takes all that a store asks for.

## Main results

* `FileStore.load_eq`, `FileStore.exists_save`: what a store on a reliable disk loads and saves.
* `FileStore.mirrors`: it mirrors records.
* `FileStore.answers_eq_memory`: so it gives the answers of the store in memory.
* `Folder.reliable`: folders are reliable disks, for names up to a length.
-/

namespace Cutscene

/-! ### Reliable disks -/

/-- **A disk that does what it is asked to**, with the names that it takes. In a state of it the
directory is `missing`, or it `holds` some files. -/
structure Disk.Reliable {δ : Type} [Disk δ] (takes : String → Prop) (missing : δ → Prop)
    (holds : δ → (String → Option ByteArray) → Prop) : Prop where
  /-- A directory that is made holds nothing. -/
  create_missing : ∀ {d : δ}, missing d →
    ∃ d', Disk.create d = .ok d' ∧ holds d' fun _ => none
  /-- One that is there remains as it is. -/
  create : ∀ {d : δ} {files : String → Option ByteArray}, holds d files →
    ∃ d', Disk.create d = .ok d' ∧ holds d' files
  /-- A file holds what is written to it. -/
  write : ∀ {d : δ} {files : String → Option ByteArray} {name : String} (bytes : ByteArray),
    takes name → holds d files →
    ∃ d', Disk.write d name bytes = .ok d' ∧ holds d' (Function.update files name (some bytes))
  /-- A file that is given another name takes the place of the file there. -/
  rename : ∀ {d : δ} {files : String → Option ByteArray} {source target : String}
    {bytes : ByteArray}, takes source → takes target → holds d files → files source = some bytes →
    ∃ d', Disk.rename d source target = .ok d' ∧
      holds d' (Function.update (Function.update files source none) target (some bytes))
  /-- There is nothing to be read where there is no directory. -/
  read_missing : ∀ {d : δ} {name : String}, takes name → missing d →
    Disk.read d name = .error .notFound
  /-- What is read is what the file holds. -/
  read : ∀ {d : δ} {files : String → Option ByteArray} {name : String}, takes name →
    holds d files → Disk.read d name = (files name).elim (.error .notFound) .ok

namespace FileStore

variable {δ : Type} [Disk δ] {takes : String → Prop} {missing : δ → Prop}
  {holds : δ → (String → Option ByteArray) → Prop}

/-- A disk takes the names that are needed to keep the record of a namespace. -/
def Fits (takes : String → Prop) (ns : Namespace) : Prop :=
  takes (recordName ns) ∧ takes (stagingName ns)

/-- The files of a directory are those of records. What other files there are does not matter. -/
def Keeps (missing : δ → Prop) (holds : δ → (String → Option ByteArray) → Prop) (d : δ)
    (records : Namespace → Option Progress) : Prop :=
  (missing d ∧ records = fun _ => none) ∨
    ∃ files, holds d files ∧ ∀ ns, files (recordName ns) = (records ns).map encode

/-- **A store on a reliable disk loads the record.** -/
theorem load_eq (hdisk : Disk.Reliable takes missing holds) (s : FileStore) {d : δ}
    {records : Namespace → Option Progress} {ns : Namespace} (hfits : Fits takes ns)
    (hd : Keeps missing holds d records) : s.load ns d = .ok (records ns) := by
  rcases hd with ⟨hmissing, rfl⟩ | ⟨files, hholds, hfiles⟩
  · rw [load, hdisk.read_missing hfits.1 hmissing]
    rfl
  · rw [load, hdisk.read hfits.1 hholds, hfiles]
    cases records ns with
    | none => rfl
    | some p =>
        rw [Option.map_some, Option.elim_some, interpret, decode?_encode]

/-- **A store on a reliable disk saves the record**, and leaves those of all other namespaces
alone. -/
theorem exists_save (hdisk : Disk.Reliable takes missing holds) (s : FileStore) {d : δ}
    {records : Namespace → Option Progress} {ns : Namespace} (p : Progress)
    (hfits : Fits takes ns) (hd : Keeps missing holds d records) :
    ∃ d', s.save ns p d = (.ok (), d') ∧
      Keeps missing holds d' (Function.update records ns (some p)) := by
  obtain ⟨d₁, files, hcreate, hholds, hfiles⟩ : ∃ d₁ files, Disk.create d = .ok d₁ ∧
      holds d₁ files ∧ ∀ ns, files (recordName ns) = (records ns).map encode := by
    rcases hd with ⟨hmissing, rfl⟩ | ⟨files, hholds, hfiles⟩
    · obtain ⟨d₁, hcreate, hholds⟩ := hdisk.create_missing hmissing
      exact ⟨d₁, _, hcreate, hholds, fun _ => rfl⟩
    · obtain ⟨d₁, hcreate, hholds⟩ := hdisk.create hholds
      exact ⟨d₁, files, hcreate, hholds, hfiles⟩
  obtain ⟨d₂, hwrite, hholds⟩ := hdisk.write (encode p) hfits.2 hholds
  obtain ⟨d₃, hrename, hholds⟩ :=
    hdisk.rename hfits.2 hfits.1 hholds (Function.update_self (stagingName ns) _ files)
  refine ⟨d₃, ?_, .inr ⟨_, hholds, fun other => ?_⟩⟩
  · simp only [save, saveSteps, SaveStep.runAll, SaveStep.run, hcreate, hwrite, hrename]
  · by_cases hother : other = ns
    · rw [hother, Function.update_self, Function.update_self, Option.map_some]
    · -- The staging file is no record's.
      rw [Function.update_of_ne (recordName_injective.ne hother),
        Function.update_of_ne (stagingName_ne_recordName ns other).symm,
        Function.update_of_ne (stagingName_ne_recordName ns other).symm, hfiles,
        Function.update_of_ne hother]

/-- **A store on a reliable disk mirrors records.** -/
theorem mirrors (hdisk : Disk.Reliable takes missing holds) (s : FileStore) :
    (s.store : Store (StateM δ)).Mirrors (Fits takes) (Keeps missing holds) where
  load {d records ns} hfits hd := by
    refine ⟨?_, hd⟩
    change (s.load ns d).mapError StoreFault.toFault = _
    rw [load_eq hdisk s hfits hd]
    rfl
  save {d records ns} p hfits hd := by
    obtain ⟨d', hsave, hd'⟩ := exists_save hdisk s p hfits hd
    change (s.save ns p d).1.mapError StoreFault.toFault = .ok () ∧
      Keeps missing holds (s.save ns p d).2 _
    rw [hsave]
    exact ⟨rfl, hd'⟩

/-- **A store on a reliable disk answers like one in memory.** Whatever is asked of it and of the
store in memory, in whatever order and for whatever namespaces, starting from where there is no
directory: both give the same answers, and a load finds the progress that was last saved under the
same namespace, or nothing. -/
theorem answers_eq_memory (hdisk : Disk.Reliable takes missing holds) (s : FileStore) {d : δ}
    (hmissing : missing d) (calls : List Store.Call)
    (hfits : ∀ call ∈ calls, Fits takes call.ns) :
    ((s.store.handleAll calls).run d).1 = ((Records.store.handleAll calls).run ∅).1 ∧
    ∀ (before after : List Store.Call) (ns : Namespace), calls = before ++ .load ns :: after →
      ((s.store.handleAll calls).run d).1[before.length]? =
        some (.loaded (.ok (Store.Call.lastSaved before ns))) := by
  have hfile : ((s.store.handleAll calls).run d).1 = Store.Call.answers (fun _ => none) calls :=
    (mirrors hdisk s).handleAll hfits (.inl ⟨hmissing, rfl⟩)
  have hmemory : ((Records.store.handleAll calls).run ∅).1 =
      Store.Call.answers (fun _ => none) calls := by
    refine Records.mirrors.handleAll (fun _ _ => trivial) (funext fun ns => ?_)
    exact Std.ExtTreeMap.getElem?_empty.symm
  refine ⟨hfile.trans hmemory.symm, ?_⟩
  rintro before after ns rfl
  rw [hfile, Store.Call.getElem?_answers, Store.Call.answer, Option.or_none]

end FileStore

/-! ### Folders -/

namespace Folder

/-- Under a name that is not too long there is what the directory holds. -/
theorem find_directory (items : NameMap FolderItem) {name : String}
    (hname : name.utf8ByteSize ≤ maxNameSize) : (directory items).find name = .ok items[name]? := by
  rw [find, if_neg (Nat.not_lt.mpr hname)]
  rfl

/-- **Folders are reliable disks** for all names that are not too long. -/
theorem reliable : Disk.Reliable (fun name => name.utf8ByteSize ≤ maxNameSize) (· = missing)
    fun folder files => ∃ items, folder = directory items ∧
      ∀ name, items[name]? = (files name).map FolderItem.file where
  create_missing := by
    rintro d rfl
    exact ⟨_, rfl, ∅, rfl, fun _ => Std.ExtTreeMap.getElem?_empty⟩
  create := by
    rintro d files ⟨items, rfl, hitems⟩
    exact ⟨_, rfl, items, rfl, hitems⟩
  write := by
    rintro d files name bytes hname ⟨items, rfl, hitems⟩
    refine ⟨directory (items.insert name (.file bytes)), ?_, _, rfl, fun other => ?_⟩
    -- There is a file or nothing under the name, and writing succeeds either way.
    · change (directory items).write name bytes = _
      rw [write, find_directory items hname, hitems]
      cases files name <;> rfl
    · rw [NameMap.getElem?_insert, Function.update_apply, hitems]
      split <;> rfl
  rename := by
    rintro d files source target bytes hsource htarget ⟨items, rfl, hitems⟩ hbytes
    refine ⟨directory ((items.erase source).insert target (.file bytes)), ?_, _, rfl,
      fun other => ?_⟩
    · change (directory items).rename source target = _
      rw [rename, find_directory items hsource, find_directory items htarget, hitems, hitems,
        hbytes]
      cases files target <;> rfl
    · rw [NameMap.getElem?_insert, NameMap.getElem?_erase, Function.update_apply,
        Function.update_apply, hitems]
      split
      · rfl
      · split <;> rfl
  read_missing := by
    rintro d name _ rfl
    rfl
  read := by
    rintro d files name hname ⟨items, rfl, hitems⟩
    change (directory items).read name = _
    rw [read, find_directory items hname, hitems]
    cases files name <;> rfl

end Folder

/-! ### A folder that is not there yet -/

namespace FileStore

/-- Progress with a counter as low as can be, and a name that has to be escaped. -/
def venture : Progress := (Progress.empty.setCounter "depth" Int64.minValue).setFlag "\"\n" true

/-- Two travellers, of whom one has a name like a path. -/
def travellers : List Store.Call :=
  [.load ⟨"ada"⟩, .save ⟨"ada"⟩ venture, .save ⟨"../ada"⟩ .empty, .save ⟨""⟩ .empty,
    .load ⟨"ada"⟩]

/-- A store in a folder that is not there yet. -/
def saves : FileStore := ⟨"saves"⟩

/-- The folder answers like a memory: there is nothing at first, and then what was saved. -/
theorem answers_travellers :
    ((saves.store.handleAll travellers).run Folder.missing).1 =
      ((Records.store.handleAll travellers).run ∅).1 ∧
    ((saves.store.handleAll travellers).run Folder.missing).1[0]? = some (.loaded (.ok none)) ∧
    ((saves.store.handleAll travellers).run Folder.missing).1[4]? =
      some (.loaded (.ok (some venture))) := by
  have hfits : ∀ call ∈ travellers,
      Fits (fun name => name.utf8ByteSize ≤ Folder.maxNameSize) call.ns := by
    simp only [travellers, List.forall_mem_cons, Store.Call.ns, Fits]
    decide +kernel
  obtain ⟨hmemory, hloads⟩ :=
    answers_eq_memory Folder.reliable saves (d := Folder.missing) rfl travellers hfits
  exact ⟨hmemory, hloads [] _ ⟨"ada"⟩ rfl, hloads (travellers.take 4) [] ⟨"ada"⟩ rfl⟩

end FileStore

end Cutscene
