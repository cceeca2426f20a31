import Cutscene.Proofs.Digits
import Cutscene.Proofs.Store.RecordName

/-!
# Where Records Are Kept

The name of a record's file is a name and nothing more: no separator stands in it, and it is none of
the names that lead back to a directory. So the path of a record leads into the root of its store
and no further, whatever the key of the namespace looks like.

What is written first gets a name of its own, which is the record's name with a longer extension.
The extension of a name is what stands behind its last dot, unless nothing stands before the dot,
and a namespace with the empty key has just such a record (`.json`). Keys are written without dots,
so that even then no two staging files and no record's file meet.

Paths are compared by the names in them (`Path.names`). Two paths with the same names may still be
written differently.

## Main results

* `Path.names_join`: a name that is put behind a directory is the last one of the path.
* `Path.cut?_append`: where a file's name is cut off from its extension.
* `RecordName.staging_injective`: the name of a staging file tells the namespace.
* `FileStore.keeps_apart`: the files of namespaces lie in the root and are kept apart.
-/

namespace Cutscene

/-! ### Paths -/

namespace Path

/-- The names in a path. Empty names and single dots mean nothing. -/
def names (path : String) : List (List Char) :=
  (split '/' path.toList).filter fun name => name ≠ [] ∧ name ≠ ['.']

/-- A name that leads from a directory to something in it, on any system. -/
structure IsComponent (name : List Char) : Prop where
  chars : ∀ c ∈ name, c ≠ '/' ∧ c ≠ '\\' ∧ c ≠ '\x00'
  ne_nil : name ≠ []
  ne_dot : name ≠ ['.']
  ne_dots : name ≠ ['.', '.']

/-- Splitting leaves a piece, if only an empty one. -/
theorem split_ne_nil (separator : Char) (chars : List Char) : split separator chars ≠ [] := by
  cases chars with
  | nil => simp [split]
  | cons c rest =>
      rw [split]
      split
      · simp
      · split <;> simp

/-- Pieces on both sides of a separator have nothing to do with each other. -/
theorem split_append (separator : Char) (front back : List Char) :
    split separator (front ++ separator :: back) =
      split separator front ++ split separator back := by
  induction front with
  | nil => simp [split]
  | cons c front ih =>
      rw [List.cons_append, split, split, ih]
      split
      · rfl
      · cases hfront : split separator front with
        | nil => exact absurd hfront (split_ne_nil separator front)
        | cons piece more => rfl

/-- What holds no separator is one piece. -/
theorem split_of_not_mem {separator : Char} {chars : List Char} (h : separator ∉ chars) :
    split separator chars = [chars] := by
  induction chars with
  | nil => rfl
  | cons c rest ih =>
      rw [List.mem_cons, not_or] at h
      rw [split, if_neg (Ne.symm h.1), ih h.2]

/-- **A name that is put behind a directory is the last one of the path**, whether or not the
directory ends in a separator, and also where there is none. -/
theorem names_join (directory : String) {name : String} (hname : IsComponent name.toList) :
    names (join directory name) = names directory ++ [name.toList] := by
  have hself : names name = [name.toList] := by
    have hslash : '/' ∉ name.toList := fun h => (hname.chars _ h).1 rfl
    rw [names, split_of_not_mem hslash]
    simp [hname.ne_nil, hname.ne_dot]
  have hbehind (front : List Char) : ((split '/' (front ++ '/' :: name.toList)).filter
      fun name => name ≠ [] ∧ name ≠ ['.']) =
      ((split '/' front).filter fun name => name ≠ [] ∧ name ≠ ['.']) ++ [name.toList] := by
    rw [split_append, List.filter_append]
    exact congrArg _ hself
  rw [join]
  split
  · next hdirectory =>
    rcases hdirectory with rfl | hlast
    · rw [String.empty_append, hself]
      rfl
    · obtain ⟨front, hfront⟩ := List.getLast?_eq_some_iff.mp hlast
      have hdirectory : names directory =
          (split '/' front).filter fun name => name ≠ [] ∧ name ≠ ['.'] := by
        rw [names, hfront, split_append, List.filter_append]
        simp [split]
      rw [hdirectory, names, String.toList_append, hfront, List.append_assoc,
        List.singleton_append, hbehind]
  · rw [names, String.toList_append, String.toList_append, List.append_assoc]
    exact hbehind directory.toList

/-- A path leads through the directory. -/
theorem isPrefix_join (directory name : String) :
    directory.toList <+: (join directory name).toList := by
  rw [join]
  split
  · rw [String.toList_append]
    exact List.prefix_append _ _
  · rw [String.toList_append, String.toList_append, List.append_assoc]
    exact List.prefix_append _ _

/-- **A file's name is cut at its last dot**, unless nothing stands before the dot. -/
theorem cut?_append (front : List Char) {extension : List Char} (h : '.' ∉ extension) :
    cut? (front ++ '.' :: extension) = if front = [] then none else some (front, extension) := by
  have hspan : (front ++ '.' :: extension).reverse.takeWhile (· ≠ '.') = extension.reverse := by
    rw [List.reverse_append, List.reverse_cons, List.append_assoc]
    refine takeWhile_append (fun c hc => ?_) (stops_cons (by decide))
    rw [List.mem_reverse] at hc
    have hne : c ≠ '.' := by
      rintro rfl
      exact h hc
    simpa using hne
  have hfront : (front ++ '.' :: extension).take
      ((front ++ '.' :: extension).length - extension.length - 1) = front := by
    have hlength : (front ++ '.' :: extension).length - extension.length - 1 = front.length := by
      simp
      omega
    rw [hlength, List.take_left]
  rw [cut?, hspan, List.reverse_reverse, hfront]
  by_cases hnil : front = [] <;> simp [hnil]

end Path

/-! ### Names of records -/

namespace RecordName

/-- The digits of an escape are neither separators nor dots. -/
theorem upper_ne : ∀ n < 16, Hex.upper n ∉ ['/', '\\', '\x00', '.'] := by decide

/-- What is written for a byte is neither a separator nor a dot. -/
theorem ne_of_mem_encodeByte {b : UInt8} {c : Char} (hc : c ∈ encodeByte b) :
    c ∉ ['/', '\\', '\x00', '.'] := by
  rw [encodeByte] at hc
  split at hc
  · next hplain =>
    rw [List.mem_singleton.mp hc]
    intro hmark
    rw [isPlain] at hplain
    simp only [List.mem_cons, List.not_mem_nil, or_false] at hmark
    rcases hmark with hmark | hmark | hmark | hmark
    all_goals
      rw [hmark] at hplain
      cases hplain
  · have hbyte := b.toNat_lt
    simp only [List.mem_cons, List.not_mem_nil, or_false] at hc
    rcases hc with rfl | rfl | rfl
    · decide
    · exact upper_ne _ (by omega)
    · exact upper_ne _ (by omega)

/-- What is written of a namespace holds neither separators nor dots, whatever its key holds. -/
theorem ne_of_mem_stem {ns : Namespace} {c : Char} (hc : c ∈ stem ns) :
    c ∉ ['/', '\\', '\x00', '.'] := by
  obtain ⟨b, -, hc⟩ := List.mem_flatMap.mp hc
  exact ne_of_mem_encodeByte hc

/-- What stands before an ending makes a name with it, if no separator is in either of them and the
ending alone is longer than two dots. -/
theorem isComponent_append {front ending : List Char}
    (hfront : ∀ c ∈ front, c ∉ ['/', '\\', '\x00'])
    (hending : ending.all (· ∉ ['/', '\\', '\x00']) = true) (hlong : 2 < ending.length) :
    Path.IsComponent (front ++ ending) := by
  have hlength : 2 < (front ++ ending).length := by
    rw [List.length_append]
    omega
  refine ⟨fun c hc => ?_, fun h => ?_, fun h => ?_, fun h => ?_⟩
  · have hmarks : c ∉ ['/', '\\', '\x00'] := by
      rcases List.mem_append.mp hc with hc | hc
      · exact hfront c hc
      · exact of_decide_eq_true (List.all_eq_true.mp hending c hc)
    simpa using hmarks
  all_goals
    rw [h] at hlength
    simp at hlength

/-- The name of a record's file is a component of a path. -/
theorem isComponent_record (ns : Namespace) : Path.IsComponent (record ns) := by
  refine isComponent_append (fun c hc => ?_) (by decide) (by decide)
  have := ne_of_mem_stem hc
  simp_all

/-- **How a staging file is named.** Where nothing stands before the only dot of the record's name,
nothing is taken off it. -/
theorem staging_eq (ns : Namespace) :
    staging ns = (if stem ns = [] then record ns else stem ns) ++
      ['.', 'j', 's', 'o', 'n', '.', 't', 'm', 'p'] := by
  have hcut : Path.cut? (record ns) =
      if stem ns = [] then none else some (stem ns, ['j', 's', 'o', 'n']) :=
    Path.cut?_append (stem ns) (by decide)
  rw [staging, Path.withExtension, hcut]
  split <;> rfl

/-- The name of a staging file goes on where the record's name ends. -/
theorem record_isPrefix_staging (ns : Namespace) : record ns <+: staging ns := by
  rw [staging_eq]
  split
  · exact List.prefix_append _ _
  · exact ⟨['.', 't', 'm', 'p'], by simp [record]⟩

/-- So is the name of its staging file. -/
theorem isComponent_staging (ns : Namespace) : Path.IsComponent (staging ns) := by
  rw [staging_eq]
  refine isComponent_append (fun c hc => ?_) (by decide) (by decide)
  split at hc
  · have := (isComponent_record ns).chars c hc
    simp_all
  · have := ne_of_mem_stem hc
    simp_all

/-- **The name of a staging file tells the namespace.** No stem is the record's name of the empty
key, since that has a dot in it. -/
theorem staging_injective : Function.Injective staging := by
  have hdot (m n : Namespace) : record m ≠ stem n := by
    intro h
    have hmem : '.' ∈ stem n := by
      rw [← h]
      simp [record]
    exact ne_of_mem_stem hmem (by decide)
  intro m n h
  rw [staging_eq, staging_eq] at h
  have h := List.append_cancel_right h
  split at h <;> split at h
  · exact stem_injective (by simp [*])
  · exact absurd h (hdot m n)
  · exact absurd h.symm (hdot n m)
  · exact stem_injective h

end RecordName

/-! ### Files of a store -/

namespace FileStore

/-- The path under which a namespace's record is written at first. -/
def stagingPath (s : FileStore) (ns : Namespace) : String := Path.join s.root (stagingName ns)

/-- The path of a record is that of the root and one more name. -/
theorem names_recordPath (s : FileStore) (ns : Namespace) :
    Path.names (s.recordPath ns) = Path.names s.root ++ [RecordName.record ns] := by
  have hname : Path.IsComponent (recordName ns).toList := by
    rw [recordName, String.toList_ofList]
    exact RecordName.isComponent_record ns
  rw [recordPath, Path.names_join s.root hname, recordName, String.toList_ofList]

/-- So is the path of a staging file. -/
theorem names_stagingPath (s : FileStore) (ns : Namespace) :
    Path.names (s.stagingPath ns) = Path.names s.root ++ [RecordName.staging ns] := by
  have hname : Path.IsComponent (stagingName ns).toList := by
    rw [stagingName, String.toList_ofList]
    exact RecordName.isComponent_staging ns
  rw [stagingPath, Path.names_join s.root hname, stagingName, String.toList_ofList]

/-- Who can take the name of a staging file can take the record's name. -/
theorem utf8ByteSize_recordName_le (ns : Namespace) :
    (recordName ns).utf8ByteSize ≤ (stagingName ns).utf8ByteSize := by
  obtain ⟨more, hmore⟩ := RecordName.record_isPrefix_staging ns
  rw [stagingName, ← hmore, String.ofList_append, String.utf8ByteSize_append]
  exact Nat.le_add_right _ _

/-- No staging file is kept where a record is, that of another namespace included. -/
theorem stagingPath_ne_recordPath (s : FileStore) (a b : Namespace) :
    Path.names (s.stagingPath a) ≠ Path.names (s.recordPath b) := by
  rw [names_stagingPath, names_recordPath]
  intro h
  have hname := List.append_cancel_left h
  exact stagingName_ne_recordName a b (congrArg String.ofList (List.singleton_inj.mp hname))

/-- **The files of namespaces are kept apart.** The file of a record has a name of its own, directly
in the root. A save is about the root, a staging file and the record's file. No two namespaces have
the same record's file, nor the same staging file, and no staging file is a record's file. -/
theorem keeps_apart (s : FileStore) (a b : Namespace) :
    Path.IsComponent (recordName a).toList ∧
    s.root.toList <+: (s.recordPath a).toList ∧
    Path.names (s.recordPath a) = Path.names s.root ++ [(recordName a).toList] ∧
    (Path.names (s.recordPath a) = Path.names (s.recordPath b) ↔ a = b) ∧
    (∀ p, (saveSteps a p).map (SaveStep.subject s.root) =
      [s.root, s.stagingPath a, s.recordPath a]) ∧
    Path.names (s.stagingPath a) ≠ Path.names (s.recordPath b) ∧
    (Path.names (s.stagingPath a) = Path.names (s.stagingPath b) ↔ a = b) := by
  have hname : (recordName a).toList = RecordName.record a := String.toList_ofList
  refine ⟨?_, ?_, ?_, ?_, fun _ => rfl, stagingPath_ne_recordPath s a b, ?_⟩
  · rw [hname]
    exact RecordName.isComponent_record a
  · exact Path.isPrefix_join s.root (recordName a)
  · rw [hname, names_recordPath]
  · rw [names_recordPath, names_recordPath, List.append_cancel_left_eq, List.singleton_inj]
    exact RecordName.record_injective.eq_iff
  · rw [names_stagingPath, names_stagingPath, List.append_cancel_left_eq, List.singleton_inj]
    exact RecordName.staging_injective.eq_iff

/-- An empty key, and one that would lead upwards. -/
example : recordName ⟨""⟩ = ".json" ∧ stagingName ⟨""⟩ = ".json.json.tmp" ∧
    recordName ⟨".."⟩ = "%2E%2E.json" ∧ stagingName ⟨".."⟩ = "%2E%2E.json.tmp" := by decide +kernel

end FileStore

end Cutscene
