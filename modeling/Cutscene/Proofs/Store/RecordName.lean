import Cutscene.Store.FileStore
import Mathlib.Logic.Function.Defs

/-!
# No Two Namespaces Share a File

The name of a namespace's file spells out the bytes of its key, each by a character that stands for
itself or by a percent sign and two digits. Which byte it was can be told from what is written, and
how far it goes, so that the name tells the key. A file under which a record is staged has another
ending than any record's.

## Main results

* `RecordName.encodeByte_append_inj`: what is written for a byte tells the byte.
* `FileStore.recordName_injective`: the name of a record's file tells the namespace.
* `FileStore.stagingName_ne_recordName`: no record's file is a staging file.
-/

namespace Cutscene

/-! ### Bytes -/

namespace RecordName

/-- The bytes of a row from a place on. Induction along the row. -/
theorem toList_loop_eq (bytes : ByteArray) (i : Nat) (done : List UInt8) :
    ByteArray.toList.loop bytes i done = done.reverse ++ bytes.data.toList.drop i := by
  fun_induction ByteArray.toList.loop bytes i done with
  | case1 i done h ih =>
      have hlt : i < bytes.data.toList.length := h
      have hbyte : bytes.get! i = bytes.data.toList[i] := getElem!_pos bytes.data i h
      rw [ih, List.reverse_cons, List.append_assoc, List.singleton_append,
        List.drop_eq_getElem_cons hlt, hbyte]
  | case2 i done h => rw [List.drop_eq_nil_of_le (Nat.le_of_not_lt h), List.append_nil]

/-- Bytes are told by the list of them. -/
theorem toList_injective {a b : ByteArray} (h : a.toList = b.toList) : a = b := by
  rw [ByteArray.toList, ByteArray.toList, toList_loop_eq, toList_loop_eq,
    List.drop_zero, List.drop_zero, List.reverse_nil, List.nil_append, List.nil_append] at h
  exact ByteArray.ext (Array.toList_inj.mp h)

/-! ### Names -/

/-- A digit of an escape tells its value. -/
theorem upper_injective : ∀ m < 16, ∀ n < 16, Hex.upper m = Hex.upper n → m = n := by decide

/-- A percent sign does not stand for itself. -/
theorem ne_percent_of_isPlain {b : UInt8} (hb : isPlain b = true) : Char.ofNat b.toNat ≠ '%' := by
  intro h
  rw [isPlain, h] at hb
  cases hb

/-- A byte that stands for itself is told by its character. -/
theorem ofNat_toNat_injective {a b : UInt8} (h : Char.ofNat a.toNat = Char.ofNat b.toNat) :
    a = b := by
  have hbyte (b : UInt8) : (Char.ofNat b.toNat).toNat = b.toNat := by
    rw [Char.ofNat, dif_pos (.inl (Nat.lt_trans b.toNat_lt (by decide)))]
    rfl
  exact UInt8.toNat_inj.mp (by rw [← hbyte a, h, hbyte b])

/-- **What is written for a byte tells the byte**, and where it ends. -/
theorem encodeByte_append_inj {a b : UInt8} {s t : List Char}
    (h : encodeByte a ++ s = encodeByte b ++ t) : a = b ∧ s = t := by
  rw [encodeByte, encodeByte] at h
  split at h
  · next ha =>
    split at h
    · injection h with hchar hrest
      exact ⟨ofNat_toNat_injective hchar, hrest⟩
    · injection h with hchar _
      exact absurd hchar (ne_percent_of_isPlain ha)
  · split at h
    · next hb =>
      injection h with hchar _
      exact absurd hchar.symm (ne_percent_of_isPlain hb)
    · injection h with _ h
      injection h with hhigh h
      injection h with hlow hrest
      have ha := a.toNat_lt
      have hb := b.toNat_lt
      have hhigh := upper_injective _ (by omega) _ (by omega) hhigh
      have hlow := upper_injective _ (Nat.mod_lt _ (by decide)) _ (Nat.mod_lt _ (by decide)) hlow
      exact ⟨UInt8.toNat_inj.mp (by omega), hrest⟩

/-- For each byte something is written. -/
theorem encodeByte_ne_nil (b : UInt8) : encodeByte b ≠ [] := by
  rw [encodeByte]
  split <;> rintro ⟨⟩

/-- What is written for some bytes, one after the other, tells all of them. -/
theorem flatMap_encodeByte_injective : Function.Injective (List.flatMap encodeByte) := by
  intro as bs h
  induction as generalizing bs with
  | nil =>
      cases bs with
      | nil => rfl
      | cons b bs =>
          rw [List.flatMap_nil, List.flatMap_cons] at h
          exact absurd (List.append_eq_nil_iff.mp h.symm).1 (encodeByte_ne_nil b)
  | cons a as ih =>
      cases bs with
      | nil =>
          rw [List.flatMap_nil, List.flatMap_cons] at h
          exact absurd (List.append_eq_nil_iff.mp h).1 (encodeByte_ne_nil a)
      | cons b bs =>
          rw [List.flatMap_cons, List.flatMap_cons] at h
          obtain ⟨rfl, hrest⟩ := encodeByte_append_inj h
          rw [ih hrest]

/-- The name without its extension tells the namespace. -/
theorem stem_injective : Function.Injective stem := by
  intro m n h
  have hbytes := toList_injective (flatMap_encodeByte_injective h)
  have hkey : m.key = n.key := String.toByteArray_inj.mp hbytes
  cases m
  cases n
  cases hkey
  rfl

/-- So does the name with its extension. -/
theorem record_injective : Function.Injective record :=
  fun _ _ h => stem_injective (List.append_cancel_right h)

end RecordName

namespace FileStore

/-- **The name of a record's file tells the namespace.** -/
theorem recordName_injective : Function.Injective recordName :=
  fun _ _ h => RecordName.record_injective (String.ofList_inj.mp h)

/-- **No record's file is a staging file**: their names end differently. -/
theorem stagingName_ne_recordName (m n : Namespace) : stagingName m ≠ recordName n := by
  intro h
  have hchars : RecordName.staging m = RecordName.record n := String.ofList_inj.mp h
  have hstaging : (RecordName.staging m).getLast? = some 'p' := by
    rw [RecordName.staging, Path.withExtension, List.getLast?_append]
    rfl
  have hrecord : (RecordName.record n).getLast? = some 'n' := by
    rw [RecordName.record, List.getLast?_append]
    rfl
  rw [hchars, hrecord] at hstaging
  cases hstaging

end FileStore

end Cutscene
