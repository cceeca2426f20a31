import Cutscene.Uuid
import Mathlib.Algebra.Ring.Nat

/-!
# The Text of an Identifier

An identifier is written as a row of hexadecimal digits, the highest first, with hyphens between
its groups. Both ways back are exact: the groups are found where they were put, and a row of digits
writes the number that it was made from, as far as there are digits for it.

## Main results

* `Hex.ofDigits?_digits`: digits write the number that they were made from.
* `Uuid.ofJson?_toJson`: an identifier is found again in its text.
-/

namespace Cutscene

/-! ### Digits -/

namespace Hex

/-- A digit is read as the value that it is written for. -/
theorem value?_lower : ∀ n < 16, value? (lower n) = some n := by decide

/-- There are as many digits as are asked for. -/
theorem length_digits (count n : Nat) : (digits count n).length = count := by
  rw [digits, List.length_map, List.length_range]

/-- The last digit is that of the remainder, and the others are those of the quotient. -/
theorem digits_succ (count n : Nat) :
    digits (count + 1) n = digits count (n / 16) ++ [lower (n % 16)] := by
  have hothers : ∀ i ∈ List.range count, lower ((n >>> (4 * (count + 1 - 1 - i))) % 16) =
      lower (((n / 16) >>> (4 * (count - 1 - i))) % 16) := by
    intro i hi
    have hi := List.mem_range.mp hi
    rw [show 4 * (count + 1 - 1 - i) = 4 + 4 * (count - 1 - i) by omega, Nat.shiftRight_add,
      show n >>> 4 = n / 16 from Nat.shiftRight_eq_div_pow n 4]
  rw [digits, List.range_succ, List.map_append, List.map_congr_left hothers, List.map_singleton,
    Nat.add_sub_cancel, Nat.sub_self, Nat.mul_zero, Nat.shiftRight_zero, digits]

/-- **Digits write the number that they were made from**, as far as there are digits for it. -/
theorem ofDigits?_digits (count n : Nat) : ofDigits? (digits count n) = some (n % 16 ^ count) := by
  induction count generalizing n with
  | zero => rw [Nat.pow_zero, Nat.mod_one]; rfl
  | succ count ih =>
      have hfront := ih (n / 16)
      rw [ofDigits?] at hfront
      have hlast := value?_lower (n % 16) (Nat.mod_lt n (by decide))
      have hdivide : n % 16 ^ (count + 1) = 16 * (n / 16 % 16 ^ count) + n % 16 := by
        rw [Nat.pow_succ', Nat.mod_mul, Nat.add_comm]
      rw [ofDigits?, digits_succ, List.foldlM_append, hfront, hdivide]
      change ((value? (lower (n % 16))).map _).bind _ = _
      rw [hlast]
      rfl

end Hex

/-! ### Groups -/

namespace Uuid

/-- **Groups are found where they were put.** Induction on the groups. -/
theorem unhyphenate?_hyphenate {groups : List Nat} {digits : List Char} (hne : groups ≠ [])
    (hlength : digits.length = groups.sum) :
    unhyphenate? groups (hyphenate groups digits) = some digits := by
  fun_induction hyphenate groups digits with
  | case1 => exact absurd rfl hne
  | case2 n digits =>
      rw [unhyphenate?, if_pos (by rw [hlength, List.sum_singleton])]
  | case3 n groups digits hgroups ih =>
      obtain ⟨m, rest, rfl⟩ := List.exists_cons_of_ne_nil fun h => hgroups h
      rw [List.sum_cons] at hlength
      have htake : (digits.take n).length = n := by rw [List.length_take]; omega
      have hrest := ih (List.cons_ne_nil m rest) (by rw [List.length_drop]; omega)
      rw [unhyphenate?, List.drop_left' htake, List.take_left' htake]
      · change (unhyphenate? (m :: rest) _).map _ = _
        rw [hrest, Option.map_some, List.take_append_drop]
      · exact hgroups

/-- Between the groups there is one hyphen each. -/
theorem length_hyphenate {groups : List Nat} {digits : List Char}
    (hlength : digits.length = groups.sum) :
    (hyphenate groups digits).length = digits.length + (groups.length - 1) := by
  fun_induction hyphenate groups digits with
  | case1 => rw [hlength]; rfl
  | case2 n digits => rfl
  | case3 n groups digits hgroups ih =>
      obtain ⟨m, rest, rfl⟩ := List.exists_cons_of_ne_nil fun h => hgroups h
      rw [List.sum_cons] at hlength
      have hrest := ih (by rw [List.length_drop]; omega)
      simp only [List.length_append, List.length_cons, hrest, List.length_take, List.length_drop]
      omega

/-- **An identifier is found again in its text.** -/
theorem ofText?_text (u : Uuid) : ofText? u.text = some u := by
  have hlength := Hex.length_digits 32 u.bits.toNat
  have htext : (hyphenate groups (Hex.digits 32 u.bits.toNat)).length = 36 := by
    rw [length_hyphenate hlength, hlength]
    rfl
  have hbits : BitVec.ofNat 128 (u.bits.toNat % 16 ^ 32) = u.bits := by
    rw [show 16 ^ 32 = 2 ^ 128 by decide, Nat.mod_eq_of_lt u.bits.isLt, BitVec.ofNat_toNat,
      BitVec.setWidth_eq]
  rw [ofText?, text, String.toList_ofList, digits?, if_neg (by rw [htext]; decide), if_pos htext,
    unhyphenate?_hyphenate (by decide) hlength, Option.bind_some, Hex.ofDigits?_digits,
    Option.map_some, hbits]

/-- So is one that is written as a value. -/
theorem ofJson?_toJson (u : Uuid) : ofJson? u.toJson = some u := ofText?_text u

end Uuid

end Cutscene
