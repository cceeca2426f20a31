import Mathlib.Logic.Function.Defs

/-!
# Spans and Decimal Digits

Texts are taken apart into spans, each of which goes on as long as its characters pass a test. A
span that is followed by something that fails the test is found again (`takeWhile_append`,
`dropWhile_append`).

The decimal digits of a number are such a span. They tell the number, also within a message
(`append_toString_inj`), and begin with a zero only if they are nothing else.
-/

namespace Cutscene

/-- What follows a span: nothing, or something that fails the test. -/
def Stops (test : Char → Bool) (rest : List Char) : Prop := ∀ c ∈ rest.head?, test c = false

section Spans

variable {test : Char → Bool} {span rest : List Char}

/-- A span stops at a character that fails the test. -/
theorem stops_cons {c : Char} (hc : test c = false) : Stops test (c :: rest) := by
  rintro d ⟨⟩
  exact hc

/-- A span that something fails the test behind is taken as a whole. -/
theorem takeWhile_append (hspan : ∀ c ∈ span, test c = true) (hrest : Stops test rest) :
    (span ++ rest).takeWhile test = span := by
  rw [List.takeWhile_append_of_pos hspan]
  cases rest with
  | nil => rw [List.takeWhile_nil, List.append_nil]
  | cons c rest =>
      rw [List.takeWhile_cons_of_neg (by rw [hrest c rfl]; decide), List.append_nil]

/-- What stands behind such a span is left over. -/
theorem dropWhile_append (hspan : ∀ c ∈ span, test c = true) (hrest : Stops test rest) :
    (span ++ rest).dropWhile test = rest := by
  rw [List.dropWhile_append_of_pos hspan]
  cases rest with
  | nil => rfl
  | cons c rest => rw [List.dropWhile_cons_of_neg (by rw [hrest c rfl]; decide)]

end Spans

/-! ### Digits -/

/-- The digits of a number are digits. -/
theorem isDigit_of_mem_toDigits {n : Nat} {c : Char} (hc : c ∈ Nat.toDigits 10 n) :
    c.isDigit = true :=
  Nat.isDigit_of_mem_toDigits (by decide) (by decide) hc

/-- The digits of a number tell the number. -/
theorem toDigits_injective : Function.Injective (Nat.toDigits 10) := by
  intro m n h
  rw [← Nat.ofDigitChars_ten_toDigits (n := m), h, Nat.ofDigitChars_ten_toDigits]

/-- Of two texts that begin with a number, the numbers are the same if the texts are. -/
theorem toDigits_append_inj {m n : Nat} {rest rest' : List Char}
    (hrest : Stops Char.isDigit rest) (hrest' : Stops Char.isDigit rest')
    (h : Nat.toDigits 10 m ++ rest = Nat.toDigits 10 n ++ rest') : m = n ∧ rest = rest' := by
  have hdigits := congrArg (List.takeWhile Char.isDigit) h
  rw [takeWhile_append (fun _ => isDigit_of_mem_toDigits) hrest,
    takeWhile_append (fun _ => isDigit_of_mem_toDigits) hrest'] at hdigits
  obtain rfl := toDigits_injective hdigits
  exact ⟨rfl, List.append_cancel_left h⟩

/-- **A message tells the number in it**, and what is said after the number. -/
theorem append_toString_inj {front back back' : String} {m n : Nat}
    (hback : Stops Char.isDigit back.toList) (hback' : Stops Char.isDigit back'.toList)
    (h : front ++ toString m ++ back = front ++ toString n ++ back') : m = n ∧ back = back' := by
  have toList_number (n : Nat) (back : String) : (front ++ toString n ++ back).toList =
      front.toList ++ (Nat.toDigits 10 n ++ back.toList) := by
    rw [String.toList_append, String.toList_append, List.append_assoc,
      Nat.toString_eq_ofList_toDigits, String.toList_ofList]
  have hchars := congrArg String.toList h
  rw [toList_number, toList_number] at hchars
  obtain ⟨hnumber, hrest⟩ := toDigits_append_inj hback hback' (List.append_cancel_left hchars)
  exact ⟨hnumber, String.toList_inj.mp hrest⟩

/-- No digit but that of zero is written as a zero. -/
theorem digitChar_eq_zero : ∀ n < 10, n.digitChar = '0' → n = 0 := by decide

/-- **Only the digits of zero begin with a zero.** Induction on the number, from its last digit to
its first. -/
theorem eq_zero_of_head?_toDigits {n : Nat} (h : (Nat.toDigits 10 n).head? = some '0') : n = 0 := by
  induction n using Nat.strongRecOn with
  | _ n ih =>
      by_cases hlt : n < 10
      · rw [Nat.toDigits_of_lt_base hlt, List.head?_cons, Option.some.injEq] at h
        exact digitChar_eq_zero n hlt h
      · obtain ⟨c, rest, hfront⟩ := List.exists_cons_of_ne_nil
          (Nat.toDigits_ne_nil (n := n / 10) (b := 10))
        rw [Nat.toDigits_of_base_le (by decide) (by omega), hfront, List.cons_append,
          List.head?_cons] at h
        have hzero := ih (n / 10) (by omega) (by rw [hfront, List.head?_cons, h])
        omega

end Cutscene
