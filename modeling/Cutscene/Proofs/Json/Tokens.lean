import Cutscene.Json.Printer
import Cutscene.Proofs.Digits
import Cutscene.Proofs.Json.Grammar

/-!
# The Tokens of a Text

A text is read token by token. This module shows of each kind of token that all its texts are read
as what they spell, whatever follows: a string with any of its escapes, a numeral, a word, and the
marks between them. A numeral and a word end where something stands that cannot go on with them; a
string and a mark end by themselves.

What is written is one of these texts: the escapes that are written spell the string
(`Quoted.quotes_write`), and the digits of a whole number spell a numeral
(`Numeral.spells_intChars`). A floating-point number is written as a numeral, too, but reading
rounds twice, so that not all of them are read as what they were: those that are *survive*
(`Binary64.Survives`).

## Main results

* `Quoted.Quotes.read?_eq`: every text of a string is read as the string.
* `Numeral.ofChars?_eq_some_iff`: the texts of a numeral are read as it, and no others.
* `Json.Token.first?_string`, `Json.Token.first?_numeral`, `Json.Token.first?_word`,
  `Json.Token.first?_mark`: the first tokens of texts.
* `Json.Token.first?_blanks`: blanks in front of a token do not count.
-/

namespace Cutscene

/-! ### Strings -/

namespace Quoted

/-- **All that spells pieces is read as them**, up to the closing quote. Induction on the text, with
the pieces that have been read so far. -/
theorem Spells.scan_eq {pieces : List Piece} {text : List Char} (h : Spells pieces text)
    (done : List Piece) (rest : List Char) :
    scan done (text ++ '"' :: rest) = some (pieces.reverse ++ done, rest) := by
  induction h generalizing done with
  | nil => rfl
  | @plain c pieces text hspace hquote hslash _ ih =>
      have hplain : ¬(c < ' ' ∨ c = '\\') := not_or.mpr ⟨hspace, hslash⟩
      rw [List.cons_append, scan, if_neg hplain, ih, List.reverse_cons, List.append_assoc]
      · rfl
      all_goals simp [hquote, hslash]
  | @escaped mark c pieces text hmark _ ih =>
      have hunit : mark ≠ 'u' := by
        rintro rfl
        cases hmark
      rw [List.cons_append, List.cons_append, scan, hmark]
      · dsimp only
        rw [ih, List.reverse_cons, List.append_assoc]
        rfl
      · exact fun _ _ _ _ _ hmark _ => hunit hmark
  | unit hunit _ ih =>
      simp only [List.cons_append]
      rw [scan, hunit]
      dsimp only
      rw [ih, List.reverse_cons, List.append_assoc]
      rfl

/-- **Every text of a string is read as the string.** -/
theorem Quotes.read?_eq {s : Option String} {text : List Char} (h : Quotes s text)
    (rest : List Char) : ∃ after, text ++ rest = '"' :: after ∧ read? after = some (s, rest) := by
  obtain ⟨hpieces⟩ := h
  refine ⟨_, by rw [List.cons_append, List.cons_append, List.append_assoc, List.singleton_append],
    ?_⟩
  rw [read?, hpieces.scan_eq, List.append_nil, Option.map_some]
  dsimp only
  rw [List.reverse_reverse]

/-- What a written character is read as: an escaped unit if there is no shorter way to write it. -/
def piece (c : Char) : Piece :=
  if c < ' ' ∧ c ∉ ['\x08', '\x0c', '\n', '\r', '\t'] then .unit c.toNat else .char c

/-- The characters before the space have small numbers. -/
theorem toNat_lt_of_lt_space {c : Char} (hc : c < ' ') : c.toNat < 32 :=
  UInt32.lt_iff_toNat_lt.mp hc

/-- Each of these numbers is read back from its four digits. -/
theorem unit?_lower : ∀ n < 32,
    unit? '0' '0' (Hex.lower (n / 16)) (Hex.lower (n % 16)) = some n := by decide

/-- **A written character spells one piece.** -/
theorem Spells.escape {pieces : List Piece} {text : List Char} (h : Spells pieces text) (c : Char) :
    Spells (piece c :: pieces) (Quoted.escape c ++ text) := by
  unfold Quoted.escape
  split
  · next h => subst h; exact .escaped rfl ‹_›
  split
  · next h => subst h; exact .escaped rfl ‹_›
  split
  · next h => subst h; exact .escaped rfl ‹_›
  split
  · next h => subst h; exact .escaped rfl ‹_›
  split
  · next h => subst h; exact .escaped rfl ‹_›
  split
  · next h => subst h; exact .escaped rfl ‹_›
  split
  · next h => subst h; exact .escaped rfl ‹_›
  split
  · next hlt =>
    have hpiece : piece c = .unit c.toNat := if_pos ⟨hlt, by simp [*]⟩
    rw [hpiece]
    exact .unit (unit?_lower c.toNat (toNat_lt_of_lt_space hlt)) h
  · next hquote hslash _ _ _ _ _ hlt =>
    have hpiece : piece c = .char c := if_neg fun h => hlt h.1
    rw [hpiece]
    exact .plain hlt hquote hslash h

/-- A string that is escaped character by character is spelled piece by piece. -/
theorem spells_flatMap_escape (cs : List Char) : Spells (cs.map piece) (cs.flatMap escape) := by
  induction cs with
  | nil => exact .nil
  | cons c cs ih =>
      rw [List.map_cons, List.flatMap_cons]
      exact ih.escape c

/-- The pieces of a written string stand for its characters. -/
theorem chars?_map_piece (cs : List Char) : chars? (cs.map piece) = some cs := by
  induction cs with
  | nil => rfl
  | cons c cs ih =>
      rw [List.map_cons, piece]
      split
      · next h =>
        have hlt := toNat_lt_of_lt_space h.1
        have hhigh : isHigh c.toNat = false := by
          rw [isHigh, decide_eq_false (by omega), Bool.false_and]
        have hlow : isLow c.toNat = false := by
          rw [isLow, decide_eq_false (by omega), Bool.false_and]
        rw [chars?.eq_def]
        dsimp only
        rw [hhigh, hlow, ih, Char.ofNat_toNat]
        rfl
      · rw [chars?, ih]
        rfl

/-- **A written string is a text of the string.** -/
theorem quotes_write (s : String) : Quotes (some s) (write s) := by
  have h := Quotes.mk (spells_flatMap_escape s.toList)
  rwa [chars?_map_piece, Option.map_some, String.ofList_toList] at h

end Quoted

/-! ### Numerals -/

namespace Numeral

/-- A row of digits is not empty and has nothing else in it. -/
theorem digits_iff {row : List Char} :
    Digits row ↔ row ≠ [] ∧ row.all Char.isDigit = true := by
  rw [List.all_eq_true]
  exact ⟨fun h => ⟨h.ne_nil, h.isDigit⟩, fun h => ⟨h.1, h.2⟩⟩

/-- A row of digits begins with a digit. -/
theorem Digits.exists_cons {row : List Char} (h : Digits row) :
    ∃ c rest, row = c :: rest ∧ c.isDigit = true := by
  obtain ⟨c, rest, rfl⟩ := List.exists_cons_of_ne_nil h.ne_nil
  exact ⟨c, rest, rfl, h.isDigit c List.mem_cons_self⟩

/-- **Exponents are read as what they are, and nothing else is.** -/
theorem exponent?_eq_some_iff {text : List Char} {e : Int} :
    exponent? text = some e ↔ SpellsExponent e text := by
  constructor
  · intro h
    cases text with
    | nil =>
        cases h
        exact .missing
    | cons mark rest =>
        rw [exponent?.eq_def] at h
        dsimp only at h
        obtain ⟨hmark, h⟩ := Option.ite_none_right_eq_some.mp h
        split at h
        all_goals
          obtain ⟨hrow, h⟩ := Option.ite_none_right_eq_some.mp h
          cases h
        · exact .minus hmark (digits_iff.mpr hrow)
        · exact .plus hmark (digits_iff.mpr hrow)
        · exact .plain hmark (digits_iff.mpr hrow)
  · intro h
    cases h with
    | missing => rfl
    | plain hmark hrow =>
        -- A digit is no sign, so that only the last branch of the three applies.
        obtain ⟨c, rest, rfl, hc⟩ := hrow.exists_cons
        rw [exponent?, if_pos hmark]
        · exact if_pos (digits_iff.mp hrow)
        all_goals
          rintro digits ⟨⟩
          cases hc
    | plus hmark hrow =>
        rw [exponent?, if_pos hmark]
        exact if_pos (digits_iff.mp hrow)
    | minus hmark hrow =>
        rw [exponent?, if_pos hmark]
        exact if_pos (digits_iff.mp hrow)

/-- What follows the digits of a number cannot go on with them. -/
theorem SpellsExponent.stops_isDigit {e : Int} {text : List Char} (h : SpellsExponent e text) :
    Stops Char.isDigit text := by
  cases h with
  | missing => nofun
  | plain hmark | plus hmark | minus hmark =>
      rcases hmark with rfl | rfl <;> exact stops_cons rfl

/-- An exponent does not begin with a point. -/
theorem SpellsExponent.ne_point {e : Int} {text : List Char} (h : SpellsExponent e text)
    (rest : List Char) : text ≠ '.' :: rest := by
  rintro rfl
  cases h with
  | plain hmark | plus hmark | minus hmark => simp at hmark

/-- What is taken as long as it is digits is digits. -/
theorem isDigit_of_mem_takeWhile {text : List Char} :
    ∀ c ∈ text.takeWhile Char.isDigit, c.isDigit = true :=
  List.all_eq_true.mp List.all_takeWhile

/-- A row of digits may stand in front unless it has a zero too many. -/
theorem front_iff {row : List Char} (hrow : ∀ c ∈ row, c.isDigit = true) :
    Front row ↔ ¬(row = [] ∨ (row.head? = some '0' ∧ row ≠ ['0'])) := by
  constructor
  · rintro h (hnil | ⟨hzero, hne⟩)
    · exact h.ne_nil hnil
    · exact hne (h.eq_zero hzero)
  · intro h
    refine ⟨⟨fun hnil => h (.inl hnil), hrow⟩, fun hzero => ?_⟩
    exact Decidable.byContradiction fun hne => h (.inr ⟨hzero, hne⟩)

/-- **Numerals without a sign are read as what they are, and nothing else is.** -/
theorem unsigned?_eq_some_iff {negative : Bool} {text : List Char} {n : Numeral} :
    unsigned? negative text = some n ↔ SpellsUnsigned negative n text := by
  constructor
  · intro h
    rw [unsigned?] at h
    dsimp only at h
    obtain ⟨hfront, h⟩ := Option.ite_none_left_eq_some.mp h
    have hfront := (front_iff isDigit_of_mem_takeWhile).mpr hfront
    split at h
    · next rest hrest =>
      obtain ⟨hfraction, h⟩ := Option.ite_none_left_eq_some.mp h
      obtain ⟨e, he, h⟩ := Option.map_eq_some_iff.mp h
      cases h
      have hspells : SpellsUnsigned negative _ _ := .decimal hfront
        ⟨hfraction, isDigit_of_mem_takeWhile⟩ (exponent?_eq_some_iff.mp he)
      rwa [List.takeWhile_append_dropWhile, ← hrest, List.takeWhile_append_dropWhile] at hspells
    · obtain ⟨e, he, h⟩ := Option.map_eq_some_iff.mp h
      cases h
      have hspells : SpellsUnsigned negative _ _ := .integer hfront (exponent?_eq_some_iff.mp he)
      rwa [List.takeWhile_append_dropWhile] at hspells
  · intro h
    cases h with
    | @integer front text e hfront hexponent =>
        have hspan := takeWhile_append hfront.isDigit hexponent.stops_isDigit
        have hrest := dropWhile_append hfront.isDigit hexponent.stops_isDigit
        rw [unsigned?, hspan, hrest]
        dsimp only
        rw [if_neg ((front_iff hfront.isDigit).mp hfront)]
        split
        · next rest => exact absurd rfl (hexponent.ne_point rest)
        · rw [exponent?_eq_some_iff.mpr hexponent, Option.map_some]
    | @decimal front fraction text e hfront hfraction hexponent =>
        -- The digits before the point end at the point, and those behind it at the exponent.
        have hpoint : Stops Char.isDigit ('.' :: (fraction ++ text)) := stops_cons rfl
        have hspan := takeWhile_append hfront.isDigit hpoint
        have hrest := dropWhile_append hfront.isDigit hpoint
        rw [unsigned?, hspan, hrest]
        dsimp only
        rw [if_neg ((front_iff hfront.isDigit).mp hfront)]
        change (if (fraction ++ text).takeWhile Char.isDigit = [] then none else _) = _
        rw [takeWhile_append hfraction.isDigit hexponent.stops_isDigit,
          dropWhile_append hfraction.isDigit hexponent.stops_isDigit, if_neg hfraction.ne_nil,
          exponent?_eq_some_iff.mpr hexponent, Option.map_some]

/-- A numeral without a sign begins with a digit. -/
theorem SpellsUnsigned.exists_cons {negative : Bool} {n : Numeral} {text : List Char}
    (h : SpellsUnsigned negative n text) : ∃ c rest, text = c :: rest ∧ c.isDigit = true := by
  cases h with
  | integer hfront | decimal hfront =>
      obtain ⟨c, rest, rfl, hc⟩ := hfront.toDigits.exists_cons
      exact ⟨c, _, rfl, hc⟩

/-- **Numerals are read as what they are, and nothing else is.** -/
theorem ofChars?_eq_some_iff {text : List Char} {n : Numeral} :
    ofChars? text = some n ↔ Spells n text := by
  constructor
  · intro h
    rw [ofChars?.eq_def] at h
    split at h
    · exact .negative (unsigned?_eq_some_iff.mp h)
    · exact .positive (unsigned?_eq_some_iff.mp h)
  · intro h
    cases h with
    | negative h => exact unsigned?_eq_some_iff.mpr h
    | positive h =>
        obtain ⟨c, rest, rfl, hc⟩ := h.exists_cons
        rw [ofChars?]
        · exact unsigned?_eq_some_iff.mpr h
        · rintro _ ⟨⟩
          cases hc

/-- A text that begins as a number does, and has nothing in it that could not go on with one. -/
structure Written (text : List Char) : Prop where
  head : ∃ c ∈ text.head?, c.isDigit = true ∨ c = '-'
  parts : ∀ c ∈ text, isPart c = true

/-- A digit is part of a number. -/
theorem isPart_of_isDigit {c : Char} (hc : c.isDigit = true) : isPart c = true := by
  rw [isPart, hc]
  rfl

/-- So is a row of digits. -/
theorem Digits.isPart {row : List Char} (h : Digits row) : ∀ c ∈ row, isPart c = true :=
  fun c hc => isPart_of_isDigit (h.isDigit c hc)

/-- So is an exponent. -/
theorem SpellsExponent.isPart {e : Int} {text : List Char} (h : SpellsExponent e text) :
    ∀ c ∈ text, isPart c = true := by
  have hmark {c : Char} (hc : c = 'e' ∨ c = 'E') : Numeral.isPart c = true := by
    rcases hc with rfl | rfl <;> rfl
  cases h with
  | missing => exact List.forall_mem_nil _
  | plain hc hrow => exact List.forall_mem_cons.mpr ⟨hmark hc, hrow.isPart⟩
  | plus hc hrow | minus hc hrow =>
      exact List.forall_mem_cons.mpr ⟨hmark hc, List.forall_mem_cons.mpr ⟨rfl, hrow.isPart⟩⟩

/-- So is a numeral without a sign. -/
theorem SpellsUnsigned.isPart {negative : Bool} {n : Numeral} {text : List Char}
    (h : SpellsUnsigned negative n text) : ∀ c ∈ text, isPart c = true := by
  cases h with
  | integer hfront hexponent =>
      exact List.forall_mem_append.mpr ⟨hfront.isPart, hexponent.isPart⟩
  | decimal hfront hfraction hexponent =>
      exact List.forall_mem_append.mpr ⟨hfront.isPart, List.forall_mem_cons.mpr
        ⟨rfl, List.forall_mem_append.mpr ⟨hfraction.isPart, hexponent.isPart⟩⟩⟩

/-- A numeral is a single span. -/
theorem Spells.written {n : Numeral} {text : List Char} (h : Spells n text) : Written text := by
  cases h with
  | positive h =>
      refine ⟨?_, h.isPart⟩
      obtain ⟨c, rest, rfl, hc⟩ := h.exists_cons
      exact ⟨c, rfl, .inl hc⟩
  | negative h => exact ⟨⟨'-', rfl, .inr rfl⟩, List.forall_mem_cons.mpr ⟨rfl, h.isPart⟩⟩

/-! ### Written numbers -/

/-- The digits of a whole number may stand in front, since it has no zero too many. -/
theorem front_toDigits (n : Nat) : Front (Nat.toDigits 10 n) where
  ne_nil := Nat.toDigits_ne_nil
  isDigit _ := isDigit_of_mem_toDigits
  eq_zero hzero := by
    rw [eq_zero_of_head?_toDigits hzero]
    rfl

/-- **The digits of a whole number are a numeral.** -/
theorem spells_intChars (n : Int) :
    Spells ⟨decide (n < 0), Nat.toDigits 10 n.natAbs, [], 0, true⟩ (Json.intChars n) := by
  have hunsigned : SpellsUnsigned (decide (n < 0)) _ _ :=
    .integer (front_toDigits n.natAbs) .missing
  rw [List.append_nil] at hunsigned
  rw [Json.intChars]
  split
  · next hneg =>
    rw [decide_eq_true hneg] at hunsigned ⊢
    exact .negative hunsigned
  · next hpos =>
    rw [decide_eq_false hpos] at hunsigned ⊢
    exact .positive hunsigned

/-- The whole numbers that 64 bits hold, with or without a sign. -/
def Fits (n : Int) : Prop := Int64.minValue.toInt ≤ n ∧ n < UInt64.size

/-- **Written digits are read as their number.** -/
theorem value_intChars {n : Int} (hn : Fits n) :
    (⟨decide (n < 0), Nat.toDigits 10 n.natAbs, [], 0, true⟩ : Numeral).value = .int n := by
  obtain ⟨hmin, hmax⟩ := hn
  have hdigits : natOfDigits (Nat.toDigits 10 n.natAbs) = n.natAbs := Nat.ofDigitChars_ten_toDigits
  have hint :
      (⟨decide (n < 0), Nat.toDigits 10 n.natAbs, [], 0, true⟩ : Numeral).int? = some n := by
    rw [int?]
    dsimp only
    rw [hdigits]
    by_cases hneg : n < 0
    · rw [decide_eq_true hneg, if_pos rfl, if_pos rfl, if_pos (by omega)]
      congr 1
      omega
    · rw [decide_eq_false hneg, if_pos rfl, if_neg (by decide), if_pos (by omega)]
      congr 1
      omega
  rw [value, hint]

end Numeral

namespace Binary64

/-- The number survives being written: its text is that of a numeral with the number as value. -/
def Survives (x : Binary64) : Prop := (Numeral.ofChars? x.text).map Numeral.value = some (.float x)

/-- What survives has the text of a numeral. -/
theorem Survives.exists_spells {x : Binary64} (hx : x.Survives) :
    ∃ n, Numeral.Spells n x.text ∧ n.value = .float x := by
  obtain ⟨n, hn, hvalue⟩ := Option.map_eq_some_iff.mp hx
  exact ⟨n, Numeral.ofChars?_eq_some_iff.mp hn, hvalue⟩

end Binary64

/-! ### First tokens -/

namespace Json.Token

/-- Blanks in front of a token do not count. -/
theorem first?_blanks {blanks : List Char} (hblanks : Blanks blanks)
    (text : List Char) : first? (blanks ++ text) = first? text := by
  induction blanks with
  | nil => rfl
  | cons c blanks ih =>
      rw [List.cons_append, first?, if_pos (hblanks c List.mem_cons_self)]
      exact ih fun d hd => hblanks d (List.mem_cons_of_mem _ hd)

/-- A mark is a token by itself. -/
theorem first?_mark {c : Char} {token : Token} (hc : ofChar? c = some token) (rest : List Char) :
    first? (c :: rest) = some (some (token, rest)) := by
  rw [ofChar?.eq_def] at hc
  split at hc <;> first | (cases hc; rfl) | cases hc

/-- A string is a token by itself. -/
theorem first?_string {s : Option String} {text : List Char} (h : Quoted.Quotes s text)
    (rest : List Char) : first? (text ++ rest) = some (some (.string s, rest)) := by
  obtain ⟨after, htext, hread⟩ := h.read?_eq rest
  rw [htext, first?, if_neg (by decide), if_pos rfl, hread]
  rfl

/-- There are three words. -/
theorem ofWord?_eq_some_iff {word : List Char} {token : Token} : ofWord? word = some token ↔
    (word = ['n', 'u', 'l', 'l'] ∧ token = .scalar .null) ∨
      (word = ['t', 'r', 'u', 'e'] ∧ token = .scalar (.bool true)) ∨
      (word = ['f', 'a', 'l', 's', 'e'] ∧ token = .scalar (.bool false)) := by
  constructor
  · intro h
    rw [ofWord?] at h
    split at h
    · next hword => cases h; exact .inl ⟨hword, rfl⟩
    split at h
    · next hword => cases h; exact .inr (.inl ⟨hword, rfl⟩)
    split at h
    · next hword => cases h; exact .inr (.inr ⟨hword, rfl⟩)
    · cases h
  · rintro (⟨rfl, rfl⟩ | ⟨rfl, rfl⟩ | ⟨rfl, rfl⟩) <;> rfl

/-- A word is a token if it ends where no letter follows. -/
theorem first?_word {word : List Char} {token : Token} (hword : ofWord? word = some token)
    {rest : List Char} (hrest : Stops Char.isAlpha rest) :
    first? (word ++ rest) = some (some (token, rest)) := by
  -- The three words differ in what they stand for only.
  have hfirst {c : Char} {cs : List Char} (hmark : ofChar? c = none) (hblank : isBlank c = false)
      (hquote : c ≠ '"') (hletter : (Numeral.isPart c && c.isAlpha == false) = false)
      (hall : cs.all Char.isAlpha = true) (h : ofWord? (c :: cs) = some token) :
      first? (c :: cs ++ rest) = some (some (token, rest)) := by
    have hcs := List.all_eq_true.mp hall
    rw [List.cons_append, first?, if_neg (by rw [hblank]; decide), if_neg hquote, hmark]
    dsimp only
    rw [if_neg (by rw [hletter]; decide), takeWhile_append hcs hrest, dropWhile_append hcs hrest, h]
    rfl
  rcases ofWord?_eq_some_iff.mp hword with ⟨rfl, rfl⟩ | ⟨rfl, rfl⟩ | ⟨rfl, rfl⟩
  all_goals exact hfirst rfl rfl (by decide) rfl rfl hword

/-- A digit is no letter. -/
theorem isAlpha_of_isDigit {c : Char} (hc : c.isDigit = true) : c.isAlpha = false := by
  have hdigit : c.val ≤ '9'.val := of_decide_eq_true (Bool.and_eq_true_iff.mp hc).2
  have hupper : c.isUpper = false := Bool.eq_false_iff.mpr fun hupper =>
    absurd (UInt32.le_trans (of_decide_eq_true hupper).1 hdigit) (by decide)
  have hlower : c.isLower = false := Bool.eq_false_iff.mpr fun hlower =>
    absurd (UInt32.le_trans (of_decide_eq_true (Bool.and_eq_true_iff.mp hlower).1) hdigit)
      (by decide)
  exact Bool.or_eq_false_iff.mpr ⟨hupper, hlower⟩

/-- A digit is neither a blank nor a mark nor a letter. -/
theorem digit_separate {c : Char} (hc : c.isDigit = true) :
    isBlank c = false ∧ c ≠ '"' ∧ ofChar? c = none ∧ c.isAlpha = false := by
  refine ⟨?_, ?_, ?_, isAlpha_of_isDigit hc⟩
  · cases hblank : isBlank c with
    | false => rfl
    | true =>
        simp only [isBlank, Bool.or_eq_true, beq_iff_eq] at hblank
        rcases hblank with ((rfl | rfl) | rfl) | rfl <;> cases hc
  · rintro rfl
    cases hc
  · rw [ofChar?.eq_def]
    split <;> first | rfl | cases hc

/-- A numeral is a token if nothing follows that could go on with it. -/
theorem first?_numeral {n : Numeral} {text rest : List Char} (h : Numeral.Spells n text)
    (hrest : Stops Numeral.isPart rest) :
    first? (text ++ rest) = some (some (.scalar n.value, rest)) := by
  have hnumeral := Numeral.ofChars?_eq_some_iff.mpr h
  obtain ⟨⟨c, hhead, hc⟩, hparts⟩ := h.written
  obtain ⟨cs, rfl⟩ := List.head?_eq_some_iff.mp hhead
  obtain ⟨hpart, hcs⟩ := List.forall_mem_cons.mp hparts
  obtain ⟨hblank, hquote, hmark, hletter⟩ :
      isBlank c = false ∧ c ≠ '"' ∧ ofChar? c = none ∧ c.isAlpha = false := by
    rcases hc with hc | rfl
    · exact digit_separate hc
    · decide
  rw [List.cons_append, first?, if_neg (by rw [hblank]; decide), if_neg hquote, hmark]
  dsimp only
  rw [if_pos (by rw [hpart, hletter]; rfl), takeWhile_append hcs hrest, dropWhile_append hcs hrest,
    ofNumeral?, hnumeral]
  rfl

end Json.Token

end Cutscene
