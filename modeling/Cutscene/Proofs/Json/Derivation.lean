import Cutscene.Proofs.Json.Spelling

/-!
# Whatever Is Read Has Been Spelled

Every text of a value is read as the value. This module shows that no other text is: from the tokens
by which a text is read to its end, the rules of the grammar can be told that it is spelled by. So
the grammar and the reading say the same of every text, and either can be used to find out about the
other.

A value is found where one begins, and all the items or members of a container where the next of
them begins. Each of the three is found with the help of the others further on in the text, so that
a single induction on the length of the text carries them all (`Json.found`).

## Main results

* `Json.Token.exists_spells_of_first?`: the first token of a text is spelled in front of it.
* `Json.ofChars?_eq_some_iff`: the texts of a value are those that are read as the value.
-/

namespace Cutscene

/-! ### Tokens -/

namespace Quoted

/-- What has been read up to a closing quote spells the pieces. -/
theorem exists_spells_of_scan {done pieces : List Piece} {text rest : List Char}
    (h : scan done text = some (pieces, rest)) : ∃ found spelled,
      pieces = found.reverse ++ done ∧ text = spelled ++ '"' :: rest ∧ Spells found spelled := by
  fun_induction scan done text with
  | case1 =>
      cases h
      exact ⟨[], [], rfl, rfl, .nil⟩
  | case2 done a b c d text n hunit ih =>
      obtain ⟨found, spelled, rfl, rfl, hspells⟩ := ih h
      exact ⟨.unit n :: found, _, by simp, rfl, .unit hunit hspells⟩
  | case4 done e text hu c hescaped ih =>
      obtain ⟨found, spelled, rfl, rfl, hspells⟩ := ih h
      exact ⟨.char c :: found, _, by simp, rfl, .escaped hescaped hspells⟩
  | case7 done c text hquote hunit hescape hplain ih =>
      obtain ⟨found, spelled, rfl, rfl, hspells⟩ := ih h
      obtain ⟨hspace, hslash⟩ := not_or.mp hplain
      exact ⟨.char c :: found, _, by simp, rfl, .plain hspace hquote hslash hspells⟩
  | case3 | case5 | case6 | case8 => cases h

/-- What has been read behind an opening quote is a text of the string. -/
theorem exists_quotes_of_read? {s : Option String} {text rest : List Char}
    (h : read? text = some (s, rest)) :
    ∃ spelled, '"' :: text = spelled ++ rest ∧ Quotes s spelled := by
  obtain ⟨⟨pieces, rest⟩, hscan, h⟩ := Option.map_eq_some_iff.mp h
  cases h
  obtain ⟨found, spelled, rfl, rfl, hspells⟩ := exists_spells_of_scan hscan
  rw [List.append_nil, List.reverse_reverse]
  exact ⟨_, by simp, .mk hspells⟩

end Quoted

namespace Json

open Reading

namespace Token

/-- The texts of a token. -/
def Spells : Token → List Char → Prop
  | openArray, text => text = ['[']
  | closeArray, text => text = [']']
  | openObject, text => text = ['{']
  | closeObject, text => text = ['}']
  | comma, text => text = [',']
  | colon, text => text = [':']
  | string s, text => Quoted.Quotes s text
  | scalar j, text => (∃ n, Numeral.Spells n text ∧ n.value = j) ∨ ofWord? text = some (.scalar j)

/-- **The first token of a text is spelled in front of it**, behind some blanks. -/
theorem exists_spells_of_first? {text rest : List Char} {token : Token}
    (h : first? text = some (some (token, rest))) :
    ∃ blanks spelled, text = blanks ++ spelled ++ rest ∧ Blanks blanks ∧ token.Spells spelled := by
  fun_induction first? text with
  | case1 => cases h
  | case2 c text hblank ih =>
      obtain ⟨blanks, spelled, rfl, hblanks, hspelled⟩ := ih h
      exact ⟨c :: blanks, spelled, rfl, List.forall_mem_cons.mpr ⟨hblank, hblanks⟩, hspelled⟩
  | case3 text =>
      obtain ⟨⟨s, rest⟩, hread, h⟩ := Option.map_eq_some_iff.mp h
      cases h
      obtain ⟨spelled, htext, hquotes⟩ := Quoted.exists_quotes_of_read? hread
      exact ⟨[], spelled, htext, List.forall_mem_nil _, hquotes⟩
  | case4 c text _ _ token hmark =>
      cases h
      refine ⟨[], [c], rfl, List.forall_mem_nil _, ?_⟩
      rw [ofChar?.eq_def] at hmark
      split at hmark <;> cases hmark <;> rfl
  | case5 c text =>
      obtain ⟨token, htoken, h⟩ := Option.map_eq_some_iff.mp h
      cases h
      obtain ⟨n, hn, h⟩ := Option.map_eq_some_iff.mp htoken
      cases h
      refine ⟨[], _, ?_, List.forall_mem_nil _, .inl ⟨n, Numeral.ofChars?_eq_some_iff.mp hn, rfl⟩⟩
      rw [List.nil_append, List.cons_append, List.takeWhile_append_dropWhile]
  | case6 c text =>
      obtain ⟨token, htoken, h⟩ := Option.map_eq_some_iff.mp h
      cases h
      refine ⟨[], c :: text.takeWhile Char.isAlpha, ?_, List.forall_mem_nil _, ?_⟩
      · rw [List.nil_append, List.cons_append, List.takeWhile_append_dropWhile]
      · rcases ofWord?_eq_some_iff.mp htoken with ⟨-, rfl⟩ | ⟨-, rfl⟩ | ⟨-, rfl⟩
        all_goals exact .inr htoken

/-- A text without a token is blank. -/
theorem blanks_of_first? {text : List Char} (h : first? text = some none) : Blanks text := by
  fun_induction first? text with
  | case1 => exact List.forall_mem_nil _
  | case2 c text hblank ih => exact List.forall_mem_cons.mpr ⟨hblank, ih h⟩
  | case4 => cases h
  | case3 | case5 | case6 =>
      obtain ⟨_, -, h⟩ := Option.map_eq_some_iff.mp h
      cases h

/-- A token that is a value by itself spells the value. -/
theorem Spells.value {j : Json} {text : List Char} (h : (scalar j).Spells text) (room : Nat) :
    Json.Spells room (.value j) text := by
  obtain ⟨n, hn, rfl⟩ | hword := h
  · exact .number hn
  · obtain ⟨rfl, h⟩ | ⟨rfl, h⟩ | ⟨rfl, h⟩ := ofWord?_eq_some_iff.mp hword
    · cases h; exact .null
    · cases h; exact .true
    · cases h; exact .false

end Token

/-! ### Moving on -/

/-- The reading has come to its end. -/
def Reading.Ends (state : Reading) : Prop := ∃ j, state.expect = .finished j

/-- Where more is expected, reading comes to its end by another token only. -/
theorem exists_feed?_of_scan? {text : List Char} {state final : Reading}
    (h : scan? text state = some final) (hfinal : final.Ends) (hstate : ¬state.Ends) :
    ∃ token rest next, Token.first? text = some (some (token, rest)) ∧
      state.feed? token = some next ∧ scan? rest next = some final := by
  rw [scan?_eq] at h
  obtain ⟨found, hfirst, h⟩ := Option.bind_eq_some_iff.mp h
  cases found with
  | none =>
      cases h
      exact absurd hfinal hstate
  | some found =>
      obtain ⟨next, hfeed, hnext⟩ := Option.bind_eq_some_iff.mp h
      exact ⟨found.1, found.2, next, hfirst, hfeed, hnext⟩

/-- A value is found where one begins. -/
def ValueFound (text : List Char) : Prop :=
  ∀ {stack : List Frame} {final : Reading}, scan? text ⟨.value, stack⟩ = some final → final.Ends →
    ∃ value blanks spelled rest, text = blanks ++ spelled ++ rest ∧ Blanks blanks ∧
      Spells (depthLimit - stack.length) (.value value) spelled ∧ rest.length < text.length ∧
      scan? rest (put value stack) = some final

/-- The other items of an array are found where one of them begins. -/
def ItemsFound (text : List Char) : Prop :=
  ∀ {done : List Json} {stack : List Frame} {final : Reading},
    scan? text ⟨.value, .array done :: stack⟩ = some final → final.Ends →
    ∃ items spelled rest, text = spelled ++ ']' :: rest ∧
      Spells (depthLimit - (stack.length + 1)) (.items items) spelled ∧
      scan? rest (close (.array (done.reverse ++ items)) stack) = some final

/-- The other members of an object are found where one of them begins. -/
def MembersFound (text : List Char) : Prop :=
  ∀ {done : List (Option String × Json)} {last : Option String} {stack : List Frame}
    {final : Reading}, scan? text ⟨.name, .object done last :: stack⟩ = some final → final.Ends →
    ∃ members spelled rest, text = spelled ++ '}' :: rest ∧
      Spells (depthLimit - (stack.length + 1)) (.members members) spelled ∧
      scan? rest (close ((named? (done.reverse ++ members)).elim .unreadable .object) stack) =
        some final

/-- An array that has been opened is empty, or its first item begins. -/
theorem scan?_firstItem {text : List Char} {stack : List Frame} {final : Reading}
    (h : scan? text ⟨.firstItem, .array [] :: stack⟩ = some final) (hfinal : final.Ends) :
    (∃ blanks rest, text = blanks ++ ']' :: rest ∧ Blanks blanks ∧
      scan? rest (close (.array []) stack) = some final) ∨
      scan? text ⟨.value, .array [] :: stack⟩ = some final := by
  obtain ⟨token, rest, next, hfirst, hfeed, hrest⟩ := exists_feed?_of_scan? h hfinal nofun
  by_cases htoken : token = .closeArray
  · subst htoken
    cases hfeed
    obtain ⟨blanks, spelled, rfl, hblanks, rfl⟩ := Token.exists_spells_of_first? hfirst
    exact .inl ⟨blanks, rest, by simp, hblanks, hrest⟩
  · rw [begins_firstItem [] stack token htoken] at hfeed
    exact .inr (by rw [scan?_token hfirst, feed?_value, hfeed, Option.bind_some, hrest])

/-- An object that has been opened is empty, or its first name begins. -/
theorem scan?_firstName {text : List Char} {stack : List Frame} {final : Reading}
    (h : scan? text ⟨.firstName, .object [] none :: stack⟩ = some final) (hfinal : final.Ends) :
    (∃ blanks rest, text = blanks ++ '}' :: rest ∧ Blanks blanks ∧
      scan? rest (close (.object []) stack) = some final) ∨
      scan? text ⟨.name, .object [] none :: stack⟩ = some final := by
  obtain ⟨token, rest, next, hfirst, hfeed, hrest⟩ := exists_feed?_of_scan? h hfinal nofun
  cases token with
  | closeObject =>
      cases hfeed
      obtain ⟨blanks, spelled, rfl, hblanks, rfl⟩ := Token.exists_spells_of_first? hfirst
      exact .inl ⟨blanks, rest, by simp, hblanks, hrest⟩
  | string s =>
      cases hfeed
      exact .inr ((scan?_token hfirst _).trans hrest)
  | _ => cases hfeed

/-- **A value is found where one begins**, if items and members are found further on. -/
theorem valueFound {text : List Char}
    (hitems : ∀ later : List Char, later.length < text.length → ItemsFound later)
    (hmembers : ∀ later : List Char, later.length < text.length → MembersFound later) :
    ValueFound text := by
  intro stack final h hfinal
  obtain ⟨token, rest, next, hfirst, hbegin, hrest⟩ := exists_feed?_of_scan? h hfinal nofun
  have hlength := Token.first?_length hfirst
  obtain ⟨blanks, spelled, htext, hblanks, hspelled⟩ := Token.exists_spells_of_first? hfirst
  rw [feed?_value] at hbegin
  cases token with
  | scalar j =>
      cases hbegin
      exact ⟨j, blanks, spelled, rest, htext, hblanks, hspelled.value _, hlength, hrest⟩
  | string s =>
      cases hbegin
      exact ⟨_, blanks, spelled, rest, htext, hblanks, .string hspelled, hlength, hrest⟩
  | openArray =>
      cases hbegin
      cases hspelled
      -- Whatever is in the array is found up to its bracket, and the array is the value.
      obtain ⟨inner, after, rfl, hinner, hafter⟩ | hrest := scan?_firstItem hrest hfinal
      · rw [close_eq_put] at hafter
        refine ⟨_, blanks, _, after, ?_, hblanks, .emptyArray hinner, ?_, hafter⟩
        · simp [htext]
        · simp at hlength; omega
      · obtain ⟨items, spelled, after, rfl, hspells, hafter⟩ := hitems rest hlength hrest hfinal
        rw [close_eq_put] at hafter
        refine ⟨_, blanks, _, after, ?_, hblanks, .array hspells, ?_, hafter⟩
        · simp [htext]
        · simp at hlength; omega
  | openObject =>
      cases hbegin
      cases hspelled
      obtain ⟨inner, after, rfl, hinner, hafter⟩ | hrest := scan?_firstName hrest hfinal
      · rw [close_eq_put] at hafter
        refine ⟨_, blanks, _, after, ?_, hblanks, .emptyObject hinner, ?_, hafter⟩
        · simp [htext]
        · simp at hlength; omega
      · obtain ⟨members, spelled, after, rfl, hspells, hafter⟩ :=
          hmembers rest hlength hrest hfinal
        rw [close_eq_put] at hafter
        refine ⟨_, blanks, _, after, ?_, hblanks, .object hspells, ?_, hafter⟩
        · simp [htext]
        · simp at hlength; omega
  | closeArray | closeObject | comma | colon => cases hbegin

/-- **Items are found where one of them begins**, if others are found further on. -/
theorem itemsFound {text : List Char} (hvalue : ValueFound text)
    (hitems : ∀ later : List Char, later.length < text.length → ItemsFound later) :
    ItemsFound text := by
  intro done stack final h hfinal
  obtain ⟨item, before, spelled, rest, rfl, hbefore, hitem, hrest, hnext⟩ := hvalue h hfinal
  rw [List.length_cons] at hitem
  change scan? rest ⟨.next, .array (item :: done) :: stack⟩ = some final at hnext
  obtain ⟨token, more, next, hfirst, hfeed, hmore⟩ := exists_feed?_of_scan? hnext hfinal nofun
  have hlength := Token.first?_length hfirst
  obtain ⟨after, mark, rfl, hafter, hmark⟩ := Token.exists_spells_of_first? hfirst
  -- The blanks before the next mark still belong to the item.
  have helement := Spells.element hbefore hitem hafter
  cases token with
  | comma =>
      cases hfeed
      cases hmark
      obtain ⟨items, found, rest, rfl, hspells, hclose⟩ :=
        hitems more (Nat.lt_trans hlength hrest) hmore hfinal
      refine ⟨_, _, rest, ?_, .nextItem helement hspells, ?_⟩
      · simp
      · simpa using hclose
  | closeArray =>
      cases hfeed
      cases hmark
      refine ⟨_, _, more, ?_, .lastItem helement, ?_⟩
      · simp
      · simpa using hmore
  | _ => cases hfeed

/-- The name of a member is found where it begins, with the colon behind it. -/
theorem exists_name_of_scan? {text : List Char} {done : List (Option String × Json)}
    {last : Option String} {stack : List Frame} {final : Reading}
    (h : scan? text ⟨.name, .object done last :: stack⟩ = some final) (hfinal : final.Ends) :
    ∃ name before quoted after rest, text = before ++ quoted ++ after ++ ':' :: rest ∧
      Blanks before ∧ Quoted.Quotes name quoted ∧ Blanks after ∧
      scan? rest ⟨.value, .object done name :: stack⟩ = some final := by
  obtain ⟨token, behind, next, hfirst, hfeed, hcolon⟩ := exists_feed?_of_scan? h hfinal nofun
  obtain ⟨before, quoted, rfl, hbefore, hquoted⟩ := Token.exists_spells_of_first? hfirst
  cases token with
  | string name =>
      cases hfeed
      obtain ⟨token, rest, next, hfirst, hfeed, hrest⟩ := exists_feed?_of_scan? hcolon hfinal nofun
      obtain ⟨after, mark, rfl, hafter, hmark⟩ := Token.exists_spells_of_first? hfirst
      cases token with
      | colon =>
          cases hfeed
          cases hmark
          exact ⟨name, before, quoted, after, rest, by simp, hbefore, hquoted, hafter, hrest⟩
      | _ => cases hfeed
  | _ => cases hfeed

/-- **Members are found where one of them begins**, if values and other members are found further
on. -/
theorem membersFound {text : List Char}
    (hvalue : ∀ later : List Char, later.length < text.length → ValueFound later)
    (hmembers : ∀ later : List Char, later.length < text.length → MembersFound later) :
    MembersFound text := by
  intro done last stack final h hfinal
  obtain ⟨name, before, quoted, between, behind, rfl, hbefore, hquoted, hbetween, hbehind⟩ :=
    exists_name_of_scan? h hfinal
  obtain ⟨value, blanks, spelled, rest, rfl, hblanks, hspells, hrest, hnext⟩ :=
    hvalue behind (by simp; omega) hbehind hfinal
  rw [List.length_cons] at hspells
  change scan? rest ⟨.next, .object ((name, value) :: done) name :: stack⟩ = some final at hnext
  obtain ⟨token, more, next, hfirst, hfeed, hmore⟩ := exists_feed?_of_scan? hnext hfinal nofun
  have hlength := Token.first?_length hfirst
  obtain ⟨after, mark, rfl, hafter, hmark⟩ := Token.exists_spells_of_first? hfirst
  have hmember := Spells.member hbefore hquoted hbetween (.element hblanks hspells hafter)
  cases token with
  | comma =>
      cases hfeed
      cases hmark
      obtain ⟨members, found, rest, rfl, hfound, hclose⟩ :=
        hmembers more (by simp; omega) hmore hfinal
      refine ⟨_, _, rest, ?_, .nextMember hmember hfound, ?_⟩
      · simp
      · simpa using hclose
  | closeObject =>
      cases hfeed
      cases hmark
      refine ⟨_, _, more, ?_, .lastMember hmember, ?_⟩
      · simp
      · simpa [membersOf?, named?] using hmore
  | _ => cases hfeed

/-- **Values, items and members are found where they begin.** Induction on the text's length. -/
theorem found (text : List Char) : ValueFound text ∧ ItemsFound text ∧ MembersFound text := by
  induction hlength : text.length using Nat.strongRecOn generalizing text with
  | ind n ih =>
      subst hlength
      have hitems : ∀ later : List Char, later.length < text.length → ItemsFound later :=
        fun later hlater => (ih _ hlater later rfl).2.1
      have hmembers : ∀ later : List Char, later.length < text.length → MembersFound later :=
        fun later hlater => (ih _ hlater later rfl).2.2
      have hvalue : ValueFound text := valueFound hitems hmembers
      exact ⟨hvalue, itemsFound hvalue hitems,
        membersFound (fun later hlater => (ih _ hlater later rfl).1) hmembers⟩

/-! ### Whole texts -/

/-- Behind a value that is complete there are only blanks. -/
theorem blanks_of_scan? {value : Json} {stack : List Frame} {text : List Char} {final : Reading}
    (h : scan? text ⟨.finished value, stack⟩ = some final) :
    Blanks text ∧ final = ⟨.finished value, stack⟩ := by
  rw [scan?_eq] at h
  obtain ⟨found, hfirst, h⟩ := Option.bind_eq_some_iff.mp h
  cases found with
  | none =>
      cases h
      exact ⟨Token.blanks_of_first? hfirst, rfl⟩
  | some found =>
      rw [Option.elim_some] at h
      obtain ⟨next, hfeed, -⟩ := Option.bind_eq_some_iff.mp h
      cases stack <;> cases hfeed

/-- **The texts of a value are those that are read as the value**, with blanks around it or not. -/
theorem ofChars?_eq_some_iff {text : List Char} {j : Json} :
    ofChars? text = some j ↔ Spells depthLimit (.element j) text := by
  refine ⟨fun h => ?_, ofChars?_of_spells⟩
  rw [ofChars?] at h
  split at h
  · next value frames hscan =>
    cases h
    obtain ⟨value, before, spelled, rest, rfl, hbefore, hspells, -, hrest⟩ :=
      (found text).1 hscan ⟨_, rfl⟩
    obtain ⟨hafter, hfinal⟩ := blanks_of_scan? hrest
    cases hfinal
    exact .element hbefore hspells hafter
  · cases h

/-- Whether a text spells a value is found out by reading it. -/
instance (text : List Char) (j : Json) : Decidable (Spells depthLimit (.element j) text) :=
  decidable_of_iff _ ofChars?_eq_some_iff

end Json

end Cutscene
