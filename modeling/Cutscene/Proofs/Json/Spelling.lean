import Cutscene.Proofs.Json.Tokens

/-!
# Every Text of a Value Is Read as the Value

Values are read token by token, with the containers that are still open on a stack. A text of a
value moves the reading on to just where the value has taken its place in the innermost open
container. The other phrases leave the container open that they stand in: a member joins those that
have been read, while all items or members, together with the bracket behind them, close their
container. In this form (`Json.Phrase.Reads`) the statement goes through the rules of the grammar,
one by one.

Whatever stands before a phrase is on the stack, and whatever stands behind it is a parameter.
Behind a value there has to be something that cannot go on with a number or a word
(`Json.Delimited`).

## Main results

* `Json.Spells.reads`: every text of a phrase is read as the phrase, whatever surrounds it.
* `Json.ofChars?_of_spells`: every text of a value alone is read as the value.
-/

namespace Cutscene

namespace Json

open Reading

/-! ### What follows a value -/

/-- What may follow a value: nothing that could go on with a number or a word. -/
def Delimited (rest : List Char) : Prop := Stops Numeral.isPart rest ∧ Stops Char.isAlpha rest

/-- The end of the text may follow a value. -/
theorem delimited_nil : Delimited [] := ⟨nofun, nofun⟩

/-- A mark cannot go on with anything. -/
theorem delimited_mark {c : Char} {token : Token} (hc : Token.ofChar? c = some token)
    (rest : List Char) : Delimited (c :: rest) := by
  rw [Token.ofChar?.eq_def] at hc
  split at hc <;> first | exact ⟨stops_cons rfl, stops_cons rfl⟩ | cases hc

/-- So may blanks, with what may follow a value behind them. -/
theorem delimited_blanks {blanks rest : List Char} (hblanks : Blanks blanks)
    (hrest : Delimited rest) : Delimited (blanks ++ rest) := by
  cases blanks with
  | nil => exact hrest
  | cons c blanks =>
      have hc := hblanks c List.mem_cons_self
      simp only [Token.isBlank, Bool.or_eq_true, beq_iff_eq] at hc
      rcases hc with ((rfl | rfl) | rfl) | rfl <;> exact ⟨stops_cons rfl, stops_cons rfl⟩

/-! ### Moving on -/

/-- Reading goes on from the first token. -/
theorem scan?_eq (text : List Char) (state : Reading) :
    scan? text state = (Token.first? text).bind fun found =>
      found.elim (some state) fun next => (state.feed? next.1).bind (scan? next.2) := by
  rw [scan?]
  split
  · next hfirst => rw [hfirst]; rfl
  · next hfirst => rw [hfirst]; rfl
  · next token rest hfirst =>
    rw [hfirst, Option.bind_some, Option.elim_some]
    cases state.feed? token <;> rfl

/-- The first token is fed to the reading, which goes on with the rest. -/
theorem scan?_token {text rest : List Char} {token : Token}
    (h : Token.first? text = some (some (token, rest))) (state : Reading) :
    scan? text state = (state.feed? token).bind (scan? rest) := by
  rw [scan?_eq, h]
  rfl

/-- At the end of the text the reading stays as it is. -/
theorem scan?_nil (state : Reading) : scan? [] state = some state := by
  rw [scan?_eq]
  rfl

/-- Blanks are passed over. -/
theorem scan?_blanks {blanks : List Char} (hblanks : Blanks blanks) (text : List Char)
    (state : Reading) : scan? (blanks ++ text) state = scan? text state := by
  rw [scan?_eq, Token.first?_blanks hblanks, ← scan?_eq]

/-- A mark is read by itself. -/
theorem scan?_mark {c : Char} {token : Token} (hc : Token.ofChar? c = some token)
    (rest : List Char) (state : Reading) :
    scan? (c :: rest) state = (state.feed? token).bind (scan? rest) :=
  scan?_token (Token.first?_mark hc rest) state

/-- A value may begin, and any token but a closing bracket that comes next begins one. -/
def Begins (state : Reading) : Prop :=
  ∀ token, token ≠ .closeArray → state.feed? token = begin? state.stack token

/-- Where a value is expected, every token is taken for the beginning of one. -/
theorem feed?_value (stack : List Frame) (token : Token) :
    Reading.feed? ⟨.value, stack⟩ token = begin? stack token := by
  cases stack <;> cases token <;> rfl

/-- Where a value is expected, one may begin. -/
theorem begins_value (stack : List Frame) : Begins ⟨.value, stack⟩ :=
  fun token _ => feed?_value stack token

/-- A value may begin where the first item of an array is expected, though the array may also be
closed there. -/
theorem begins_firstItem (items : List Json) (stack : List Frame) :
    Begins ⟨.firstItem, .array items :: stack⟩ := by
  intro token htoken
  cases token with
  | closeArray => exact absurd rfl htoken
  | _ => rfl

/-- A name may begin: that of the first member, or that of another one behind a comma. -/
def BeginsName (expect : Expect) : Prop := expect = .firstName ∨ expect = .name

/-- A container that is closed takes its place, if there is room for it. -/
theorem close_eq_put (value : Json) (stack : List Frame) :
    close value stack = put (inRoom (depthLimit - stack.length) value) stack := by
  rw [close]
  by_cases hroom : stack.length < depthLimit
  · obtain ⟨room, hroom'⟩ : ∃ room, depthLimit - stack.length = room + 1 :=
      Nat.exists_eq_add_one.mpr (by omega)
    have hdrop : stack.drop (depthLimit - 1) = [] := List.drop_eq_nil_of_le (by omega)
    rw [hdrop, hroom']
    rfl
  · have hroom' : depthLimit - stack.length = 0 := by omega
    have hdrop : stack.drop (depthLimit - 1) ≠ [] := by
      rw [Ne, List.drop_eq_nil_iff]
      have hlimit : 0 < depthLimit := by decide
      omega
    rw [hroom', if_neg (by rwa [List.isEmpty_iff])]
    rfl

/-! ### Phrases -/

/-- **What a text of a phrase does when it is read**, whatever stands around it. -/
def Phrase.Reads (room : Nat) (text : List Char) : Phrase → Prop
  | value j | element j => ∀ {state : Reading} {rest : List Char}, Begins state →
      depthLimit - state.stack.length = room → Delimited rest →
      scan? (text ++ rest) state = scan? rest (put j state.stack)
  | items js => ∀ {expect : Expect} {done : List Json} {stack : List Frame} {rest : List Char},
      Begins ⟨expect, .array done :: stack⟩ → depthLimit - (stack.length + 1) = room →
      scan? (text ++ ']' :: rest) ⟨expect, .array done :: stack⟩ =
        scan? rest (close (.array (done.reverse ++ js)) stack)
  | member name j => ∀ {expect : Expect} {done : List (Option String × Json)}
      {last : Option String} {stack : List Frame} {rest : List Char}, BeginsName expect →
      depthLimit - (stack.length + 1) = room → Delimited rest →
      scan? (text ++ rest) ⟨expect, .object done last :: stack⟩ =
        scan? rest ⟨.next, .object ((name, j) :: done) name :: stack⟩
  | members ms => ∀ {expect : Expect} {done : List (Option String × Json)}
      {last : Option String} {stack : List Frame} {rest : List Char}, BeginsName expect →
      depthLimit - (stack.length + 1) = room →
      scan? (text ++ '}' :: rest) ⟨expect, .object done last :: stack⟩ =
        scan? rest (close ((named? (done.reverse ++ ms)).elim .unreadable .object) stack)

/-- A token that is a value by itself. -/
theorem reads_token {room : Nat} {text : List Char} {j : Json} {token : Token}
    (hfirst : ∀ {rest : List Char}, Delimited rest →
      Token.first? (text ++ rest) = some (some (token, rest)))
    (htoken : token ≠ .closeArray)
    (hbegin : ∀ stack, begin? stack token = some (put j stack)) :
    (Phrase.value j).Reads room text := by
  intro state rest hstate _ hrest
  rw [scan?_token (hfirst hrest), hstate token htoken, hbegin]
  rfl

/-- A bracket that opens an array. -/
theorem scan?_openArray {state : Reading} (hstate : Begins state) (rest : List Char) :
    scan? ('[' :: rest) state = scan? rest ⟨.firstItem, .array [] :: state.stack⟩ := by
  rw [scan?_mark rfl, hstate _ (by rintro ⟨⟩)]
  rfl

/-- A brace that opens an object. -/
theorem scan?_openObject {state : Reading} (hstate : Begins state) (rest : List Char) :
    scan? ('{' :: rest) state = scan? rest ⟨.firstName, .object [] none :: state.stack⟩ := by
  rw [scan?_mark rfl, hstate _ (by rintro ⟨⟩)]
  rfl

/-- **Every text of a phrase is read as the phrase.** Induction on the rules of the grammar. -/
theorem Spells.reads {room : Nat} {phrase : Phrase} {text : List Char}
    (h : Spells room phrase text) : phrase.Reads room text := by
  induction h with
  | null | true | false =>
      exact reads_token (fun hrest => Token.first?_word rfl hrest.2) (by rintro ⟨⟩) fun _ => rfl
  | number h =>
      exact reads_token (fun hrest => Token.first?_numeral h hrest.1) (by rintro ⟨⟩) fun _ => rfl
  | string h => exact reads_token (fun _ => Token.first?_string h _) (by rintro ⟨⟩) fun _ => rfl
  | emptyArray hblanks =>
      intro state rest hstate hroom _
      simp only [List.cons_append, List.append_assoc, List.nil_append]
      rw [scan?_openArray hstate, scan?_blanks hblanks, scan?_mark rfl, ← hroom, ← close_eq_put]
      rfl
  | array _ ih =>
      intro state rest hstate hroom _
      simp only [List.cons_append, List.append_assoc, List.nil_append]
      rw [scan?_openArray hstate, ih (begins_firstItem [] state.stack) (by omega), close_eq_put,
        hroom]
      rfl
  | emptyObject hblanks =>
      intro state rest hstate hroom _
      simp only [List.cons_append, List.append_assoc, List.nil_append]
      rw [scan?_openObject hstate, scan?_blanks hblanks, scan?_mark rfl, ← hroom, ← close_eq_put]
      rfl
  | object _ ih =>
      intro state rest hstate hroom _
      simp only [List.cons_append, List.append_assoc, List.nil_append]
      rw [scan?_openObject hstate, ih (.inl rfl) (by omega), close_eq_put, hroom]
      rfl
  | element hbefore _ hafter ih =>
      intro state rest hstate hroom hrest
      simp only [List.append_assoc]
      rw [scan?_blanks hbefore, ih hstate hroom (delimited_blanks hafter hrest),
        scan?_blanks hafter]
  | lastItem _ ih =>
      intro expect done stack rest hstate hroom
      rw [ih hstate hroom (delimited_mark rfl rest)]
      change scan? _ ⟨.next, .array (_ :: done) :: stack⟩ = _
      rw [scan?_mark rfl, ← List.reverse_cons]
      rfl
  | @nextItem _ item items _ _ _ _ ih ihMore =>
      intro expect done stack rest hstate hroom
      simp only [List.append_assoc, List.cons_append]
      rw [ih hstate hroom (delimited_mark rfl _)]
      change scan? _ ⟨.next, .array (item :: done) :: stack⟩ = _
      rw [scan?_mark rfl]
      change scan? _ ⟨.value, .array (item :: done) :: stack⟩ = _
      rw [ihMore (begins_value _) hroom, List.reverse_cons, List.append_assoc]
      rfl
  | @member _ name _ _ _ _ _ hbefore hname hafter _ ih =>
      intro expect done last stack rest hexpect hroom hrest
      -- A name is taken where the first member may begin, and behind a comma.
      have hfeed : Reading.feed? ⟨expect, .object done last :: stack⟩ (.string name) =
          some ⟨.colon, .object done name :: stack⟩ := by
        rcases hexpect with rfl | rfl <;> rfl
      simp only [List.append_assoc, List.cons_append]
      rw [scan?_blanks hbefore, scan?_token (Token.first?_string hname _), hfeed,
        Option.bind_some, scan?_blanks hafter, scan?_mark rfl]
      change scan? _ ⟨.value, .object done name :: stack⟩ = _
      exact ih (begins_value _) hroom hrest
  | lastMember _ ih =>
      intro expect done last stack rest hexpect hroom
      rw [ih hexpect hroom (delimited_mark rfl rest), scan?_mark rfl, ← List.reverse_cons]
      rfl
  | @nextMember _ name value members _ _ _ _ ih ihMore =>
      intro expect done last stack rest hexpect hroom
      simp only [List.append_assoc, List.cons_append]
      rw [ih hexpect hroom (delimited_mark rfl _), scan?_mark rfl]
      change scan? _ ⟨.name, .object ((name, value) :: done) name :: stack⟩ = _
      rw [ihMore (.inr rfl) hroom, List.reverse_cons, List.append_assoc]
      rfl

/-! ### Whole texts -/

/-- **Every text of a value alone is read as the value**, with or without blanks around it. -/
theorem ofChars?_of_spells {j : Json} {text : List Char}
    (h : Spells depthLimit (.element j) text) : ofChars? text = some j := by
  have hscan := h.reads (begins_value []) rfl delimited_nil
  rw [List.append_nil, scan?_nil] at hscan
  rw [ofChars?, Reading.start, hscan]
  rfl

end Json

end Cutscene
