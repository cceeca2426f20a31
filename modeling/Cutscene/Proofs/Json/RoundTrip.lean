import Cutscene.Proofs.Json.Spelling

/-!
# What Is Written Is Read Again

A value that is plain (`Json.Plain`) holds nothing but words, strings, numbers that are read as what
they were, and containers that are not nested too deeply. It is written with blanks between its
tokens, in any layout of blanks: what is written is one of the texts of the value
(`Json.Plain.spells_write`), and every text of a value is read as the value.

## Main results

* `Json.Plain.spells_write`: what is written of a plain value is a text of the value.
* `Json.ofChars?_write`: a text of a plain value alone is read as the value.
-/

namespace Cutscene

section Lists

variable {α β : Type} {write : α → β} {read : β → Option α}

/-- Things that are written one by one are read again one by one. -/
theorem mapM_map_eq_some {as : List α} (hread : ∀ a ∈ as, read (write a) = some a) :
    (as.map write).mapM read = some as := by
  induction as with
  | nil => rfl
  | cons a as ih =>
      obtain ⟨ha, has⟩ := List.forall_mem_cons.mp hread
      rw [List.map_cons, List.mapM_cons, ha, ih has]
      rfl

/-- What has been read one by one has been read from something there. -/
theorem exists_of_mem_mapM {bs : List β} {as : List α} (h : bs.mapM read = some as) :
    ∀ a ∈ as, ∃ b ∈ bs, read b = some a := by
  induction bs generalizing as with
  | nil =>
      obtain rfl := Option.some.inj h
      exact List.forall_mem_nil _
  | cons b bs ih =>
      rw [List.mapM_cons] at h
      obtain ⟨a, ha, h⟩ := Option.bind_eq_some_iff.mp h
      obtain ⟨as, has, h⟩ := Option.bind_eq_some_iff.mp h
      obtain rfl := Option.some.inj h
      exact List.forall_mem_cons.mpr ⟨⟨b, List.mem_cons_self, ha⟩, fun a ha => by
        obtain ⟨b, hb, hread⟩ := ih has a ha
        exact ⟨b, List.mem_cons_of_mem _ hb, hread⟩⟩

end Lists

namespace Json

open Reading

/-! ### Plain values -/

/-- A value of words, strings, whole numbers of 64 bits, floating-point numbers that survive being
written, and containers nested no deeper than there is room. -/
inductive Plain : Nat → Json → Prop
  | null {room : Nat} : Plain room .null
  | bool {room : Nat} (value : Bool) : Plain room (.bool value)
  | int {room : Nat} {n : Int} (hn : Numeral.Fits n) : Plain room (.int n)
  | float {room : Nat} {x : Binary64} (hfinite : x.isFinite = true) (hx : x.Survives) :
      Plain room (.float x)
  | string {room : Nat} (s : String) : Plain room (.string s)
  | array {room : Nat} {items : List Json} (hitems : ∀ item ∈ items, Plain room item) :
      Plain (room + 1) (.array items)
  | object {room : Nat} {members : List (String × Json)}
      (hmembers : ∀ member ∈ members, Plain room member.2) : Plain (room + 1) (.object members)

/-- A layout of nothing but blanks. -/
structure Layout.IsBlank (layout : Layout) : Prop where
  newline : ∀ depth, ∀ c ∈ layout.newline depth, Token.isBlank c = true
  afterColon : ∀ c ∈ layout.afterColon, Token.isBlank c = true

/-- Indented layout puts nothing but blanks between tokens. -/
theorem Layout.isBlank_indented : Layout.indented.IsBlank where
  newline depth c hc := by
    rcases List.mem_cons.mp hc with rfl | hc
    · rfl
    · rw [List.eq_of_mem_replicate hc]
      rfl
  afterColon c hc := by
    rw [List.mem_singleton.mp hc]
    rfl

/-! ### Written texts -/

section Containers

variable {layout : Layout} {room : Nat}

/-- The items of an array spell them, with blanks around all of them. Induction on the items behind
the first one. -/
theorem spells_writeItems (hlayout : layout.IsBlank) (depth : Nat) {after : List Char}
    (hafter : Blanks after) {item : Json} {items : List Json}
    (hitems : ∀ j ∈ item :: items, Spells room (.value j) (j.write layout depth))
    {before : List Char} (hbefore : Blanks before) :
    Spells room (.items (item :: items))
      (before ++ item.write layout depth ++ (writeItems layout depth items ++ after)) := by
  obtain ⟨hitem, hothers⟩ := List.forall_mem_cons.mp hitems
  induction items generalizing item before with
  | nil =>
      rw [writeItems, List.nil_append]
      exact .lastItem (.element hbefore hitem hafter)
  | cons next items ih =>
      obtain ⟨hnext, hrest⟩ := List.forall_mem_cons.mp hothers
      have hmore := ih hothers (hlayout.newline depth) hnext hrest
      have htext := Spells.nextItem (.element hbefore hitem (List.forall_mem_nil _)) hmore
      rw [List.append_nil] at htext
      simpa only [writeItems, List.cons_append, List.append_assoc] using htext

/-- A name and its value are a member, with blanks around it. -/
theorem spells_writeMember (hlayout : layout.IsBlank) (depth : Nat) {member : String × Json}
    (hvalue : Spells room (.value member.2) (member.2.write layout depth))
    {before after : List Char} (hbefore : Blanks before) (hafter : Blanks after) :
    Spells room (.member (some member.1) member.2)
      (before ++ Quoted.write member.1 ++ ':' :: (layout.afterColon ++
        member.2.write layout depth ++ after)) := by
  have htext := Spells.member hbefore (Quoted.quotes_write member.1) (List.forall_mem_nil _)
    (.element hlayout.afterColon hvalue hafter)
  rwa [List.append_nil] at htext

/-- The members of an object spell them, with blanks around all of them. Induction on the members
behind the first one. -/
theorem spells_writeMembers (hlayout : layout.IsBlank) (depth : Nat) {after : List Char}
    (hafter : Blanks after) {member : String × Json} {members : List (String × Json)}
    (hmembers : ∀ other ∈ member :: members,
      Spells room (.value other.2) (other.2.write layout depth))
    {before : List Char} (hbefore : Blanks before) :
    Spells room (.members ((member :: members).map (Prod.map some id)))
      (before ++ Quoted.write member.1 ++ ':' :: (layout.afterColon ++
        member.2.write layout depth ++ (writeMembers layout depth members ++ after))) := by
  obtain ⟨hmember, hothers⟩ := List.forall_mem_cons.mp hmembers
  induction members generalizing member before with
  | nil =>
      rw [writeMembers, List.nil_append]
      exact .lastMember (spells_writeMember hlayout depth hmember hbefore hafter)
  | cons next members ih =>
      obtain ⟨hnext, hrest⟩ := List.forall_mem_cons.mp hothers
      have hmore := ih hothers (hlayout.newline depth) hnext hrest
      have htext := Spells.nextMember
        (spells_writeMember hlayout depth hmember hbefore (List.forall_mem_nil _)) hmore
      obtain ⟨name, value⟩ := member
      simpa only [writeMembers, List.map_cons, Prod.map_apply, id_eq, List.cons_append,
        List.append_assoc, List.nil_append] using htext

/-- Names that all have a text are the names of an object. -/
theorem named?_map_some (members : List (String × Json)) :
    named? (members.map (Prod.map some id)) = some members :=
  mapM_map_eq_some fun _ _ => rfl

end Containers

/-- **What is written of a plain value is a text of the value**, in any layout of blanks. -/
theorem Plain.spells_write {room : Nat} {j : Json} (hj : Plain room j) {layout : Layout}
    (hlayout : layout.IsBlank) (depth : Nat) : Spells room (.value j) (j.write layout depth) := by
  induction hj generalizing depth with
  | null => exact .null
  | bool value =>
      cases value with
      | false => exact .false
      | true => exact .true
  | @int room n hn =>
      have htext : Spells room _ _ := .number (Numeral.spells_intChars n)
      rwa [Numeral.value_intChars hn] at htext
  | float hfinite hx =>
      obtain ⟨n, htext, hvalue⟩ := hx.exists_spells
      rw [write, if_pos hfinite, ← hvalue]
      exact .number htext
  | string s => exact .string (Quoted.quotes_write s)
  | @array room items _ ih =>
      cases items with
      | nil => exact .emptyArray (List.forall_mem_nil _)
      | cons item items =>
          have hitems := spells_writeItems hlayout (depth + 1) (hlayout.newline depth)
            (fun item hitem => ih item hitem (depth + 1)) (hlayout.newline (depth + 1))
          have htext : Spells (room + 1) _ _ := .array hitems
          simpa only [inRoom, write, List.cons_append, List.append_assoc] using htext
  | @object room members _ ih =>
      cases members with
      | nil => exact .emptyObject (List.forall_mem_nil _)
      | cons member members =>
          have hmembers := spells_writeMembers hlayout (depth + 1) (hlayout.newline depth)
            (fun member hmember => ih member hmember (depth + 1)) (hlayout.newline (depth + 1))
          have htext : Spells (room + 1) _ _ := .object hmembers
          rw [named?_map_some, Option.elim_some] at htext
          simpa only [inRoom, write, List.cons_append, List.append_assoc] using htext

/-- **A text of a plain value alone is read as the value.** -/
theorem ofChars?_write {j : Json} (hj : Plain depthLimit j) {layout : Layout}
    (hlayout : layout.IsBlank) (depth : Nat) : ofChars? (j.write layout depth) = some j := by
  have htext := Spells.element (List.forall_mem_nil _) (hj.spells_write hlayout depth)
    (List.forall_mem_nil _)
  rw [List.nil_append, List.append_nil] at htext
  exact ofChars?_of_spells htext

end Json

end Cutscene
