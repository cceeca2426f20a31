import Cutscene.Proofs.Json.Records

/-!
# Stable Formats

A format is stable if a value that was read from any text stays what it is once it is written
(`Json.Stable`): it is read again from what is written, and the same is written again. A text may
leave out what has a default, name members in any order, or give an array for a record; what is
written of it does none of that.

Texts come into it at both ends only. In between a format has to settle (`Json.Settles`): what is
read from a value that is legal can be written, for as many containers as there were, and is read as
what it was.

## Main results

* `Json.settles_tagged`: values with several forms settle if their bodies do.
* `Json.Settles.stable`: what settles is stable.
-/

namespace Cutscene

namespace Json

/-- What is read from a legal value can be written, and what is written is read as what it was. -/
def Settles {α : Type} (room : Nat) (read? : Json → Option α) (write : α → Json) : Prop :=
  ∀ (j : Json) (a : α), j.Legal room → read? j = some a →
    (write a).Legible room ∧ read? (write a) = some a

/-- What can always be written and is always read again settles. -/
theorem settles_of_forall {α : Type} {room : Nat} {read? : Json → Option α} {write : α → Json}
    (hlegible : ∀ a, (write a).Legible room) (hread : ∀ a, read? (write a) = some a) :
    Settles room read? write :=
  fun _ a _ _ => ⟨hlegible a, hread a⟩

/-- **A tagged value settles** if what is read from its body can be written without a member that is
named as the tag is, and is read again. -/
theorem settles_tagged {α : Type} {room : Nat} {tag : String} {numbered : List String}
    {ofBody? : String → Json → Option α} {form : α → String}
    {members : α → List (Option (String × Json))}
    (hnames : ∀ a, Members (fun member => member.1 ≠ tag) (members a))
    (hbody : ∀ {kind : String} {body : Json} {a : α}, body.Legal (room + 1) → body.Sound →
      ofBody? kind body = some a → Members (fun member => member.2.Legible room) (members a) ∧
        ofBody? (form a) (ofMembers (members a)) = some a) :
    Settles (room + 1)
      (fun j => (j.tagged? tag numbered).bind fun (kind, body) => ofBody? kind body)
      (fun a => tagged tag (form a) (members a)) := by
  intro j a hj h
  obtain ⟨⟨kind, body⟩, htagged, h⟩ := Option.bind_eq_some_iff.mp h
  obtain ⟨hlegal, hsound⟩ := of_tagged? htagged hj
  obtain ⟨hmembers, hagain⟩ := hbody hlegal hsound h
  refine ⟨.tagged hmembers, ?_⟩
  dsimp only
  rw [tagged?_tagged (hnames a) hmembers]
  exact hagain

/-- **Once it is written, a value stays what it is.** Whatever text it was read from, what is
written of it is read as the same value, and the same is written of that. Floating-point numbers
are supposed to survive being written. -/
def Stable {α : Type} (read? : Json → Option α) (write : α → Json) : Prop :=
  ∀ (text : String) (a : α), (ofText? text).bind read? = some a →
    (∀ x, (Json.float x).Within (write a) → x.Survives) →
    ∀ print ∈ [compact, indented], ∃ again,
      (ofText? (print (write a))).bind read? = some again ∧ again = a ∧
      print (write again) = print (write a)

/-- Compact layout puts nothing between tokens. -/
theorem Layout.isBlank_compact : Layout.compact.IsBlank where
  newline _ := nofun
  afterColon := nofun

/-- A plain value is found in its texts. -/
theorem Plain.ofText?_print {j : Json} (hj : j.Plain Reading.depthLimit) :
    ∀ print ∈ [compact, indented], ofText? (print j) = some j := by
  refine List.forall_mem_cons.mpr ⟨?_, List.forall_mem_singleton.mpr ?_⟩
  · rw [ofText?, compact, String.toList_ofList, ofChars?_write hj Layout.isBlank_compact]
  · rw [ofText?, indented, String.toList_ofList, ofChars?_write hj Layout.isBlank_indented]

/-- **What settles is stable.** -/
theorem Settles.stable {α : Type} {read? : Json → Option α} {write : α → Json}
    (h : Settles Reading.depthLimit read? write) : Stable read? write := by
  intro text a hread hfloats print hprint
  obtain ⟨j, htext, hj⟩ := Option.bind_eq_some_iff.mp hread
  obtain ⟨hlegible, hagain⟩ := h j a (legal_of_ofText? htext) hj
  have hplain : (write a).Plain Reading.depthLimit :=
    hlegible.legal.plain hlegible.sound fun x hx => ⟨hlegible.finite x hx, hfloats x hx⟩
  refine ⟨a, ?_, rfl, rfl⟩
  rw [hplain.ofText?_print print hprint, Option.bind_some, hagain]

end Json

end Cutscene
