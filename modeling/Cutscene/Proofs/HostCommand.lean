import Cutscene.HostCommand
import Cutscene.Proofs.Json.Stability

/-!
# Records of Commands

The parameters and the payload of a command are the game's own business. They are kept in canonical
form and passed on, so that what is read again is what was kept. A command stands by itself or in
the place of a step, and there it has the same members and another tag.

## Main results

* `HostCommand.kept_of_ofBody?`: what a command was read with is passed on.
* `HostCommand.ofBody?_members`: what is passed on is read again.
-/

namespace Cutscene

open Json

namespace HostCommand

/-- Parameters and payload are passed on, with so much room for each parameter. -/
def Kept (room : Nat) : HostCommand → Prop
  | navigate _ params => ∀ entry ∈ params.toList, entry.2.Kept room
  | battle .. => True
  | reward _ payload => payload.Kept (room + 1)

variable {room : Nat} {form : String} {body : Json} {c : HostCommand}

/-- **What a command was read with is passed on.** -/
theorem kept_of_ofBody? (hlegal : body.Legal (room + 2)) (hsound : body.Sound)
    (h : ofBody? form body = some c) : c.Kept room := by
  rw [ofBody?.eq_def] at h
  split at h
  · obtain ⟨fields, hfields, h⟩ := Option.bind_eq_some_iff.mp h
    obtain ⟨screen, -, h⟩ := Option.bind_eq_some_iff.mp h
    obtain ⟨params, hparams, h⟩ := Option.bind_eq_some_iff.mp h
    cases h
    intro entry hentry
    rcases Document.exists_of_defaulted hparams with rfl | ⟨field, hmem, hread⟩
    · cases hentry
    · obtain ⟨value, hpart, hvalue⟩ := Document.exists_of_map? hread entry hentry
      have hfield := partOf_of_fields? hfields hmem
      rw [← Option.some.inj hvalue]
      exact ((hlegal.part hfield).part hpart).kept_canonical ((hsound.part hfield).part hpart)
  · obtain ⟨fields, -, h⟩ := Option.bind_eq_some_iff.mp h
    obtain ⟨chapter, -, h⟩ := Option.bind_eq_some_iff.mp h
    obtain ⟨battle, -, h⟩ := Option.bind_eq_some_iff.mp h
    cases h
    trivial
  · obtain ⟨fields, hfields, h⟩ := Option.bind_eq_some_iff.mp h
    obtain ⟨kind, -, h⟩ := Option.bind_eq_some_iff.mp h
    obtain ⟨payload, hpayload, h⟩ := Option.bind_eq_some_iff.mp h
    cases h
    rcases Document.exists_of_defaulted hpayload with rfl | ⟨field, hmem, hread⟩
    · exact ⟨rfl, .null⟩
    · have hfield := partOf_of_fields? hfields hmem
      rw [← Option.some.inj hread]
      exact (hlegal.part hfield).kept_canonical (hsound.part hfield)
  · cases h

/-- **What is passed on is read again.** -/
theorem ofBody?_members (hc : c.Kept room) :
    ofBody? c.form (Json.ofMembers c.members) = some c := by
  cases c with
  | navigate screen params =>
      have hparams : Document.map? Body.json? (Json.ofMap id params) = some params :=
        Document.map?_ofMap fun entry hentry => congrArg some (hc entry hentry).canonical_eq
      rw [members]
      cases hempty : params.isEmpty with
      | true =>
          obtain rfl := Std.ExtTreeMap.isEmpty_iff.mp hempty
          rfl
      | false =>
          change (Document.map? Body.json? (Json.ofMap id params)).bind
            (fun params => some (navigate screen params)) = _
          rw [hparams, Option.bind_some]
  | battle => rfl
  | reward kind payload =>
      change (some payload.canonical).bind (fun payload => some (reward kind payload)) = _
      rw [hc.canonical_eq, Option.bind_some]

/-- The members of a command can be written. -/
theorem legible_members (hc : c.Kept room) :
    Members (fun member => member.2.Legible (room + 1)) c.members := by
  cases c with
  | navigate screen params =>
      have hparams : (Json.ofMap id params).Legible (room + 1) :=
        .ofMap fun entry hentry => (hc entry hentry).legible
      simp [members, hparams]
  | battle => simp [members]
  | reward kind payload => simp [members, hc.legible]

/-- No member of a command is named as a tag is. -/
theorem ne_tag_of_members (c : HostCommand) :
    Members (fun member => member.1 ≠ "command") c.members := by
  cases c <;> simp [members]

/-- A command that stands by itself is kept as it was read. -/
theorem kept_of_ofJson? {j : Json} (hj : j.Legal (room + 2)) (h : ofJson? j = some c) :
    c.Kept room := by
  obtain ⟨⟨form, body⟩, htagged, h⟩ := Option.bind_eq_some_iff.mp h
  obtain ⟨hlegal, hsound⟩ := of_tagged? htagged hj
  exact kept_of_ofBody? hlegal hsound h

/-- What is written of a command that is kept can be read. -/
theorem legible_toJson (hc : c.Kept room) : c.toJson.Legible (room + 2) :=
  .tagged (legible_members hc)

/-- **What is written of a command is read as the command.** -/
theorem ofJson?_toJson (hc : c.Kept room) : ofJson? c.toJson = some c := by
  rw [ofJson?, toJson, tagged?_tagged c.ne_tag_of_members (legible_members hc)]
  exact ofBody?_members hc

/-- **Commands settle.** -/
theorem settles : Settles (room + 2) ofJson? toJson := fun _ _ hj h =>
  have hc := kept_of_ofJson? hj h
  ⟨legible_toJson hc, ofJson?_toJson hc⟩

end HostCommand

end Cutscene
