import Cutscene.Event
import Cutscene.Proofs.Scene
import Cutscene.Proofs.Uuid
import Cutscene.Trigger

/-!
# All Formats Are Stable

Besides scenes, these are written and read: game events, commands, states of runs, waits, tickets,
what is recorded, and progress. Tickets are read with numbers of 64 bits, and what is recorded may
hold a command; everything else is read again whatever it is.

## Main results

* `Ticket.settles`, `SceneEnded.ofJson?_toJson`, `Occurrence.settles`: what is written is read as
  what it was.
* `formats_stable`: all formats are stable.
-/

namespace Cutscene

open Json

/-! ### Game events -/

namespace GameEvent

/-- An event is read back from its kind and its members. -/
theorem ofBody?_members (e : GameEvent) : ofBody? e.kind (Json.ofMembers e.members) = some e := by
  cases e with
  | battleEnd result => cases result <;> rfl
  | _ => rfl

/-- None of its members is named as the tag is. -/
theorem ne_tag_of_members (e : GameEvent) :
    Members (fun member => member.1 ≠ "type") e.members := by
  cases e <;> simp [members]

/-- Each of its members can be written. -/
theorem legible_members {room : Nat} (e : GameEvent) :
    Members (fun member => member.2.Legible room) e.members := by
  cases e <;> simp [members, BattleResult.toJson]

/-- **Game events settle.** -/
theorem settles {room : Nat} (place : Place) : Settles (room + 1) (ofJson? place) toJson :=
  settles_tagged ne_tag_of_members fun _ _ _ => ⟨legible_members _, ofBody?_members _⟩

end GameEvent

/-! ### States of runs -/

/-- An identifier can be written. -/
theorem Uuid.legible_toJson {room : Nat} (u : Uuid) : u.toJson.Legible room := .string u.text

namespace Wait

/-- A wait can be written. -/
theorem legible_toJson {room : Nat} (w : Wait) : w.toJson.Legible (room + 1) := by
  cases w <;> exact .tagged (by simp)

/-- A wait is read back. -/
theorem ofJson?_toJson (place : Place) (w : Wait) : ofJson? place w.toJson = some w := by
  cases w with
  | timer ms =>
      change (Document.uint64? (Json.int ms.toNat)).bind (fun ms => some (timer ms)) = _
      rw [Document.uint64?_int, Option.bind_some]
  | _ => rfl

end Wait

namespace RunState

/-- A state can be written. -/
theorem legible_toJson {room : Nat} (s : RunState) : s.toJson.Legible (room + 2) := by
  cases s <;> exact .tagged (by simp [Wait.legible_toJson, EndReason.toJson])

/-- A state is read back. -/
theorem ofJson?_toJson (s : RunState) : ofJson? s.toJson = some s := by
  cases s with
  | waiting wait =>
      have hread : (Wait.ofJson? .insideTagged wait.toJson).bind (fun wait => some (waiting wait)) =
          some (waiting wait) := by
        rw [Wait.ofJson?_toJson, Option.bind_some]
      cases wait <;> exact hread
  | ended reason => cases reason <;> rfl
  | _ => rfl

end RunState

namespace Ticket

/-- What is written of a ticket whose numbers have 64 bits is read as the ticket. -/
theorem ofJson?_toJson {t : Ticket} (hstep : t.step < UInt64.size)
    (hnumber : t.number < UInt64.size) : ofJson? t.toJson = some t := by
  obtain ⟨fields, hfields, hrun, hsteps, hnumbers⟩ : ∃ fields : List (String × Json),
      t.toJson.fields? ["runId", "stepIndex", "seq"] = some fields ∧
      fields.lookup "runId" = some t.run.toJson ∧ fields.lookup "stepIndex" = some (.int t.step) ∧
      fields.lookup "seq" = some (.int t.number) := ⟨_, rfl, rfl, rfl, rfl⟩
  rw [ofJson?, hfields]
  simp only [Option.bind_eq_bind, Option.bind_some, Document.required_of_lookup hrun,
    Document.required_of_lookup hsteps, Document.required_of_lookup hnumbers, Uuid.ofJson?_toJson,
    Document.natBelow?_int hstep, Document.natBelow?_int hnumber]
  rfl

/-- **Tickets settle.** -/
theorem settles {room : Nat} : Settles (room + 1) ofJson? toJson := by
  intro j t _ h
  obtain ⟨fields, -, h⟩ := Option.bind_eq_some_iff.mp h
  obtain ⟨run, -, h⟩ := Option.bind_eq_some_iff.mp h
  obtain ⟨step, hstep, h⟩ := Option.bind_eq_some_iff.mp h
  obtain ⟨number, hnumber, h⟩ := Option.bind_eq_some_iff.mp h
  cases h
  obtain ⟨_, -, hstep⟩ := Document.exists_of_required hstep
  obtain ⟨_, -, hnumber⟩ := Document.exists_of_required hnumber
  have hstep := Document.lt_of_natBelow? hstep
  have hnumber := Document.lt_of_natBelow? hnumber
  refine ⟨.object ?_, ofJson?_toJson hstep hnumber⟩
  simp [Uuid.legible_toJson, Legible.natCast, hstep, hnumber]

end Ticket

/-! ### Recorded events -/

namespace SceneEnded

/-- The end of a scene can be written. -/
theorem legible_toJson {room : Nat} (e : SceneEnded) : e.toJson.Legible (room + 2) :=
  .ofMembers (by simp [Uuid.legible_toJson, EndReason.toJson, Legible.ofMap])

/-- The end of a scene is read back. -/
theorem ofJson?_toJson (e : SceneEnded) : ofJson? e.toJson = some e := by
  obtain ⟨fields, hfields, hscene, hrun, hreason, hdiagnostic, hflags, hcounters⟩ :
      ∃ fields : List (String × Json),
      e.toJson.fields? ["sceneId", "runId", "reason", "diagnostic", "changedFlags",
        "changedProgress"] = some fields ∧
      fields.lookup "sceneId" = some (.string e.scene) ∧
      fields.lookup "runId" = some e.run.toJson ∧
      fields.lookup "reason" = some e.reason.toJson ∧
      fields.lookup "diagnostic" = e.diagnostic.map .string ∧
      fields.lookup "changedFlags" =
        (if e.changedFlags.isEmpty then none else some (.ofMap .bool e.changedFlags)) ∧
      fields.lookup "changedProgress" =
        (if e.changedCounters.isEmpty then none else some (.ofMap .ofInt64 e.changedCounters)) :=
    ⟨_, fields?_ofMembers (by decide) (by simp), by simp, by simp, by simp, by simp, by simp,
      by simp⟩
  have hdiagnostic : Document.optional fields "diagnostic" Json.text? = some e.diagnostic :=
    Document.optional_of_lookup hdiagnostic nofun fun _ => rfl
  have hflags : Document.defaulted fields "changedFlags" ∅ (Document.map? Json.bool?) =
      some e.changedFlags :=
    Document.defaulted_of_lookup hflags Std.ExtTreeMap.isEmpty_iff.mp (Document.map?_bools _)
  have hcounters : Document.defaulted fields "changedProgress" ∅ (Document.map? Document.int64?) =
      some e.changedCounters :=
    Document.defaulted_of_lookup hcounters Std.ExtTreeMap.isEmpty_iff.mp (Document.map?_counters _)
  have hread : EndReason.ofJson? .outside e.reason.toJson = some e.reason := by
    cases e.reason <;> rfl
  rw [ofJson?, hfields]
  simp only [Option.bind_eq_bind, Option.bind_some, Document.required_of_lookup hscene,
    Document.required_of_lookup hrun, Document.required_of_lookup hreason, hdiagnostic, hflags,
    hcounters, hread, Uuid.ofJson?_toJson]
  rfl

end SceneEnded

namespace Occurrence

/-- A command that was given is passed on. -/
def Kept (room : Nat) : Occurrence → Prop
  | commandDispatched _ c | commandFailed _ c _ => c.Kept room
  | _ => True

variable {room : Nat} {o : Occurrence}

/-- What is read as an event can be passed on with its command. -/
theorem kept_of_ofJson? {j : Json} (hj : j.Legal (room + 4)) (h : ofJson? j = some o) :
    o.Kept room := by
  have hcommand {name form : String} {body : Json} {fields : List (String × Json)}
      {names : List String} {c : HostCommand}
      (hbody : (Json.object [(form, body)]).Legal (room + 4))
      (hfields : body.fields? names = some fields)
      (hread : Document.required fields name HostCommand.ofJson? = some c) : c.Kept room := by
    obtain ⟨field, hmem, hread⟩ := Document.exists_of_required hread
    have hpart : body.PartOf (.object [(form, body)]) :=
      .member (List.mem_singleton_self (form, body))
    have hfield := (hbody.part hpart).part (partOf_of_fields? hfields hmem)
    exact HostCommand.kept_of_ofJson? hfield hread
  rw [ofJson?.eq_def] at h
  split at h
  case h_5 =>
    obtain ⟨fields, hfields, h⟩ := Option.bind_eq_some_iff.mp h
    obtain ⟨scene, -, h⟩ := Option.bind_eq_some_iff.mp h
    obtain ⟨c, hc, h⟩ := Option.bind_eq_some_iff.mp h
    cases h
    exact hcommand hj hfields hc
  case h_6 =>
    obtain ⟨fields, hfields, h⟩ := Option.bind_eq_some_iff.mp h
    obtain ⟨scene, -, h⟩ := Option.bind_eq_some_iff.mp h
    obtain ⟨c, hc, h⟩ := Option.bind_eq_some_iff.mp h
    obtain ⟨error, -, h⟩ := Option.bind_eq_some_iff.mp h
    cases h
    exact hcommand hj hfields hc
  -- Anything else comes without a command.
  all_goals cases o with
  | commandDispatched | commandFailed => simp [Option.bind_eq_some_iff] at h
  | _ => trivial

/-- What is recorded can be written, with a command that can be. -/
theorem legible_toJson (ho : o.Kept room) : o.toJson.Legible (room + 4) := by
  cases o with
  | sceneEnded ended => simp [toJson, Legible.object, SceneEnded.legible_toJson]
  | commandDispatched scene command =>
      simp [toJson, Legible.object, HostCommand.legible_toJson ho]
  | commandFailed scene command error =>
      simp [toJson, Legible.object, HostCommand.legible_toJson ho]
  | _ => simp [toJson, Legible.object, Uuid.legible_toJson]

/-- What is recorded is read back, with a command that is. -/
theorem ofJson?_toJson (ho : o.Kept room) : ofJson? o.toJson = some o := by
  cases o with
  | sceneStarted scene version run =>
      obtain ⟨fields, hfields, hscene, hversion, hrun⟩ : ∃ fields : List (String × Json),
          (Json.object [("sceneId", .string scene), ("version", .int version.toNat),
            ("runId", run.toJson)]).fields? ["sceneId", "version", "runId"] = some fields ∧
          fields.lookup "sceneId" = some (.string scene) ∧
          fields.lookup "version" = some (.int version.toNat) ∧
          fields.lookup "runId" = some run.toJson := ⟨_, rfl, rfl, rfl, rfl⟩
      rw [toJson, ofJson?, hfields]
      simp only [Option.bind_eq_bind, Option.bind_some, Document.required_of_lookup hscene,
        Document.required_of_lookup hversion, Document.required_of_lookup hrun,
        Document.uint32?_int, Uuid.ofJson?_toJson]
      rfl
  | sceneEnded ended => exact congrArg (Option.map sceneEnded) ended.ofJson?_toJson
  | flagChanged => rfl
  | counterChanged counter old new =>
      change (Document.int64? (Json.ofInt64 old)).bind (fun old =>
        (Document.int64? (Json.ofInt64 new)).bind fun new =>
          some (counterChanged counter old new)) = _
      rw [Document.int64?_ofInt64, Option.bind_some, Document.int64?_ofInt64, Option.bind_some]
  | commandDispatched scene command =>
      change (HostCommand.ofJson? command.toJson).bind (fun command =>
        some (commandDispatched scene command)) = _
      rw [HostCommand.ofJson?_toJson ho, Option.bind_some]
  | commandFailed scene command error =>
      change (HostCommand.ofJson? command.toJson).bind (fun command =>
        some (commandFailed scene command error)) = _
      rw [HostCommand.ofJson?_toJson ho, Option.bind_some]

/-- **What is recorded settles.** -/
theorem settles : Settles (room + 4) ofJson? toJson := fun _ _ hj h =>
  have ho := kept_of_ofJson? hj h
  ⟨legible_toJson ho, ofJson?_toJson ho⟩

end Occurrence

/-! ### Stability -/

/-- **All formats are stable.** Scenes with their steps, options, lines, triggers and conditions,
game events, commands, states of runs, waits, tickets, what is recorded, and progress: whatever text
one of them was read from, what is written of it is read as what it was, and the same is written
again. Floating-point numbers in parameters and payloads are supposed to survive being written. -/
theorem formats_stable :
    Stable Scene.read? Scene.toJson ∧
    Stable (GameEvent.ofJson? .outside) GameEvent.toJson ∧
    Stable HostCommand.ofJson? HostCommand.toJson ∧
    Stable RunState.ofJson? RunState.toJson ∧
    Stable (Wait.ofJson? .outside) Wait.toJson ∧
    Stable Ticket.ofJson? Ticket.toJson ∧
    Stable Occurrence.ofJson? Occurrence.toJson ∧
    Stable Progress.ofJson? Progress.toJson := by
  refine ⟨?scenes, ?events, ?commands, ?states, ?waits, ?tickets, ?records, ?progress⟩
  case scenes => exact Scene.settles.stable
  case events => exact (GameEvent.settles .outside).stable
  case commands => exact HostCommand.settles.stable
  case states => exact (settles_of_forall RunState.legible_toJson RunState.ofJson?_toJson).stable
  case waits =>
    exact (settles_of_forall Wait.legible_toJson (Wait.ofJson?_toJson .outside)).stable
  case tickets => exact Ticket.settles.stable
  case records => exact Occurrence.settles.stable
  case progress =>
    exact (settles_of_forall (fun p => p.plain_toJson.legible) Progress.ofJson?_toJson).stable

/-! ### A treasury -/

namespace Treasury

/-- A scene as somebody may write it. -/
def draft : String :=
  "\x7b\"steps\":[[\"label\",\"gate\"],\x7b\"kind\":\"coins\",\"type\":\"triggerReward\"," ++
    "\"payload\":\x7b\"b\":1.5,\"a\":[1,0.1],\"b\":0.25\x7d\x7d],\"id\":\"treasury\",\"hue\":7\x7d"

/-- The scene. -/
def scene : Scene where
  id := "treasury"
  steps := [.label "gate", .command (.reward "coins" (.object
    [("a", .array [.int 1, .float ⟨0x3FB999999999999A⟩]), ("b", .float ⟨0x3FD0000000000000⟩)]))]

/-- The draft is read as the scene: the later of two members with one name counts. -/
theorem read?_draft : (ofText? draft).bind Scene.read? = some scene := by decide +kernel

/-- The scene is written with all fields that have no default to stand for them. -/
theorem toJson_scene : scene.toJson = .object [("id", .string "treasury"), ("version", .int 1),
    ("triggers", .array []),
    ("steps", .array [.object [("type", .string "label"), ("name", .string "gate")],
      .object [("type", .string "triggerReward"), ("kind", .string "coins"), ("payload", .object
        [("a", .array [.int 1, .float ⟨0x3FB999999999999A⟩]),
          ("b", .float ⟨0x3FD0000000000000⟩)])]]),
    ("priority", .int 0)] := rfl

/-- The numbers of the payload survive being written. -/
theorem survives_scene (x : Binary64) (hx : (Json.float x).Within scene.toJson) : x.Survives := by
  rw [toJson_scene] at hx
  simp only [within_object, within_array, within_string, within_int, within_float,
    Json.float.injEq, List.mem_cons, List.not_mem_nil, or_false, exists_eq_or_imp, exists_eq_left,
    reduceCtorEq, false_or, false_and, exists_false] at hx
  rw [Binary64.Survives]
  rcases hx with rfl | rfl <;> decide +kernel

/-- The scene is found again in its indented text. -/
theorem stable_scene :
    ∃ again, (ofText? scene.toJson.indented).bind Scene.read? = some again ∧ again = scene ∧
      again.toJson.indented = scene.toJson.indented :=
  formats_stable.1 draft scene read?_draft survives_scene Json.indented (by simp)

end Treasury

end Cutscene
