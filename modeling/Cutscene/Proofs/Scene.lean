import Cutscene.Proofs.HostCommand
import Cutscene.Scene

/-!
# Records of Scenes

A scene is a record of triggers, a condition, and steps, which hold lines, options and commands in
turn. What is written of each of them is read as what it was. For all but commands this holds of any
value; a command has to be one that can be passed on, which is why it matters where a step was read
from.

## Main results

* `Trigger.read?_toJson`, `Condition.read?_toJson`, `Dialogue.read?_members`,
  `ChoiceOption.read?_toJson`: the parts of scenes are read as what they were.
* `Step.ofBody?_members`: so are steps of every kind.
* `Scene.settles`: so are scenes.
-/

namespace Cutscene

open Json

/-! ### Triggers and conditions -/

namespace Trigger

/-- What is written of a trigger is read as the trigger. -/
theorem ofBody?_members (t : Trigger) :
    ofBody? t.kind (Json.ofMembers t.members) = some t := by
  cases t with
  | battleStart chapter battle => cases chapter <;> cases battle <;> rfl
  | battleEnd result => cases result <;> rfl
  | storyProgress chapter battle => cases battle <;> rfl
  | packOpened packType => cases packType <;> rfl
  | _ => rfl

/-- None of the members of a trigger is named as the tag is. -/
theorem ne_tag_of_members (t : Trigger) :
    Members (fun member => member.1 ≠ "type") t.members := by
  cases t <;> simp [members]

/-- Each of them can be written. -/
theorem legible_members {room : Nat} (t : Trigger) :
    Members (fun member => member.2.Legible room) t.members := by
  cases t <;> simp [members, BattleResult.toJson]

/-- So a trigger can be written. -/
theorem legible_toJson {room : Nat} (t : Trigger) : t.toJson.Legible (room + 1) :=
  .tagged t.legible_members

/-- **A trigger is read back.** -/
theorem read?_toJson (t : Trigger) : read? t.toJson = some t := by
  have hmembers : Members (fun member => member.2.Legible 0) t.members := t.legible_members
  have htagged : Tagged.tagged? "type" t.toJson = some (t.kind, Json.ofMembers t.members) :=
    tagged?_tagged t.ne_tag_of_members hmembers
  rw [read?, htagged]
  exact t.ofBody?_members

end Trigger

namespace Condition

/-- **A condition is read back.** -/
theorem read?_toJson (c : Condition) : read? c.toJson = some c := by
  change (Document.map? Document.bool? (Json.ofMap .bool c.flags)).bind (fun flags =>
    (Document.map? Document.int64? (Json.ofMap .ofInt64 c.counters)).bind fun counters =>
      some (⟨flags, counters⟩ : Condition)) = some c
  rw [Document.map?_bools, Option.bind_some, Document.map?_counters, Option.bind_some]

/-- A condition can be written. -/
theorem legible_toJson {room : Nat} (c : Condition) : c.toJson.Legible (room + 2) :=
  .object (by simp [Legible.ofMap])

end Condition

/-! ### Steps -/

namespace Dialogue

/-- What is written of a line is read as the line. -/
theorem read?_members (d : Dialogue) : read? (Json.ofMembers d.members) = some d := by
  obtain ⟨_ | speaker, text, _ | portrait⟩ := d <;> rfl

end Dialogue

namespace ChoiceOption

/-- **An option is read back.** -/
theorem read?_toJson (o : ChoiceOption) : read? o.toJson = some o := by
  -- Each field is found under its name.
  obtain ⟨fields, hfields, hlabel, hgoto, hflags⟩ : ∃ fields : List (String × Json),
      Document.fields? ["label", "goto", "setFlags"] o.toJson = some fields ∧
      fields.lookup "label" = some (.string o.label) ∧
      fields.lookup "goto" = o.goto.map .string ∧
      fields.lookup "setFlags" =
        if o.setFlags.isEmpty then none else some (.ofMap .bool o.setFlags) :=
    ⟨_, fields?_ofMembers (by decide) (by simp), by simp, by simp, by simp⟩
  have hgoto : Document.optional fields "goto" Document.text? = some o.goto :=
    Document.optional_of_lookup hgoto nofun fun _ => rfl
  have hflags : Document.defaulted fields "setFlags" ∅ (Document.map? Document.bool?) =
      some o.setFlags :=
    Document.defaulted_of_lookup hflags Std.ExtTreeMap.isEmpty_iff.mp (Document.map?_bools _)
  rw [read?, hfields]
  simp only [Option.bind_eq_bind, Option.bind_some, Document.required_of_lookup hlabel, hgoto,
    hflags]
  rfl

/-- An option can be written. -/
theorem legible_toJson {room : Nat} (o : ChoiceOption) : o.toJson.Legible (room + 2) :=
  .ofMembers (by simp [Legible.ofMap])

end ChoiceOption

namespace Step

/-- A command that a step gives is passed on. -/
def Kept (room : Nat) : Step → Prop
  | command c => c.Kept room
  | _ => True

variable {room : Nat} {s : Step}

/-- A step that is read from a record can be passed on with its command. -/
theorem kept_of_ofBody? {kind : String} {body : Json} (hlegal : body.Legal (room + 2))
    (hsound : body.Sound) (h : ofBody? kind body = some s) : s.Kept room := by
  cases s with
  | command c =>
      rw [ofBody?.eq_def] at h
      split at h
      case h_24 =>
        obtain ⟨c', hc, h⟩ := Option.map_eq_some_iff.mp h
        cases h
        exact HostCommand.kept_of_ofBody? hlegal hsound hc
      -- Under its own kind a step is no command.
      all_goals simp [Option.bind_eq_some_iff, Body.fieldless?] at h
  | _ => trivial

/-- None of the members of a step is named as the tag is. -/
theorem ne_tag_of_members (s : Step) : Members (fun member => member.1 ≠ "type") s.members := by
  cases s with
  | command c => cases c <;> simp [members, HostCommand.members]
  | _ => simp [members, Dialogue.members]

/-- Each of them can be written, if the command of the step can be. -/
theorem legible_members (hs : s.Kept (room + 2)) :
    Members (fun member => member.2.Legible (room + 3)) s.members := by
  cases s with
  | command c => exact HostCommand.legible_members hs
  | choice prompt options => simp [members, Legible.map, ChoiceOption.legible_toJson]
  | _ => simp [members, Dialogue.members]

/-- The bounds of a counter are found again. -/
theorem ofBody?_checkCounter (counter : String) (min max : Option Int64)
    (thenLabel elseLabel : Option String) :
    ofBody? "checkProgress"
        (Json.ofMembers (checkCounter counter min max thenLabel elseLabel).members) =
      some (checkCounter counter min max thenLabel elseLabel) := by
  obtain ⟨fields, hfields, hcounter, hmin, hmax, hthen, helse⟩ : ∃ fields : List (String × Json),
      Document.fields? ["key", "min", "max", "then", "else"]
        (Json.ofMembers (checkCounter counter min max thenLabel elseLabel).members) = some fields ∧
      fields.lookup "key" = some (.string counter) ∧
      fields.lookup "min" = min.map .ofInt64 ∧ fields.lookup "max" = max.map .ofInt64 ∧
      fields.lookup "then" = thenLabel.map .string ∧ fields.lookup "else" = elseLabel.map .string :=
    ⟨_, fields?_ofMembers (by decide) (by simp [members]), by simp [members], by simp [members],
      by simp [members], by simp [members], by simp [members]⟩
  have hmin : Document.optional fields "min" Document.int64? = some min :=
    Document.optional_of_lookup hmin nofun Document.int64?_ofInt64
  have hmax : Document.optional fields "max" Document.int64? = some max :=
    Document.optional_of_lookup hmax nofun Document.int64?_ofInt64
  have hthen : Document.optional fields "then" Document.text? = some thenLabel :=
    Document.optional_of_lookup hthen nofun fun _ => rfl
  have helse : Document.optional fields "else" Document.text? = some elseLabel :=
    Document.optional_of_lookup helse nofun fun _ => rfl
  rw [ofBody?, hfields]
  simp only [Option.bind_eq_bind, Option.bind_some, Document.required_of_lookup hcounter, hmin,
    hmax, hthen, helse]
  rfl

/-- **What is written of a step is read as the step.** -/
theorem ofBody?_members (hs : s.Kept room) :
    ofBody? s.kind (Json.ofMembers s.members) = some s := by
  cases s with
  | branch flag thenLabel elseLabel => cases thenLabel <;> cases elseLabel <;> rfl
  | checkCounter counter min max thenLabel elseLabel =>
      exact ofBody?_checkCounter counter min max thenLabel elseLabel
  | say dialogue => exact congrArg (Option.map say) dialogue.read?_members
  | choice prompt options =>
      have hoptions : (Document.list? ChoiceOption.read?
          (Json.array (options.map ChoiceOption.toJson))).bind (fun options =>
            some (choice prompt options)) = some (choice prompt options) := by
        rw [Document.list?_map fun o _ => o.read?_toJson, Option.bind_some]
      cases prompt <;> exact hoptions
  | wait ms =>
      change (Document.uint64? (Json.int ms.toNat)).bind (fun ms => some (wait ms)) = _
      rw [Document.uint64?_int, Option.bind_some]
  | toggleInputMask enabled => cases enabled <;> rfl
  | hint text anchor => cases anchor <;> rfl
  | setCounter counter value =>
      change (Document.int64? (Json.ofInt64 value)).bind (fun value =>
        some (setCounter counter value)) = _
      rw [Document.int64?_ofInt64, Option.bind_some]
  | addToCounter counter amount =>
      change (Document.int64? (Json.ofInt64 amount)).bind (fun amount =>
        some (addToCounter counter amount)) = _
      rw [Document.int64?_ofInt64, Option.bind_some]
  | portrait character expression position => cases expression <;> cases position <;> rfl
  | overlay asset => cases asset <;> rfl
  | command c =>
      have hcommand := congrArg (Option.map command) (HostCommand.ofBody?_members hs)
      cases c <;> exact hcommand
  | _ => rfl

/-- **Steps settle.** -/
theorem settles : Settles (room + 4) read? toJson :=
  settles_tagged ne_tag_of_members fun hlegal hsound h =>
    have hs := kept_of_ofBody? hlegal hsound h
    ⟨legible_members hs, ofBody?_members hs⟩

end Step

/-! ### Scenes -/

namespace Scene

variable {room : Nat} {s : Scene}

/-- The steps of a scene that has been read settle. -/
theorem step_of_read? {j : Json} (hj : j.Legal (room + 6)) (h : read? j = some s) :
    ∀ step ∈ s.steps, step.toJson.Legible (room + 4) ∧ Step.read? step.toJson = some step := by
  obtain ⟨fields, hfields, h⟩ := Option.bind_eq_some_iff.mp h
  obtain ⟨id, -, h⟩ := Option.bind_eq_some_iff.mp h
  obtain ⟨version, -, h⟩ := Option.bind_eq_some_iff.mp h
  obtain ⟨title, -, h⟩ := Option.bind_eq_some_iff.mp h
  obtain ⟨description, -, h⟩ := Option.bind_eq_some_iff.mp h
  obtain ⟨triggers, -, h⟩ := Option.bind_eq_some_iff.mp h
  obtain ⟨condition, -, h⟩ := Option.bind_eq_some_iff.mp h
  obtain ⟨steps, hsteps, h⟩ := Option.bind_eq_some_iff.mp h
  obtain ⟨priority, -, h⟩ := Option.bind_eq_some_iff.mp h
  obtain ⟨assets, -, h⟩ := Option.bind_eq_some_iff.mp h
  cases h
  intro step hstep
  rcases Document.exists_of_defaulted hsteps with rfl | ⟨field, hmem, hread⟩
  · cases hstep
  · obtain ⟨item, hitem, hread⟩ := Document.exists_of_list? hread step hstep
    exact Step.settles item step ((hj.part (partOf_of_fields? hfields hmem)).part hitem) hread

/-- A scene can be written if its steps can be. -/
theorem legible_toJson (hsteps : ∀ step ∈ s.steps, step.toJson.Legible (room + 4)) :
    s.toJson.Legible (room + 6) := by
  have hlist := Legible.map hsteps
  refine .ofMembers ?_
  simp [Legible.map, Legible.ofMap, Trigger.legible_toJson, Condition.legible_toJson, hlist]

/-- A scene is read back if its steps are. -/
theorem read?_toJson (hsteps : ∀ step ∈ s.steps, Step.read? step.toJson = some step) :
    read? s.toJson = some s := by
  obtain ⟨fields, hfields, hid, hversion, htitle, hdescription, htriggers, hcondition, hsteps',
      hpriority, hassets⟩ : ∃ fields : List (String × Json),
      Document.fields? shape.names s.toJson = some fields ∧
      fields.lookup "id" = some (.string s.id) ∧
      fields.lookup "version" = some (.int s.version.toNat) ∧
      fields.lookup "title" = (if s.title = "" then none else some (.string s.title)) ∧
      fields.lookup "description" =
        (if s.description = "" then none else some (.string s.description)) ∧
      fields.lookup "triggers" = some (.array (s.triggers.map Trigger.toJson)) ∧
      fields.lookup "condition" = s.condition.map Condition.toJson ∧
      fields.lookup "steps" = some (.array (s.steps.map Step.toJson)) ∧
      fields.lookup "priority" = some (.int s.priority.toInt) ∧
      fields.lookup "assets" =
        if s.assets.isEmpty then none else some (.ofMap .string s.assets) :=
    ⟨_, fields?_ofMembers (by decide) (by simp [Shape.names, shape]), by simp, by simp, by simp,
      by simp, by simp, by simp, by simp, by simp, by simp⟩
  have hversion : Document.defaulted fields "version" 1 Document.uint32? = some s.version := by
    rw [Document.defaulted_of_some hversion, Document.uint32?_int]
  have htitle : Document.defaulted fields "title" "" Document.text? = some s.title :=
    Document.defaulted_of_lookup (by simpa using htitle) of_decide_eq_true rfl
  have hdescription : Document.defaulted fields "description" "" Document.text? =
      some s.description :=
    Document.defaulted_of_lookup (by simpa using hdescription) of_decide_eq_true rfl
  have htriggers : Document.defaulted fields "triggers" [] (Document.list? Trigger.read?) =
      some s.triggers := by
    rw [Document.defaulted_of_some htriggers, Document.list?_map fun t _ => t.read?_toJson]
  have hcondition : Document.optional fields "condition" Condition.read? = some s.condition :=
    Document.optional_of_lookup hcondition nofun Condition.read?_toJson
  have hsteps : Document.defaulted fields "steps" [] (Document.list? Step.read?) =
      some s.steps := by
    rw [Document.defaulted_of_some hsteps', Document.list?_map hsteps]
  have hpriority : Document.defaulted fields "priority" 0 Document.int32? = some s.priority := by
    rw [Document.defaulted_of_some hpriority, Document.int32?_int]
  have hassets : Document.defaulted fields "assets" ∅ (Document.map? Document.text?) =
      some s.assets :=
    Document.defaulted_of_lookup hassets Std.ExtTreeMap.isEmpty_iff.mp
      (Document.map?_ofMap fun _ _ => rfl)
  rw [read?, hfields]
  simp only [Option.bind_eq_bind, Option.bind_some, Document.required_of_lookup hid, hversion,
    htitle, hdescription, htriggers, hcondition, hsteps, hpriority, hassets]
  rfl

/-- **Scenes settle.** -/
theorem settles : Settles (room + 6) read? toJson := by
  intro j s hj h
  have hsteps := step_of_read? hj h
  exact ⟨legible_toJson fun step hstep => (hsteps step hstep).1,
    read?_toJson fun step hstep => (hsteps step hstep).2⟩

end Scene

end Cutscene
