import Cutscene.Proofs.Run.Path
import Cutscene.Proofs.Run.Report

/-!
# What a Scene Writes

A scene writes the flags that its steps and the options of its choices name, and the counters that
its steps name (`Scene.WritesFlag`, `Scene.WritesCounter`). Whatever else a player's progress holds,
the scene spares (`Scene.Spares`): no operation on a run touches it, and so it is, when the run is
over, what the game alone has made of it meanwhile (`Progress.heedAll`).

## Main results

* `Run.overwrites_writeFlags`: the flags of an option.
* `Run.Lasting.spares`: the strokes of a running run.
* `Run.spares_operate`: an operation.
* `Scene.spares_actAll`: a whole run, with everything that the game writes in the course of it.
-/

namespace Cutscene

open Std Run

namespace Scene

variable {s : Scene} {p q : Progress}

/-- A step or an option of a choice writes the flag. -/
def WritesFlag (s : Scene) (name : String) : Prop :=
  (∃ value, .setFlag name value ∈ s.steps) ∨
    ∃ prompt options, .choice prompt options ∈ s.steps ∧
      ∃ option ∈ options, name ∈ option.setFlags

/-- A step writes the counter or adds to it. -/
def WritesCounter (s : Scene) (name : String) : Prop :=
  (∃ value, .setCounter name value ∈ s.steps) ∨ ∃ amount, .addToCounter name amount ∈ s.steps

/-- **Nothing but what the scene writes differs**: the entries of all other flags and counters are
the same, or are missing both times, and so are the completed scenes and when which scene was seen
last. -/
structure Spares (s : Scene) (p q : Progress) : Prop where
  flags : ∀ name, ¬ s.WritesFlag name → q.flags[name]? = p.flags[name]?
  counters : ∀ name, ¬ s.WritesCounter name → q.counters[name]? = p.counters[name]?
  completed_eq : q.completed = p.completed
  lastSeen_eq : q.lastSeen = p.lastSeen

namespace Spares

/-- Nothing differs from itself. -/
theorem refl (s : Scene) (p : Progress) : s.Spares p p :=
  ⟨fun _ _ => rfl, fun _ _ => rfl, rfl, rfl⟩

/-- What is spared twice is spared. -/
theorem trans {r : Progress} (h : s.Spares p q) (h' : s.Spares q r) : s.Spares p r where
  flags name hname := (h'.flags name hname).trans (h.flags name hname)
  counters name hname := (h'.counters name hname).trans (h.counters name hname)
  completed_eq := h'.completed_eq.trans h.completed_eq
  lastSeen_eq := h'.lastSeen_eq.trans h.lastSeen_eq

/-- A flag that the scene writes. -/
theorem setFlag_right (h : s.Spares p q) {name : String} (hname : s.WritesFlag name)
    (value : Bool) : s.Spares p (q.setFlag name value) where
  flags other hother := by
    have hne : name ≠ other := fun heq => hother (heq ▸ hname)
    rw [← h.flags other hother]
    exact (ExtTreeMap.getElem?_insert ..).trans (if_neg (by simpa using hne))
  counters := h.counters
  completed_eq := h.completed_eq
  lastSeen_eq := h.lastSeen_eq

/-- A counter that the scene writes. -/
theorem setCounter_right (h : s.Spares p q) {name : String} (hname : s.WritesCounter name)
    (value : Int64) : s.Spares p (q.setCounter name value) where
  flags := h.flags
  counters other hother := by
    have hne : name ≠ other := fun heq => hother (heq ▸ hname)
    rw [← h.counters other hother]
    exact (ExtTreeMap.getElem?_insert ..).trans (if_neg (by simpa using hne))
  completed_eq := h.completed_eq
  lastSeen_eq := h.lastSeen_eq

/-- Any flag that is written both times. -/
theorem setFlag (h : s.Spares p q) (name : String) (value : Bool) :
    s.Spares (p.setFlag name value) (q.setFlag name value) where
  flags other hother := by
    have hsame := h.flags other hother
    rw [Progress.setFlag, Progress.setFlag, ExtTreeMap.getElem?_insert, ExtTreeMap.getElem?_insert,
      hsame]
  counters := h.counters
  completed_eq := h.completed_eq
  lastSeen_eq := h.lastSeen_eq

/-- Any counter that is written both times. -/
theorem setCounter (h : s.Spares p q) (name : String) (value : Int64) :
    s.Spares (p.setCounter name value) (q.setCounter name value) where
  flags := h.flags
  counters other hother := by
    have hsame := h.counters other hother
    rw [Progress.setCounter, Progress.setCounter, ExtTreeMap.getElem?_insert,
      ExtTreeMap.getElem?_insert, hsame]
  completed_eq := h.completed_eq
  lastSeen_eq := h.lastSeen_eq

end Spares

end Scene

/-! ### Writing several flags -/

/-- The entries of a map, each of them once, in ascending order of their names. -/
structure NameMap.Lists {α : Type} (m : NameMap α) (entries : List (String × α)) : Prop where
  ascending : entries.Pairwise fun a b => a.1 < b.1
  mem_iff : ∀ name value, (name, value) ∈ entries ↔ m[name]? = some value

/-- The list of a map holds its entries in ascending order. -/
theorem NameMap.lists_toList {α : Type} (m : NameMap α) : m.Lists m.toList where
  ascending := by
    have hordered : m.toList.Pairwise fun a b => compare a.1 b.1 = .lt :=
      ExtTreeMap.ordered_keys_toList
    exact hordered.imp fun h => compareOfLessAndEq_eq_lt.mp h
  mem_iff _ _ := ExtTreeMap.mem_toList_iff_getElem?_eq_some

/-- Flags have been written, and nothing else: a flag that is among them has the value that it has
there, and any other one the value that it had. -/
structure Progress.Overwrites (p : Progress) (flags : NameMap Bool) (q : Progress) : Prop where
  getElem?_flags : ∀ name : String, q.flags[name]? = flags[name]?.or p.flags[name]?
  counters_eq : q.counters = p.counters
  completed_eq : q.completed = p.completed
  lastSeen_eq : q.lastSeen = p.lastSeen

/-- Flags that the scene writes. -/
theorem Progress.Overwrites.spares {s : Scene} {p q : Progress} {flags : NameMap Bool}
    (h : p.Overwrites flags q) (hflags : ∀ name ∈ flags, s.WritesFlag name) : s.Spares p q where
  flags name hname := by
    have hnone : flags[name]? = none :=
      ExtTreeMap.getElem?_eq_none fun hmem => hname (hflags name hmem)
    rw [h.getElem?_flags, hnone, Option.none_or]
  counters name _ := by rw [h.counters_eq]
  completed_eq := h.completed_eq
  lastSeen_eq := h.lastSeen_eq

namespace Run

variable {s : Scene} {p : Progress}

/-! ### Strokes -/

/-- A step of the scene writes what the scene writes. -/
theorem spares_execute (r : Run) (p : Progress) {step : Step} (hstep : step ∈ s.steps) :
    s.Spares p (r.execute p step).progress := by
  cases step with
  | setFlag name value => exact (Scene.Spares.refl s p).setFlag_right (.inl ⟨value, hstep⟩) value
  | setCounter name value =>
      exact (Scene.Spares.refl s p).setCounter_right (.inl ⟨value, hstep⟩) value
  | addToCounter name amount =>
      exact (Scene.Spares.refl s p).setCounter_right (.inr ⟨amount, hstep⟩) _
  | choice prompt options =>
      rw [execute]
      split <;> exact .refl s p
  | _ => exact .refl s p

/-- **The strokes of a running run write only what its scene writes.** -/
theorem Lasting.spares (s : Scene) (p₀ : Progress) :
    Lasting fun r p _ => r.scene = s ∧ s.Spares p₀ p where
  execute {r p es step} hrun hstep h := by
    obtain ⟨rfl, hspares⟩ := h
    have hsame := (same_follow ({ r with snapshot.sound := none }.execute p step).run
      ({ r with snapshot.sound := none }.execute p step).progress
      ({ r with snapshot.sound := none }.execute p step).flow).2
    rw [scene_execute] at hsame
    exact ⟨hsame, hspares.trans (spares_execute _ p (List.mem_of_getElem? hstep))⟩
  finish _ _ _ _ h := h
  present h := ⟨(scene_present _).trans h.1, h.2⟩

/-! ### Options -/

/-- Flags that are written one after the other, where no two of them have the same name: each write
is reported with the value that the flag had before all of them. -/
theorem foldl_write {entries : List (String × Bool)} (q : Progress) (es : List Effect)
    (hdistinct : entries.Pairwise fun a b => a.1 ≠ b.1) :
    entries.foldl (fun (q, es) (name, value) =>
        (q.setFlag name value, es ++ [.flagChanged name (q.flag name) value])) (q, es) =
      ({ q with flags := q.flags.insertMany entries },
        es ++ entries.map fun (name, value) => .flagChanged name (q.flag name) value) := by
  induction entries generalizing q es with
  | nil =>
      rw [ExtTreeMap.insertMany_list_eq_foldl, List.map_nil, List.append_nil]
      rfl
  | cons entry rest ih =>
      obtain ⟨hentry, hrest⟩ := List.pairwise_cons.mp hdistinct
      have hsame : (rest.map fun (name, value) =>
            Effect.flagChanged name ((q.setFlag entry.1 entry.2).flag name) value) =
          rest.map fun (name, value) => .flagChanged name (q.flag name) value := by
        refine List.map_congr_left fun (name, value) hother => ?_
        dsimp only
        rw [Progress.flag_setFlag, if_neg (hentry _ hother)]
      rw [List.foldl_cons, ih _ _ hrest, hsame, List.append_assoc, List.map_cons]
      simp only [ExtTreeMap.insertMany_list_eq_foldl]
      rfl

/-- **What an option writes, and what it reports.** -/
theorem writeFlags_eq (p : Progress) (flags : NameMap Bool) :
    writeFlags p flags =
      ({ p with flags := p.flags.insertMany flags.toList },
        flags.toList.map fun (name, value) => .flagChanged name (p.flag name) value) :=
  foldl_write p [] (ExtTreeMap.distinct_keys_toList.imp fun h heq => h (by simpa using heq))

/-- An option writes its flags and nothing else. -/
theorem overwrites_writeFlags (p : Progress) (flags : NameMap Bool) :
    p.Overwrites flags (writeFlags p flags).1 := by
  rw [writeFlags_eq]
  refine ⟨fun name => ?_, rfl, rfl, rfl⟩
  cases hname : flags[name]? with
  | some value =>
      rw [Option.some_or]
      exact ExtTreeMap.getElem?_insertMany_list_of_mem (by simp) ExtTreeMap.distinct_keys_toList
        (ExtTreeMap.mem_toList_iff_getElem?_eq_some.mpr hname)
  | none =>
      have hkeys : name ∉ flags.toList.map Prod.fst := by
        rw [ExtTreeMap.map_fst_toList_eq_keys, ExtTreeMap.mem_keys,
          ExtTreeMap.mem_iff_isSome_getElem?, hname]
        rintro ⟨⟩
      rw [Option.none_or]
      exact ExtTreeMap.getElem?_insertMany_list_of_contains_eq_false (by simpa using hkeys)

/-! ### Operations -/

/-- A run that resumes writes only what its scene writes. An option may write several flags before
it goes on. -/
theorem Resumes.spares {r r' : Run} {p' : Progress} {es : List Effect}
    (hr : r.Resumes p r' p' es) : r.scene.Spares p p' := by
  cases hr with
  | @choice prompt options option hstate hstep hoption =>
      exact (overwrites_writeFlags p option.setFlags).spares fun name hname =>
        .inr ⟨prompt, options, List.mem_of_getElem? hstep, option, hoption, hname⟩
  | line | highlight | timer | flag => exact .refl _ p

/-- **An operation writes only what the scene writes.** -/
theorem spares_operate (r : Run) (p : Progress) (op : Operation) :
    r.scene.Spares p (r.operate p op).progress := by
  have hleads := r.leads_operate p op
  generalize r.operate p op = turn at hleads ⊢
  cases hleads with
  | advance => exact ((Lasting.spares r.scene p).advance [] ⟨rfl, .refl _ p⟩).2
  | answer hturn =>
      exact ((Lasting.spares r.scene p).answers hturn fun _ _ _ hr => ⟨hr.same.2, hr.spares⟩).2
  | interrupt | applyGeometry | rejected => exact .refl _ p

/-- A run keeps its scene, whatever is done to it. -/
theorem scene_operate (r : Run) (p : Progress) (op : Operation) :
    (r.operate p op).run.scene = r.scene :=
  scene_operateAll r [(p, op)]

end Run

/-! ### Runs and games -/

namespace Progress

/-- What an act makes of the progress without the run. -/
def heed (p : Progress) : Act → Progress
  | .operate _ => p
  | .setFlag name value => p.setFlag name value
  | .setCounter name value => p.setCounter name value

/-- What some acts make of the progress without the run: what the game writes, one after the
other. -/
def heedAll (p : Progress) (acts : List Act) : Progress := acts.foldl heed p

/-- The last of some acts is heeded after the others. -/
theorem heedAll_concat (p : Progress) (acts : List Act) (a : Act) :
    p.heedAll (acts ++ [a]) = (p.heedAll acts).heed a := by
  rw [heedAll, List.foldl_append]
  rfl

end Progress

/-- A run keeps its scene, whatever happens. -/
theorem Turn.scene_act (t : Turn) (a : Act) : (t.act a).run.scene = t.run.scene := by
  cases a with
  | operate op => exact scene_operate t.run t.progress op
  | setFlag name value | setCounter name value => rfl

namespace Scene

variable {s : Scene} {p : Progress}

/-- What is spared by what has been done before is spared by one act more. -/
theorem Spares.act {t : Turn} (h : t.run.scene.Spares p t.progress) (a : Act) :
    t.run.scene.Spares (p.heed a) (t.act a).progress := by
  cases a with
  | operate op => exact h.trans (t.run.spares_operate t.progress op)
  | setFlag name value => exact h.setFlag name value
  | setCounter name value => exact h.setCounter name value

/-- **A run touches nothing but what its scene writes**, whatever is done to it and whatever the
game writes meanwhile: the rest of the progress is what the game alone has made of it. -/
theorem spares_actAll (s : Scene) (id : Uuid) (p : Progress) (acts : List Act) :
    s.Spares (p.heedAll acts) ((Turn.start id s p).actAll acts).progress := by
  suffices h : ((Turn.start id s p).actAll acts).run.scene = s ∧
      s.Spares (p.heedAll acts) ((Turn.start id s p).actAll acts).progress from h.2
  induction acts using List.reverseRecOn with
  | nil => exact ⟨rfl, .refl s p⟩
  | append_singleton acts a ih =>
      obtain ⟨hscene, hspares⟩ := ih
      rw [Turn.actAll_concat, Progress.heedAll_concat]
      have hact := Spares.act (t := (Turn.start id s p).actAll acts)
        (by rw [hscene]; exact hspares) a
      rw [hscene] at hact
      exact ⟨(Turn.scene_act _ a).trans hscene, hact⟩

end Scene

end Cutscene
