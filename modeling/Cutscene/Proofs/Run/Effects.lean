import Cutscene.Proofs.Run.Advance

/-!
# What the Effects of a Turn Tell

Progress changes while a run executes steps, and the effects that report the changes are carried
out later. Two assertions say that nothing is lost in between. Each of them is kept by every
stroke of a running run (`Run.Lasting`), and so holds of every accepted answer and of every run
that advances.

* `Progress.Tells p es q`: the effects `es` report, one by one and with the values that were
  replaced, how the progress `p` became `q`.
* `Run.Closes r es`: the effects `es` end the run `r` exactly if it has ended, and once only.

What a run is told over time is a course (`Run.Course`), whose effects are those of its turns, one
after the other.

## Main results

* `Run.Lasting.tells`, `Run.Lasting.closes`: the strokes of a running run keep them.
* `Run.Answers.tells`, `Run.Answers.closes`: they hold of every accepted answer.
-/

namespace Cutscene

/-! ### Changes of progress -/

/-- The effect reports that a flag or a counter was written. -/
def Effect.isChange : Effect → Bool
  | flagChanged .. | counterChanged .. => true
  | dispatch _ | measure .. | present _ | ended _ => false

/-- The effects report how `p` became what it is now, each write with the value that it
replaced. -/
inductive Progress.Tells (p : Progress) : List Effect → Progress → Prop
  | nil : Tells p [] p
  | flag {es : List Effect} {q : Progress} (h : Tells p es q) (name : String) (value : Bool) :
      Tells p (es ++ [.flagChanged name (q.flag name) value]) (q.setFlag name value)
  | counter {es : List Effect} {q : Progress} (h : Tells p es q) (name : String)
      (value : Int64) :
      Tells p (es ++ [.counterChanged name (q.counter name) value]) (q.setCounter name value)
  | silent {es : List Effect} {q : Progress} (h : Tells p es q) {e : Effect}
      (he : e.isChange = false) : Tells p (es ++ [e]) q

namespace Progress.Tells

variable {p q : Progress} {es : List Effect}

/-- Effects that report no write change nothing. -/
theorem append_silent (h : Tells p es q) {silent : List Effect}
    (hsilent : ∀ e ∈ silent, e.isChange = false) : Tells p (es ++ silent) q := by
  induction silent generalizing es with
  | nil => rw [List.append_nil]; exact h
  | cons e rest ih =>
      rw [List.append_cons]
      exact ih (h.silent (hsilent e List.mem_cons_self))
        fun f hf => hsilent f (List.mem_cons_of_mem _ hf)

/-- Playing steps writes flags and counters only. -/
theorem completed_eq (h : Tells p es q) : q.completed = p.completed := by
  induction h with
  | nil => rfl
  | flag _ name value ih => exact ih
  | counter _ name value ih => exact ih
  | silent _ _ ih => exact ih

/-- No effect tells of a scene that was seen. -/
theorem lastSeen_eq (h : Tells p es q) : q.lastSeen = p.lastSeen := by
  induction h with
  | nil => rfl
  | flag _ name value ih => exact ih
  | counter _ name value ih => exact ih
  | silent _ _ ih => exact ih

end Progress.Tells

namespace Run

open Progress (Tells)

/-- Handing the snapshot over changes no progress. -/
theorem present_silent (r : Run) : ∀ e ∈ r.present.2, e.isChange = false := by
  obtain ⟨presented, shown, heq, hshown⟩ := r.exists_present
  rw [heq]
  intro e he
  obtain ⟨s, rfl⟩ := hshown e he
  rfl

/-- Nor does ending. -/
theorem finish_silent (r : Run) (p : Progress) (reason : EndReason)
    (diagnostic : Option Diagnostic) :
    ∀ e ∈ (r.finish p reason diagnostic).2, e.isChange = false := by
  intro e he
  obtain rfl := List.mem_singleton.mp he
  rfl

/-- Nor does going on. -/
theorem follow_silent (r : Run) (p : Progress) (flow : Flow) :
    ∀ e ∈ (r.follow p flow).2, e.isChange = false := by
  rcases follow_cases r p flow with
    ⟨state, -, heq⟩ | ⟨-, ⟨index, -, heq⟩ | ⟨reason, diagnostic, heq⟩⟩
  · rw [heq]; exact fun e he => absurd he List.not_mem_nil
  · rw [heq]; exact fun e he => absurd he List.not_mem_nil
  · rw [heq]; exact finish_silent r p reason diagnostic

/-- A step that writes reports the write, with the value that it replaces. -/
theorem tells_execute {p₀ p : Progress} {es : List Effect} (h : Tells p₀ es p) (r : Run)
    (s : Step) : Tells p₀ (es ++ (r.execute p s).effects) (r.execute p s).progress := by
  cases s with
  | setFlag name value => exact h.flag name value
  | setCounter name value => exact h.counter name value
  | addToCounter name amount => exact h.counter name _
  | highlight anchor maskInput => exact h.silent rfl
  | command command => exact h.silent rfl
  | choice prompt options =>
      rw [execute]
      split <;> (dsimp only; rw [List.append_nil]; exact h)
  | _ => simpa only [execute, List.append_nil] using h

/-- **The strokes of a running run tell what they write.** -/
theorem Lasting.tells (p₀ : Progress) : Lasting fun _ p es => Tells p₀ es p where
  execute _ _ h := (tells_execute h _ _).append_silent (follow_silent _ _ _)
  finish reason diagnostic _ _ h := h.append_silent (finish_silent _ _ reason diagnostic)
  present h := h.append_silent (present_silent _)

/-- The flags that an option writes are reported one by one. -/
theorem tells_writeFlags (p : Progress) (flags : NameMap Bool) :
    Tells p (writeFlags p flags).2 (writeFlags p flags).1 :=
  writeFlags_induction (P := fun q es => Tells p es q) .nil fun _ _ name value h =>
    h.flag name value

/-- What an answer has written is told. -/
theorem Resumes.tells {r r' : Run} {p p' : Progress} {es : List Effect}
    (hr : r.Resumes p r' p' es) : Tells p es p' := by
  cases hr with
  | choice => exact (tells_writeFlags _ _).append_silent (follow_silent _ _ _)
  | line | highlight | timer | flag => exact .nil

/-- **The effects of an accepted answer tell how progress has changed.** -/
theorem Answers.tells {r : Run} {p : Progress} {turn : Turn} (h : r.Answers p turn) :
    Tells p turn.effects turn.progress :=
  (Lasting.tells p).answers h fun _ _ _ hr => hr.tells

/-- So do those of a run that advances. -/
theorem tells_advance (r : Run) (p : Progress) :
    Tells p (r.advance p).effects (r.advance p).progress :=
  (Lasting.tells p).advance [] .nil

/-- Breaking off changes no progress. -/
theorem tells_interrupt (r : Run) (p : Progress) : Tells p (r.interrupt p).2 p := by
  rw [interrupt]
  split
  · exact (Tells.nil.append_silent (finish_silent r p .interrupted none)).append_silent
      (present_silent _)
  · exact .nil

/-- Breaking off a run ends it as interrupted, and only snapshots are handed over after that. -/
theorem exists_effects_interrupt {r : Run} (hactive : r.state.isActive = true) (p : Progress) :
    ∃ ending shown, (r.interrupt p).2 = .ended ending :: shown ∧ ending.reason = .interrupted ∧
      ∀ e ∈ shown, ∃ s, e = .present s := by
  rw [interrupt, if_pos hactive]
  dsimp only
  obtain ⟨presented, shown, heq, hshown⟩ := (r.finish p .interrupted none).1.exists_present
  rw [heq]
  exact ⟨_, shown, rfl, rfl, hshown⟩

/-! ### Endings -/

/-- The effects since a run was active. As long as it is active they do not end it; once it has
ended, one of them says so, and only snapshots are handed over after that. -/
inductive Closes : Run → List Effect → Prop
  | active {r : Run} {es : List Effect} (hstate : r.state.isActive = true)
      (hes : ∀ ending, .ended ending ∉ es) : Closes r es
  | ended {r : Run} {body shown : List Effect} {ending : Ending}
      (hstate : r.state = .ended ending.reason) (hbody : ∀ ending, .ended ending ∉ body)
      (hshown : ∀ e ∈ shown, ∃ s, e = .present s) :
      Closes r (body ++ .ended ending :: shown)

/-- While a run is running, nothing has ended it. -/
theorem Closes.not_mem {r : Run} {es : List Effect} (h : Closes r es)
    (hrun : r.state = .running) (ending : Ending) : .ended ending ∉ es := by
  cases h with
  | active _ hes => exact hes ending
  | ended hstate => rw [hstate] at hrun; cases hrun

/-- The effects of ending end the run. -/
theorem closes_finish {es : List Effect} (hes : ∀ ending, .ended ending ∉ es) (r : Run)
    (p : Progress) (reason : EndReason) (diagnostic : Option Diagnostic) :
    Closes (r.finish p reason diagnostic).1 (es ++ (r.finish p reason diagnostic).2) :=
  .ended rfl hes fun _ he => absurd he List.not_mem_nil

/-- Only a snapshot comes behind the end. -/
theorem Closes.present {r : Run} {es : List Effect} (h : Closes r es) :
    Closes r.present.1 (es ++ r.present.2) := by
  obtain ⟨presented, shown, heq, hshown⟩ := r.exists_present
  rw [heq]
  cases h with
  | active hstate hes =>
      refine .active hstate fun ending hmem => ?_
      rcases List.mem_append.mp hmem with hmem | hmem
      · exact hes ending hmem
      · obtain ⟨s, hs⟩ := hshown _ hmem
        cases hs
  | @ended body rest ending hstate hbody hrest =>
      rw [List.append_assoc, List.cons_append]
      refine .ended hstate hbody fun e he => ?_
      rcases List.mem_append.mp he with he | he
      · exact hrest e he
      · exact hshown e he

/-- Executing a step does not end the run by itself. -/
theorem ended_not_mem_execute (r : Run) (p : Progress) (s : Step) (ending : Ending) :
    .ended ending ∉ (r.execute p s).effects := by
  cases s with
  | choice prompt options => rw [execute]; split <;> simp
  | _ => simp [execute]

/-- **The strokes of a running run end it at most once.** -/
theorem Lasting.closes : Lasting fun r _ es => Closes r es where
  execute {r p es s} hrun _ h := by
    dsimp only
    generalize hr : { r with snapshot.sound := none } = r'
    have hrun' : r'.state = .running := by rw [← hr]; exact hrun
    have hes : ∀ ending, .ended ending ∉ es ++ (r'.execute p s).effects := by
      intro ending hmem
      rcases List.mem_append.mp hmem with hmem | hmem
      · exact h.not_mem hrun ending hmem
      · exact ended_not_mem_execute r' p s ending hmem
    rcases follow_cases (r'.execute p s).run (r'.execute p s).progress (r'.execute p s).flow with
      ⟨state, hflow, heq⟩ | ⟨-, ⟨index, -, heq⟩ | ⟨reason, diagnostic, heq⟩⟩
    · rw [heq, List.append_nil]
      refine .active ?_ hes
      rcases waits_of_execute hflow with rfl | ⟨wait, rfl⟩ <;> rfl
    · rw [heq, List.append_nil]
      refine .active ?_ hes
      dsimp only
      rw [state_execute, hrun']
      rfl
    · rw [heq]
      exact closes_finish hes _ _ reason diagnostic
  finish reason diagnostic _ hrun h := closes_finish (h.not_mem hrun) _ _ reason diagnostic
  present h := h.present

/-- Writing the flags of an option ends no run. -/
theorem ended_not_mem_writeFlags (p : Progress) (flags : NameMap Bool) (ending : Ending) :
    .ended ending ∉ (writeFlags p flags).2 := by
  refine writeFlags_induction (P := fun _ es => .ended ending ∉ es) List.not_mem_nil
    fun q es name value h hmem => ?_
  rcases List.mem_append.mp hmem with hmem | hmem
  · exact h hmem
  · cases List.mem_singleton.mp hmem

/-- A run that is prepared to go on is active, or has ended on leaving the choice. -/
theorem Resumes.closes {r r' : Run} {p p' : Progress} {es : List Effect}
    (hr : r.Resumes p r' p' es) : Closes r' es := by
  cases hr with
  | @choice prompt options option hstate hstep hoption =>
      have hes := ended_not_mem_writeFlags p option.setFlags
      rcases follow_cases { r with snapshot.choice := none }.resume
          (writeFlags p option.setFlags).1 (Flow.toLabel option.goto) with
        ⟨state, hflow, -⟩ | ⟨-, ⟨index, -, heq⟩ | ⟨reason, diagnostic, heq⟩⟩
      · exact absurd hflow (toLabel_ne_suspend _ _)
      · rw [leaveChoice, heq, List.append_nil]
        exact .active rfl hes
      · rw [leaveChoice, heq]
        exact closes_finish hes _ _ reason diagnostic
  | line | highlight | timer | flag => exact .active rfl fun _ => List.not_mem_nil

/-- **The effects of an accepted answer end the run exactly if it has ended.** -/
theorem Answers.closes {r : Run} {p : Progress} {turn : Turn} (h : r.Answers p turn) :
    Closes turn.run turn.effects :=
  Lasting.closes.answers h fun _ _ _ hr => hr.closes

/-- So do those of a run that advances. -/
theorem closes_advance {r : Run} (hrun : r.state = .running) (p : Progress) :
    Closes (r.advance p).run (r.advance p).effects :=
  Lasting.closes.advance [] (.active (by rw [hrun]; rfl) fun _ => List.not_mem_nil)

/-- Breaking off ends an active run. -/
theorem closes_interrupt {r : Run} (hstate : r.state.isActive = true) (p : Progress) :
    Closes (r.interrupt p).1 (r.interrupt p).2 := by
  rw [interrupt, if_pos hstate]
  exact (closes_finish (fun _ => List.not_mem_nil) r p .interrupted none).present

/-! ### Courses -/

/-- `Course r₀ es r`: operated on in some order, each time with any progress and any arguments, the
run `r₀` has become `r`, and `es` are the effects of the operations, among them the snapshots that
noting the place of a highlight has led to. An operation that is rejected leaves the run as it is
and has no effects. -/
inductive Course (r₀ : Run) : List Effect → Run → Prop
  | nil : Course r₀ [] r₀
  | advance {es : List Effect} {r : Run} (h : Course r₀ es r) (p : Progress) :
      Course r₀ (es ++ (r.advance p).effects) (r.advance p).run
  | answer {es : List Effect} {r : Run} (h : Course r₀ es r) {p : Progress} {turn : Turn}
      (hturn : r.Answers p turn) : Course r₀ (es ++ turn.effects) turn.run
  | interrupt {es : List Effect} {r : Run} (h : Course r₀ es r) (p : Progress) :
      Course r₀ (es ++ (r.interrupt p).2) (r.interrupt p).1
  | applyGeometry {es : List Effect} {r : Run} (h : Course r₀ es r) (ticket : Ticket)
      (rect : Option Rect) :
      Course r₀ (es ++ ((r.applyGeometry ticket rect).2.map Effect.present).toList)
        (r.applyGeometry ticket rect).1

end Run

end Cutscene
