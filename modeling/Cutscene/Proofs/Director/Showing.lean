import Cutscene.Proofs.Director.Refusals
import Cutscene.Proofs.Director.Tickets
import Cutscene.Proofs.Run.Showing

/-!
# What a Game Is Shown

Somebody stands beside the game and takes down each snapshot that a director hands over
(`Host.watched`). What is taken down keeps in step with the director: after every cue the last
snapshot looks like what there is to see, and no two in a row look the same.

Runs hand their own snapshots over in this way. A director has to see to it that nothing is shown
past them, and that a new run begins where the last one has left off. It looks different, because
it has another identifier.

## Main results

* `Director.Deed.inStep`: every deed keeps what is shown in step.
* `Director.quiet_of_perform`: a cue after which everything looks as before shows nothing.
* `Director.History.in_step`: both in the course of every history, and of every run on its own.
-/

namespace Cutscene

/-- The same game, with somebody beside it who takes down what is shown. -/
def Host.watched {σ : Type} (h : Host σ) : Host (σ × List Snapshot) where
  ids := h.ids
  dispatch command stage :=
    let (result, s) := h.dispatch command stage.1
    (result, s, stage.2)
  measure name stage :=
    let (measured, s) := h.measure name stage.1
    (measured, s, stage.2)
  present snapshot stage := (h.present snapshot stage.1, stage.2 ++ [snapshot])
  now stage :=
    let (time, s) := h.now stage.1
    (time, s, stage.2)

namespace Director

variable {σ ω : Type} {h : Host σ}

/-- What has been taken down. -/
def shown (d : Director (σ × List Snapshot)) : List Snapshot := d.stage.2

/-! ### What is taken down -/

/-- A snapshot that an effect hands over is taken down, and nothing else is. -/
theorem shown_carryOut (scene : String) (run : Uuid) (d : Director (σ × List Snapshot))
    (e : Effect) : (carryOut h.watched scene run d e).shown = d.shown ++ snapshots [e] := by
  cases e with
  | present s => rfl
  | ended ending =>
      rw [carryOut, conclude]
      split <;> exact (List.append_nil _).symm
  | flagChanged | counterChanged | dispatch | measure => exact (List.append_nil _).symm

/-- Following a turn shows the snapshots among its effects. -/
theorem shown_follow (d : Director (σ × List Snapshot)) (run : Run) (q : Progress)
    (es : List Effect) : (d.follow h.watched run q es).shown = d.shown ++ snapshots es := by
  refine follow_effects_induction (P := fun done e => e.shown = d.shown ++ snapshots done)
    (fun effect he => ?_) (List.append_nil _).symm es
  rw [shown_carryOut, he, snapshots_append, List.append_assoc]

/-! ### In step -/

/-- All that has been handed over so far keeps in step with a director. -/
structure InStep (handed : List Snapshot) (d : Director (σ × List Snapshot)) : Prop where
  differing : Differing handed
  /-- Nothing has been handed over exactly as long as no run has been started. -/
  handed_eq_nil_iff : handed = [] ↔ d.started = 0
  run_eq_none_iff : d.run = none ↔ d.started = 0
  inStep : ∀ run, d.run = some run → run.InStep
  presented_eq : ∀ run, d.run = some run → run.presented = handed.getLast?
  reachable : ∀ run, d.run = some run → run.Reachable

namespace InStep

variable {handed : List Snapshot} {d e : Director (σ × List Snapshot)}

/-- A director who has done nothing is in step, with nothing taken down. -/
theorem nil (stage : σ × List Snapshot) : InStep [] { stage } where
  differing := .nil
  handed_eq_nil_iff := ⟨fun _ => rfl, fun _ => rfl⟩
  run_eq_none_iff := ⟨fun _ => rfl, fun _ => rfl⟩
  inStep _ hrun := by cases hrun
  presented_eq _ hrun := by cases hrun
  reachable _ hrun := by cases hrun

/-- What is said of a director depends on its last run. -/
theorem congr (hd : InStep handed d) (hrun : e.run = d.run) (hstarted : e.started = d.started) :
    InStep handed e where
  differing := hd.differing
  handed_eq_nil_iff := by rw [hstarted]; exact hd.handed_eq_nil_iff
  run_eq_none_iff := by rw [hrun, hstarted]; exact hd.run_eq_none_iff
  inStep := by rw [hrun]; exact hd.inStep
  presented_eq := by rw [hrun]; exact hd.presented_eq
  reachable := by rw [hrun]; exact hd.reachable

/-- The last snapshot that was handed over looks like what there is to see. -/
theorem looksLike_snapshot (hd : InStep handed d) {s : Snapshot}
    (hs : handed.getLast? = some s) : s.looksLike d.snapshot = true := by
  cases hrun : d.run with
  | none =>
      rw [hd.handed_eq_nil_iff.mpr (hd.run_eq_none_iff.mp hrun)] at hs
      cases hs
  | some run =>
      rw [snapshot, hrun]
      exact (hd.inStep run hrun).looksLike s ((hd.presented_eq run hrun).trans hs)

/-- What there is to see looks like itself. -/
theorem looksLike_self (hd : InStep handed d) : d.snapshot.looksLike d.snapshot = true := by
  refine Snapshot.looksLike_self ?_
  rw [snapshot]
  cases hrun : d.run with
  | none => exact Snapshot.legible_of_highlight_eq_none rfl
  | some run => exact (hd.inStep run hrun).legible

/-- A director that has a run, which has handed something over. -/
theorem of_run {run : Run} (hrun : d.run = some run) (hstarted : d.started ≠ 0)
    (hdiffering : Differing handed) (hpresented : run.presented = handed.getLast?)
    (hinStep : run.InStep) (hreachable : run.Reachable) : InStep handed d := by
  have hrun' : ∀ {P : Run → Prop}, P run → ∀ other, d.run = some other → P other := by
    intro P hP other hother
    rw [hrun, Option.some.injEq] at hother
    exact hother ▸ hP
  have hne : handed ≠ [] := fun hnil => by
    obtain ⟨s, hs, -⟩ := hinStep.exists_presented hreachable.state_ne_running
    rw [hpresented, hnil] at hs
    cases hs
  refine ⟨hdiffering, ⟨fun hnil => absurd hnil hne, fun h₀ => absurd h₀ hstarted⟩, ?_,
    hrun' hinStep, hrun' hpresented, hrun' hreachable⟩
  rw [hrun]
  exact ⟨fun hnone => (by cases hnone), fun h₀ => absurd h₀ hstarted⟩

/-- A turn of the last run keeps in step. -/
theorem turn (hd : InStep handed d) {run run' : Run} {es : List Effect} (hrun : d.run = some run)
    (hrun' : e.run = some run') (hstarted : e.started = d.started)
    (hhands : Run.Hands run.presented run' es) (hinStep : run'.InStep)
    (hreachable : run'.Reachable) : InStep (handed ++ snapshots es) e := by
  have hne : e.started ≠ 0 := fun h₀ => by
    rw [hd.run_eq_none_iff.mpr (hstarted.symm.trans h₀)] at hrun
    cases hrun
  have hpresented := hhands.presented_eq
  have hdiffering := hhands.differing
  rw [hd.presented_eq run hrun] at hpresented hdiffering
  rw [getLast?_toList_append] at hpresented
  exact .of_run hrun' hne (hd.differing.append hdiffering) hpresented hinStep hreachable

/-- What a new run shows first does not look like what the last one has shown. -/
theorem differing_append (hd : InStep handed d) {run' : Run} {es : List Effect}
    (hid : ∀ run, d.run = some run → run.id ≠ run'.id) (hhands : Run.Hands none run' es) :
    Differing (handed ++ snapshots es) := by
  have hdiffering := hhands.differing
  rw [Option.toList_none, List.nil_append] at hdiffering
  refine List.isChain_append.mpr ⟨hd.differing, hdiffering, fun s hs t ht => ?_⟩
  refine Bool.eq_false_iff.mpr fun hlooks => ?_
  have hsnapshot := Snapshot.run_eq_of_looksLike (hd.looksLike_snapshot hs)
  rw [Snapshot.run_eq_of_looksLike hlooks,
    hhands.run_eq_of_mem t (List.mem_of_mem_head? ht), snapshot] at hsnapshot
  cases hrun : d.run with
  | none =>
      rw [hrun] at hsnapshot
      cases hsnapshot
  | some run =>
      rw [hrun, Option.elim_some, (hd.inStep run hrun).run_eq, Option.some.injEq] at hsnapshot
      exact hid run hrun hsnapshot.symm

/-- The first turn of a new run keeps in step. -/
theorem debut (hd : InStep handed d) {run' : Run} {es : List Effect}
    (hid : ∀ run, d.run = some run → run.id ≠ run'.id) (hrun' : e.run = some run')
    (hstarted : e.started = d.started + 1) (hhands : Run.Hands none run' es)
    (hinStep : run'.InStep) (hreachable : run'.Reachable) :
    InStep (handed ++ snapshots es) e := by
  obtain ⟨s, hs, -⟩ := hinStep.exists_presented hreachable.state_ne_running
  have hlast : (snapshots es).getLast? = some s := by
    rw [← hs, hhands.presented_eq, Option.toList_none, List.nil_append]
  refine .of_run hrun' (by rw [hstarted]; exact Nat.succ_ne_zero _)
    (hd.differing_append hid hhands) ?_ hinStep hreachable
  rw [hs, List.getLast?_append, hlast]
  rfl

end InStep

/-- **What asking for a place shows**: nothing, or what the run makes of a place that counts. -/
theorem locate_cases (d : Director (σ × List Snapshot)) (ticket : Ticket) (anchor : String) :
    ((d.locate h.watched ticket anchor).run = d.run ∧
      (d.locate h.watched ticket anchor).shown = d.shown) ∨
    ∃ run rect, d.run = some run ∧ (∀ place, rect = some place → place.IsNumeric) ∧
      (d.locate h.watched ticket anchor).run = some (run.applyGeometry ticket rect).1 ∧
      (d.locate h.watched ticket anchor).shown =
        d.shown ++ snapshots ((run.applyGeometry ticket rect).2.map Effect.present).toList := by
  rw [locate_eq]
  split
  · next run hrun =>
    split
    · refine .inr ⟨run, (h.watched.measure anchor d.stage).1.usable?, hrun,
        fun place hplace => (Measurement.measurable_of_usable? hplace).isNumeric, ?_, ?_⟩
      · dsimp only
        cases (run.applyGeometry ticket (h.watched.measure anchor d.stage).1.usable?).2 <;> rfl
      · dsimp only
        cases (run.applyGeometry ticket (h.watched.measure anchor d.stage).1.usable?).2 with
        | none => exact (List.append_nil _).symm
        | some s => rfl
    · exact .inl ⟨rfl, rfl⟩
  · exact .inl ⟨rfl, rfl⟩

/-- **Every deed keeps what is shown in step.** -/
theorem Deed.inStep {handed : List Snapshot} {us ts : List Ticket}
    {d e : Director (σ × List Snapshot)} (hd : Deed h.watched d ts e) (h₀ : InStep handed d)
    (hus : Ticketed h.watched us d) (hids : h.ids.RunsDiffer e.started) :
    ∃ more, e.shown = d.shown ++ more ∧ InStep (handed ++ more) e := by
  cases hd with
  | manage | withdraw | writeFlag | setCounter =>
      refine ⟨[], (List.append_nil _).symm, ?_⟩
      rw [List.append_nil]
      exact h₀.congr rfl rfl
  | locate ticket anchor =>
      obtain ⟨stage, run, heq, -⟩ := exists_locate h.watched d ticket anchor
      have hstarted : (d.locate h.watched ticket anchor).started = d.started := by rw [heq]
      rcases d.locate_cases (h := h) ticket anchor with
        ⟨hrun, hshown⟩ | ⟨run, rect, hrun, hrect, hrun', hshown⟩
      · refine ⟨[], by rw [hshown, List.append_nil], ?_⟩
        rw [List.append_nil]
        exact h₀.congr hrun hstarted
      · have hin := h₀.inStep run hrun
        exact ⟨_, hshown, h₀.turn hrun hrun' hstarted (hin.hands.applyGeometry ticket hrect)
          (hin.applyGeometry ticket hrect) ((h₀.reachable run hrun).applyGeometry ticket rect)⟩
  | @interrupt run hrun hactive =>
      have hin := h₀.inStep run hrun
      exact ⟨_, shown_follow _ _ _ _, h₀.turn hrun (run_follow _ _ _ _) (started_follow _ _ _ _)
        (hin.hands.interrupt _) (hin.interrupt _) ((h₀.reachable run hrun).interrupt _)⟩
  | @answer run turn hrun hturn =>
      have hin := h₀.inStep run hrun
      exact ⟨_, shown_follow _ _ _ _, h₀.turn hrun (run_follow _ _ _ _) (started_follow _ _ _ _)
        (hin.hands.answers hturn) (hin.answers hturn) ((h₀.reachable run hrun).answers hturn)⟩
  | debut scene hidle =>
      have hstart := Run.inStep_start (h.ids.run d.started) scene d.progress
      rw [Director.debut, started_follow] at hids
      refine ⟨_, shown_follow _ _ _ _, h₀.debut (fun run hrun hsame => ?_) (run_follow _ _ _ _)
        (started_follow _ _ _ _) (hstart.hands.advance _) (hstart.advance _) (.start _ _ _ _)⟩
      -- The identifier of the new run is not that of the last one.
      obtain ⟨n, hn, hid⟩ := hus.last run hrun
      rw [hid] at hsame
      have hnew : h.ids.run n = h.ids.run d.started := hsame.trans (Run.same_advance _ _).1
      have := hids n (by change n < d.started + 1; omega) d.started (Nat.lt_succ_self _) hnew
      omega

/-! ### Cues -/

/-- Since `before` had been taken down, and `handed` had been handed over in all, what is shown has
kept in step, as long as runs are told apart. -/
def Onward (h : Host σ) (handed before : List Snapshot) (us : List Ticket)
    (d : Director (σ × List Snapshot)) : Prop :=
  h.ids.RunsDiffer d.started → Ticketed h.watched us d ∧
    ∃ more, d.shown = before ++ more ∧ InStep (handed ++ more) d

/-- **Every deed goes on in step**, with the tickets that it gives out. -/
theorem Onward.deed {handed before : List Snapshot} {us ts : List Ticket}
    {d e : Director (σ × List Snapshot)} (hd : Deed h.watched d ts e)
    (h₀ : Onward h handed before us d) : Onward h handed before (us ++ ts) e := by
  intro hids
  obtain ⟨hus, more, hshown, hin⟩ := h₀ (hids.mono hd.started_le)
  obtain ⟨later, hshown', hin'⟩ := hd.inStep hin hus hids
  refine ⟨hd.ticketed hus hids, more ++ later, ?_, ?_⟩
  · rw [hshown', hshown, List.append_assoc]
  · rw [← List.append_assoc]
    exact hin'

section Perform

variable {store : Store (StateM ω)} {handed : List Snapshot} {us : List Ticket}
  {d e : Director (σ × List Snapshot)} {w w' : ω} {cue : Cue} {reply : Reply}

/-- **Every cue keeps what is shown in step.** -/
theorem inStep_of_perform (h₀ : InStep handed d) (hus : Ticketed h.watched us d)
    (hp : (d.perform h.watched store cue).run w = ((reply, e), w'))
    (hids : h.ids.RunsDiffer e.started) :
    ∃ more, e.shown = d.shown ++ more ∧ InStep (handed ++ more) e := by
  have hstart : Onward h handed d.shown us d := fun _ =>
    ⟨hus, [], (List.append_nil _).symm, by rw [List.append_nil]; exact h₀⟩
  obtain rfl : ((d.perform h.watched store cue).run w).1.2 = e := by rw [hp]
  by_cases htake : cue = .takeEvents
  · subst htake
    refine ⟨[], (List.append_nil _).symm, ?_⟩
    rw [List.append_nil]
    exact h₀.congr rfl rfl
  by_cases hload : ∃ ns, cue = .load ns
  · obtain ⟨ns, rfl⟩ := hload
    exact (load_induction (P := Onward h handed d.shown) .deed
      (fun _ _ _ hd hids => ⟨(hd hids).1.congr rfl rfl fun _ hmem => hmem,
        (hd hids).2.imp fun _ hmore => ⟨hmore.1, hmore.2.congr rfl rfl⟩⟩) hstart ns w hids).2
  · have hdeeds := deeds_of_perform h.watched store w d (fun ns hns => hload ⟨ns, hns⟩) htake
    exact (hdeeds.induction (P := Onward h handed d.shown) .deed us hstart hids).2

/-! ### What shows nothing -/

/-- If everything looks as before, nothing has been shown. -/
def Quiet (d e : Director (σ × List Snapshot)) : Prop :=
  d.snapshot.looksLike e.snapshot = true → e.shown = d.shown

/-- Where things look different, nothing is claimed. -/
theorem quiet_of_not_looksLike {run run' : Run} (hrun : d.run = some run)
    (hrun' : e.run = some run') (hdiffers : run.snapshot.looksLike run'.snapshot = false) :
    Quiet d e := by
  intro hsame
  rw [snapshot, snapshot, hrun, hrun', Option.elim_some, Option.elim_some, hdiffers] at hsame
  cases hsame

/-- Breaking off shows nothing where everything looks as before. -/
theorem quiet_stop (h₀ : InStep handed d) : Quiet d (d.stop h.watched).2 := by
  rw [stop]
  cases hactive : d.activeRun? with
  | none => exact fun _ => rfl
  | some run =>
      obtain ⟨hrun, hactive⟩ := Option.filter_eq_some_iff.mp hactive
      exact quiet_of_not_looksLike hrun (run_follow _ _ _ _)
        ((h₀.inStep run hrun).not_looksLike_interrupt hactive _)

/-- A new run looks different from the last one. -/
theorem quiet_play (h₀ : InStep handed d) (hus : Ticketed h.watched us d) (scene : Scene)
    (hids : h.ids.RunsDiffer (d.play h.watched scene).started) :
    Quiet d (d.play h.watched scene) := by
  rw [started_play] at hids
  intro hsame
  have hstart := Run.inStep_start (h.ids.run d.started) scene (d.stop h.watched).2.progress
  have hnew : (d.play h.watched scene).snapshot.run = some (h.ids.run d.started) := by
    rw [play_eq_debut, Director.debut, snapshot, run_follow, Option.elim_some, opening,
      started_stop]
    exact (hstart.advance _).run_eq.trans (congrArg some (Run.same_advance _ _).1)
  have heq := (Snapshot.run_eq_of_looksLike hsame).trans hnew
  cases hrun : d.run with
  | none =>
      rw [snapshot, hrun] at heq
      cases heq
  | some run =>
      obtain ⟨n, hn, hid⟩ := hus.last run hrun
      rw [snapshot, hrun, Option.elim_some, (h₀.inStep run hrun).run_eq, hid,
        Option.some.injEq] at heq
      have := hids n (by omega) d.started (Nat.lt_succ_self _) heq
      omega

/-- Nor does taking an option. -/
theorem quiet_choose (h₀ : InStep handed d) (option : Nat) :
    Quiet d (d.choose h.watched option).2 := by
  rw [choose]
  cases hrun : d.run with
  | none => exact fun _ => rfl
  | some run =>
      dsimp only
      cases hturn : run.choose d.progress option with
      | error => exact fun _ => rfl
      | ok turn =>
          have hreachable := h₀.reachable run hrun
          exact quiet_of_not_looksLike hrun (run_follow _ _ _ _)
            (hreachable.coherent.not_looksLike_answers hreachable.counts (.choose option hturn))

/-- The other answers. What was written before the run was asked shows nothing. -/
theorem quiet_take (h₀ : InStep handed d) (hshown : e.shown = d.shown) {q : Progress}
    {ask : Run → Option Turn} (hask : ∀ run turn, ask run = some turn → run.Answers q turn) :
    Quiet d (e.take h.watched (d.run.bind ask)).2 := by
  cases hrun : d.run with
  | none => exact fun _ => hshown
  | some run =>
      rw [Option.bind_some]
      cases hturn : ask run with
      | none => exact fun _ => hshown
      | some turn =>
          have hreachable := h₀.reachable run hrun
          exact quiet_of_not_looksLike hrun (run_follow _ _ _ _)
            (hreachable.coherent.not_looksLike_answers hreachable.counts (hask run turn hturn))

/-! ### Asking for places -/

/-- Nor does asking for one place. -/
theorem quiet_locate (h₀ : ∀ run, d.run = some run → run.InStep) (ticket : Ticket)
    (anchor : String) : Quiet d (d.locate h.watched ticket anchor) := by
  rcases d.locate_cases (h := h) ticket anchor with
    ⟨-, hshown⟩ | ⟨run, rect, hrun, -, hrun', hshown⟩
  · exact fun _ => hshown
  · intro hsame
    rw [snapshot, snapshot, hrun, hrun', Option.elim_some, Option.elim_some] at hsame
    rw [hshown, (h₀ run hrun).applyGeometry_eq_none hsame]
    exact List.append_nil _

/-- A place that the run does not want changes nothing. -/
theorem locate_unwanted {ticket : Ticket} (anchor : String)
    (hticket : ∀ run, d.run = some run → run.highlightTicket ≠ some ticket) :
    (d.locate h.watched ticket anchor).run = d.run ∧
      (d.locate h.watched ticket anchor).shown = d.shown := by
  rcases d.locate_cases (h := h) ticket anchor with hsame | ⟨run, rect, hrun, -, hrun', hshown⟩
  · exact hsame
  · rw [hrun', hshown, Run.applyGeometry, if_neg (hticket run hrun)]
    exact ⟨hrun.symm, List.append_nil _⟩

/-- Places that the run does not want change nothing and show nothing. Induction on the requests. -/
theorem foldl_locate_unwanted (requests : List (Ticket × String))
    (htickets : ∀ request ∈ requests, ∀ run, d.run = some run →
      run.highlightTicket ≠ some request.1) :
    (requests.foldl (fun d (ticket, anchor) => d.locate h.watched ticket anchor) d).run = d.run ∧
      (requests.foldl (fun d (ticket, anchor) => d.locate h.watched ticket anchor) d).shown =
        d.shown := by
  induction requests generalizing d with
  | nil => exact ⟨rfl, rfl⟩
  | cons request rest ih =>
      obtain ⟨hrun, hshown⟩ := locate_unwanted (h := h) request.2
        (htickets request List.mem_cons_self)
      obtain ⟨hrun', hshown'⟩ := ih (d := d.locate h.watched request.1 request.2)
        fun other hother => by
          rw [hrun]
          exact htickets other (List.mem_cons_of_mem _ hother)
      exact ⟨hrun'.trans hrun, hshown'.trans hshown⟩

/-- Where the run wants one place of those that are asked for, it comes down to that one. -/
theorem quiet_foldl_locate (h₀ : ∀ run, d.run = some run → run.InStep) {run : Run}
    (hrun : d.run = some run) {front back : List (Ticket × String)} {ticket : Ticket}
    (anchor : String) (hticket : run.highlightTicket = some ticket)
    (hother : ∀ other ∈ front ++ back, other.1 ≠ ticket) :
    Quiet d ((front ++ (ticket, anchor) :: back).foldl
      (fun d (ticket, anchor) => d.locate h.watched ticket anchor) d) := by
  rw [List.foldl_append, List.foldl_cons]
  -- What is asked before and after the one place leaves the run and what is shown alone.
  obtain ⟨hrun₁, hshown₁⟩ := foldl_locate_unwanted (h := h) (d := d) front
    fun other hmem run' hrun' => by
      rw [hrun, Option.some.injEq] at hrun'
      rw [← hrun', hticket, Ne, Option.some.injEq]
      exact (hother other (List.mem_append_left _ hmem)).symm
  generalize front.foldl _ d = d₁ at *
  have hlocated := quiet_locate (h := h) (d := d₁) (hrun₁.symm ▸ h₀) ticket anchor
  have hkeeps := @highlightTicket_locate _ h.watched d₁ ticket anchor
  dsimp only
  generalize d₁.locate h.watched ticket anchor = d₂ at *
  obtain ⟨hrun₃, hshown₃⟩ := foldl_locate_unwanted (h := h) (d := d₂) back
    fun other hmem run' hrun' => by
      obtain ⟨run₀, hrun₀, hsame⟩ := hkeeps hrun'
      rw [hrun₁, hrun, Option.some.injEq] at hrun₀
      rw [hsame, ← hrun₀, hticket, Ne, Option.some.injEq]
      exact (hother other (List.mem_append_right _ hmem)).symm
  intro hsame
  refine hshown₃.trans ((hlocated ?_).trans hshown₁)
  rw [snapshot, snapshot, hrun₃] at hsame
  rw [snapshot, snapshot, hrun₁]
  exact hsame

/-- **Of all the places that are asked for the run wants at most one**, since no two are asked for
under one ticket. So what is shown differs from what was shown before, and nothing comes after. -/
theorem quiet_resolve (h₀ : ∀ run, d.run = some run → run.InStep)
    (hnodup : (d.pending.map Prod.fst).Nodup) : Quiet d (d.resolve h.watched) := by
  rw [resolve]
  by_cases hwanted : ∃ request ∈ d.pending, ∃ run, d.run = some run ∧
      run.highlightTicket = some request.1
  · obtain ⟨⟨ticket, anchor⟩, hmem, run, hrun, hticket⟩ := hwanted
    obtain ⟨front, back, heq⟩ := List.append_of_mem hmem
    rw [heq, List.map_append, List.map_cons, List.nodup_middle, List.nodup_cons,
      ← List.map_append] at hnodup
    rw [heq]
    refine quiet_foldl_locate (d := { d with pending := [] }) h₀ hrun anchor hticket
      fun other hmem hsame => hnodup.1 ?_
    have hmem' : other.1 ∈ (front ++ back).map Prod.fst := List.mem_map_of_mem hmem
    rw [hsame] at hmem'
    exact hmem'
  · have hnone : ∀ request ∈ d.pending, ∀ run, d.run = some run →
        run.highlightTicket ≠ some request.1 :=
      fun request hmem run hrun hticket => hwanted ⟨request, hmem, run, hrun, hticket⟩
    intro _
    exact (foldl_locate_unwanted (h := h) (d := { d with pending := [] }) d.pending hnone).2

/-- **A cue after which everything looks as before shows nothing.** -/
theorem quiet_of_perform (h₀ : InStep handed d) (hus : Ticketed h.watched us d)
    (hnodup : (d.pending.map Prod.fst).Nodup)
    (hp : (d.perform h.watched store cue).run w = ((reply, e), w'))
    (hids : h.ids.RunsDiffer e.started) : Quiet d e := by
  obtain rfl : ((d.perform h.watched store cue).run w).1.2 = e := by rw [hp]
  cases cue with
  | load ns => exact quiet_stop h₀
  | stop => exact quiet_stop h₀
  | flush =>
      obtain ⟨yes, dirty, w'', hflush⟩ := exists_flush store w d
      simp only [perform, StateT.run_bind, hflush]
      exact fun _ => rfl
  | resolve => exact quiet_resolve h₀.inStep hnodup
  | settle =>
      obtain ⟨yes, dirty, w'', hflush⟩ := exists_flush store w (d.resolve h.watched)
      simp only [perform, settle, StateT.run_bind, hflush]
      exact quiet_resolve h₀.inStep hnodup
  | register | unregister | setCounter | takeEvents => exact fun _ => rfl
  | notice event =>
      change Quiet d (d.notice h.watched event).2
      change h.ids.RunsDiffer (d.notice h.watched event).2.started at hids
      rw [notice] at hids ⊢
      cases hselect : d.roster.select? event d.progress d.active? with
      | none => exact fun _ => rfl
      | some scene =>
          rw [hselect] at hids
          exact quiet_play h₀ hus scene hids
  | start id =>
      change Quiet d (d.start h.watched id).2
      change h.ids.RunsDiffer (d.start h.watched id).2.started at hids
      rw [start] at hids ⊢
      cases hget : d.roster.get? id with
      | none => exact fun _ => rfl
      | some scene =>
          rw [hget] at hids
          exact quiet_play h₀ hus scene hids
  | choose option => exact quiet_choose h₀ option
  | acknowledge => exact quiet_take h₀ rfl fun _ _ hturn => .acknowledge hturn
  | resume ticket => exact quiet_take h₀ rfl fun _ _ hturn => .resumeTimer ticket hturn
  | setFlag flag value =>
      change Quiet d (d.setFlag h.watched flag value)
      rw [setFlag_eq]
      exact quiet_take (e := d.writeFlag h.watched flag value) h₀ rfl
        fun _ _ hturn => .notifyFlag hturn

end Perform

/-! ### Histories -/

/-- What has been shown in the course of an episode. -/
def handedIn (ep : Episode (σ × List Snapshot)) : List Snapshot :=
  ep.after.shown.drop ep.before.shown.length

/-- What has been shown in the course of some episodes. -/
def handedOver (past : List (Episode (σ × List Snapshot))) : List Snapshot :=
  past.flatMap handedIn

/-- How what is shown keeps in step with a director. -/
structure Shows (h : Host σ) (past : List (Episode (σ × List Snapshot)))
    (e : Director (σ × List Snapshot)) : Prop where
  /-- What is shown is taken down behind what had been before. -/
  shown_eq : ∀ ep ∈ past, ep.after.shown = ep.before.shown ++ handedIn ep
  /-- Nothing has been shown exactly as long as no run has been started. -/
  handedOver_eq_nil_iff : handedOver past = [] ↔ e.started = 0
  /-- What was shown last looks like what there is to see. -/
  looksLike : ∀ s, (handedOver past).getLast? = some s → s.looksLike e.snapshot = true
  looksLike_self : e.snapshot.looksLike e.snapshot = true
  /-- Nothing is shown twice in a row. -/
  differing : Differing (handedOver past)
  /-- Nothing is shown where everything looks as before. -/
  quiet : ∀ ep ∈ past, ep.before.snapshot.looksLike ep.after.snapshot = true → handedIn ep = []
  /-- Nothing is shown where a request is refused. -/
  refused : ∀ ep ∈ past, ep.cue.isRefusedBy ep.reply = true → handedIn ep = []
  /-- Nothing is shown when places are asked for again, whatever the game has come to. -/
  resolve_again : ∀ stage, ({ e.resolve h.watched with stage } : Director _).resolve h.watched =
    { e.resolve h.watched with stage }

/-- What was taken down behind the rest has been shown in the episode. -/
theorem handedIn_eq {ep : Episode (σ × List Snapshot)} {more : List Snapshot}
    (hshown : ep.after.shown = ep.before.shown ++ more) : handedIn ep = more := by
  rw [handedIn, hshown, List.drop_left]

namespace History

variable {store : Store (StateM ω)} {s : σ × List Snapshot} {e : Director (σ × List Snapshot)}
  {w w' : ω} {past : List (Episode (σ × List Snapshot))}

/-- What has been shown keeps in step in the course of every history. -/
theorem inStep (hist : History h.watched store { stage := s } w past e w')
    (hids : h.ids.RunsDiffer e.started) : InStep (handedOver past) e := by
  induction hist with
  | nil => exact .nil s
  | @snoc past e f w' w'' reply hist₀ stage cue hp ih =>
      have hids₀ := hids.mono (History.nil.snoc stage cue hp).started_le
      have hbefore : InStep (handedOver past) { e with stage } := (ih hids₀).congr rfl rfl
      have hus : Ticketed h.watched (given h.watched past) { e with stage } :=
        (hist₀.ticketed hids₀).congr rfl rfl fun _ hmem => hmem
      obtain ⟨more, hshown, hin⟩ := inStep_of_perform hbefore hus hp hids
      rw [handedOver, List.flatMap_append, List.flatMap_singleton, ← handedOver,
        handedIn_eq hshown]
      exact hin

/-- What is shown in the course of an episode is taken down, and is nothing where everything looks
as before. -/
theorem shown_episode (hist : History h.watched store { stage := s } w past e w')
    (hids : h.ids.RunsDiffer e.started) {ep : Episode (σ × List Snapshot)} (hmem : ep ∈ past) :
    ep.after.shown = ep.before.shown ++ handedIn ep ∧ Quiet ep.before ep.after ∧
      (ep.cue.isRefusedBy ep.reply = true → ep.after = ep.before) := by
  obtain ⟨front, back, rfl⟩ := List.append_of_mem hmem
  obtain ⟨d, stage, w₁, w₂, hist₀, hbefore, hp, hone, hlater⟩ := hist.episode
  have hids₁ := hids.mono hlater.started_le
  have hids₀ := hids₁.mono hone.started_le
  have hin : InStep (handedOver front) ep.before := by
    rw [hbefore]
    exact (hist₀.inStep hids₀).congr rfl rfl
  have hus : Ticketed h.watched (given h.watched front) ep.before := by
    rw [hbefore]
    exact (hist₀.ticketed hids₀).congr rfl rfl fun _ hmem => hmem
  have hnodup : (ep.before.pending.map Prod.fst).Nodup := by
    rw [hbefore]
    exact hist₀.nodup_pending hids₀
  obtain ⟨more, hshown, -⟩ := inStep_of_perform hin hus hp hids₁
  refine ⟨by rw [handedIn_eq hshown]; exact hshown, quiet_of_perform hin hus hnodup hp hids₁,
    fun hrefused => (eq_of_perform_refused hp hrefused).1⟩

/-- **What is shown keeps in step**, in the course of every history of a director whose runs are
told apart, and of every run on its own at which only numeric places are noted. The places that a
director hands on are measurable, and so are numeric. -/
theorem in_step (hist : History h.watched store { stage := s } w past e w')
    (hids : h.ids.RunsDiffer e.started) :
    Shows h past e ∧
      ∀ (id : Uuid) (scene : Scene) (p : Progress) (calls : List (Progress × Run.Operation)),
        (∀ call ∈ calls, call.2.IsNumeric) →
          ((Run.start id scene p).operateAll calls).1.Shows
            ((Run.start id scene p).operateAll calls).2 := by
  have hin := hist.inStep hids
  have hepisode : ∀ ep ∈ past, ep.after.shown = ep.before.shown ++ handedIn ep ∧
      Quiet ep.before ep.after ∧ (ep.cue.isRefusedBy ep.reply = true → ep.after = ep.before) :=
    fun _ hmem => hist.shown_episode hids hmem
  refine ⟨⟨fun ep hmem => (hepisode ep hmem).1, hin.handed_eq_nil_iff,
    fun s hs => hin.looksLike_snapshot hs, hin.looksLike_self, hin.differing,
    fun ep hmem hsame => ?_, fun ep hmem hrefused => ?_, fun stage => ?_⟩,
    fun id scene p calls hcalls => Run.shows_operateAll id scene p hcalls⟩
  · exact handedIn_eq (((hepisode ep hmem).2.1 hsame).trans (List.append_nil _).symm)
  · rw [handedIn, (hepisode ep hmem).2.2 hrefused, List.drop_length]
  · have hpending := e.pending_resolve h.watched
    generalize e.resolve h.watched = d at *
    rw [resolve, hpending]
    dsimp only [List.foldl_nil]
    rw [← hpending]

end History

/-- A night at the gate, watched: two watches begin, and what was shown of them is in step. So is
what is shown of a watch on its own, once it is known where the gate is. -/
theorem in_step_night :
    ∃ past e w, History Rehearsal.stage.watched Records.store { stage := ({ time := default }, []) }
        ∅ past e w ∧
      past.map Episode.cue = Rehearsal.night ∧ e.started = 2 ∧
      Rehearsal.stage.ids.RunsDiffer e.started ∧ Shows Rehearsal.stage past e ∧
      ∃ (gate : Rect) (calls : List (Progress × Run.Operation)), gate.Measurable ∧
        calls = [(.empty, .advance), (.empty, .applyGeometry ⟨default, 1, 1⟩ (some gate))] ∧
        ((Run.start default Rehearsal.vigil .empty).operateAll calls).1.Shows
          ((Run.start default Rehearsal.vigil .empty).operateAll calls).2 := by
  obtain ⟨past, hist, hcues, -⟩ := @history_of_performAll _ _ Rehearsal.stage.watched
    Records.store Rehearsal.night { stage := ({ time := default }, []) } ∅
  have hstarted : ((performAll Rehearsal.stage.watched Records.store
      { stage := ({ time := default }, []) } Rehearsal.night).run ∅).1.2.started = 2 := rfl
  have hids : Rehearsal.stage.ids.RunsDiffer ((performAll Rehearsal.stage.watched Records.store
      { stage := ({ time := default }, []) } Rehearsal.night).run ∅).1.2.started := by
    rw [hstarted, Identities.RunsDiffer]
    decide
  have hgate : (⟨⟨0⟩, ⟨0⟩, ⟨0x4000000000000000⟩, ⟨0x4000000000000000⟩⟩ : Rect).Measurable := by
    decide
  refine ⟨past, _, _, hist, hcues, hstarted, hids, (hist.in_step hids).1, _, _, hgate, rfl,
    (hist.in_step hids).2 _ _ _ _ fun call hmem ticket place heq => ?_⟩
  rcases List.mem_pair.mp hmem with rfl | rfl
  · cases heq
  · cases heq
    exact hgate.isNumeric

end Director

end Cutscene
