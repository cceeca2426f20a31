import Cutscene.Proofs.Run.Ending

/-!
# What a Run Reports at Its End

A run remembers the flags and counters that it started with, and reports at its end which of them
have another value by then. Meanwhile all of them may be written, again and again, by the steps of
the run and by the game. Everything that may happen is an act (`Run.Act`): an operation on the run,
or a flag or a counter that the game writes. All acts share one progress (`Turn.act`).

Only the entries that are there at the end are compared. This suffices because no entry is ever
taken away (`Progress.Grows`): a name that is not there at the end was not there at the start
either, and reads as the same value both times.

## Main results

* `NameMap.getElem?_changes`: what is listed as changed.
* `Run.Lasting.accounts`: the strokes of a running run lead to no report that is not exact.
* `Run.reports_changes`: whenever a run ends, its report is exact.
-/

namespace Cutscene

open Std

/-! ### Differences -/

/-- **Exactly the entries whose values differ are listed**, with the values of now, if no entry has
been taken away. -/
theorem NameMap.getElem?_changes {α : Type} [DecidableEq α] {absent : α} {before now : NameMap α}
    (h : ∀ name ∈ before, name ∈ now) (name : String) :
    (changes absent before now)[name]? =
      if now.getD name absent = before.getD name absent then none
      else some (now.getD name absent) := by
  rw [changes, ExtTreeMap.getElem?_filter', ExtTreeMap.getD_eq_getD_getElem? (t := now)]
  cases hnow : now[name]? with
  | none =>
      have hbefore : name ∉ before := fun hmem => by
        have hsome := ExtTreeMap.mem_iff_isSome_getElem?.mp (h name hmem)
        rw [hnow] at hsome
        cases hsome
      rw [ExtTreeMap.getD_eq_fallback hbefore]
      exact (if_pos rfl).symm
  | some value =>
      rw [Option.getD_some]
      by_cases hsame : value = before.getD name absent
      · rw [if_pos hsame, Option.filter_some, if_neg (by simp [hsame])]
      · rw [if_neg hsame, Option.filter_some, if_pos (by simpa using Ne.symm hsame)]

namespace Progress

/-- No flag and no counter is missing that was there before. -/
structure Grows (p q : Progress) : Prop where
  flags : ∀ name ∈ p.flags, name ∈ q.flags
  counters : ∀ name ∈ p.counters, name ∈ q.counters

namespace Grows

variable {p q : Progress}

/-- Nothing is missing from the progress itself. -/
theorem refl (p : Progress) : p.Grows p := ⟨fun _ h => h, fun _ h => h⟩

/-- Setting a flag takes no entry away. -/
theorem setFlag (h : p.Grows q) (name : String) (value : Bool) : p.Grows (q.setFlag name value) :=
  ⟨fun other hother => ExtTreeMap.mem_insert.mpr (.inr (h.flags other hother)), h.counters⟩

/-- Writing a counter takes no entry away. -/
theorem setCounter (h : p.Grows q) (name : String) (value : Int64) :
    p.Grows (q.setCounter name value) :=
  ⟨h.flags, fun other hother => ExtTreeMap.mem_insert.mpr (.inr (h.counters other hother))⟩

end Grows

/-- Writing takes nothing away. -/
theorem Tells.grows {p₀ p q : Progress} {es : List Effect} (h : Tells p es q) (h₀ : p₀.Grows p) :
    p₀.Grows q := by
  induction h with
  | nil => exact h₀
  | flag _ name value ih => exact ih.setFlag name value
  | counter _ name value ih => exact ih.setCounter name value
  | silent _ _ ih => exact ih

end Progress

/-- **The report is exact**: from `p` to `q`, the names that it lists are those whose value has
changed, where a flag that is not there is off and a counter that is not there is zero, and it lists
them with their new values. -/
structure Ending.Reports (e : Ending) (p q : Progress) : Prop where
  getElem?_changedFlags : ∀ name,
    e.changedFlags[name]? = if q.flag name = p.flag name then none else some (q.flag name)
  getElem?_changedCounters : ∀ name,
    e.changedCounters[name]? =
      if q.counter name = p.counter name then none else some (q.counter name)

namespace Run

variable {p₀ p : Progress} {r : Run} {es : List Effect}

/-! ### Reports -/

/-- The run remembers what `p₀` was when it started, and what the effects so far report of it is
exact. A running run has not reported yet. -/
structure Accounts (p₀ : Progress) (r : Run) (p : Progress) (es : List Effect) : Prop where
  startFlags_eq : r.startFlags = p₀.flags
  startCounters_eq : r.startCounters = p₀.counters
  grows : p₀.Grows p
  endings_of_running : r.state = .running → endings es = []
  reports : ∀ ending ∈ endings es, ending.Reports p₀ p

namespace Accounts

/-- Nothing has been reported so far. -/
theorem of_endings_eq_nil (hflags : r.startFlags = p₀.flags)
    (hcounters : r.startCounters = p₀.counters) (hgrows : p₀.Grows p) (hes : endings es = []) :
    Accounts p₀ r p es :=
  ⟨hflags, hcounters, hgrows, fun _ => hes, by rw [hes]; exact List.forall_mem_nil _⟩

/-- **A run that ends reports what has changed.** -/
theorem finish (h : Accounts p₀ r p es) (hes : endings es = []) (reason : EndReason)
    (diagnostic : Option Diagnostic) :
    Accounts p₀ (r.finish p reason diagnostic).1 p (es ++ (r.finish p reason diagnostic).2) := by
  refine ⟨h.startFlags_eq, h.startCounters_eq, h.grows, by rintro ⟨⟩, fun ending hending => ?_⟩
  rw [endings_append, hes] at hending
  obtain rfl := List.mem_singleton.mp hending
  constructor
  · dsimp only
    rw [h.startFlags_eq]
    exact NameMap.getElem?_changes h.grows.flags
  · dsimp only
    rw [h.startCounters_eq]
    exact NameMap.getElem?_changes h.grows.counters

/-- Showing something reports no ending. -/
theorem present (h : Accounts p₀ r p es) : Accounts p₀ r.present.1 p (es ++ r.present.2) := by
  rcases r.present_cases with ⟨s, -, -, heq⟩ | ⟨-, heq⟩
  · rw [heq, List.append_nil]
    exact ⟨h.startFlags_eq, h.startCounters_eq, h.grows, h.endings_of_running, h.reports⟩
  · have hes : endings (es ++ [.present r.view]) = endings es := by
      rw [endings_append]
      exact List.append_nil _
    rw [heq]
    refine ⟨h.startFlags_eq, h.startCounters_eq, h.grows, ?_, ?_⟩
    · rw [hes]
      exact h.endings_of_running
    · rw [hes]
      exact h.reports

/-- Going on may end the run, and then reports what has changed. -/
theorem follow (h : Accounts p₀ r p es) (hes : endings es = []) (flow : Flow) :
    Accounts p₀ (r.follow p flow).1 p (es ++ (r.follow p flow).2) := by
  rcases follow_cases r p flow with
    ⟨state, -, heq⟩ | ⟨-, ⟨index, -, heq⟩ | ⟨reason, diagnostic, heq⟩⟩
  · rw [heq, List.append_nil]
    exact of_endings_eq_nil h.startFlags_eq h.startCounters_eq h.grows hes
  · rw [heq, List.append_nil]
    exact of_endings_eq_nil h.startFlags_eq h.startCounters_eq h.grows hes
  · rw [heq]
    exact h.finish hes reason diagnostic

end Accounts

/-- A step does not touch the flags that the run remembers from its start. -/
theorem startFlags_execute (r : Run) (p : Progress) (s : Step) :
    (r.execute p s).run.startFlags = r.startFlags := by
  obtain ⟨snapshot, tickets, highlightTicket, h, -⟩ := r.exists_execute p s
  rw [h]

/-- A step does not touch the counters that the run remembers from its start. -/
theorem startCounters_execute (r : Run) (p : Progress) (s : Step) :
    (r.execute p s).run.startCounters = r.startCounters := by
  obtain ⟨snapshot, tickets, highlightTicket, h, -⟩ := r.exists_execute p s
  rw [h]

/-- **The strokes of a running run lead to exact reports only.** -/
theorem Lasting.accounts (p₀ : Progress) : Lasting (Accounts p₀) where
  execute {r p es s} hrun _ h := by
    dsimp only
    have hes : endings (es ++ ({ r with snapshot.sound := none }.execute p s).effects) = [] := by
      rw [endings_append, h.endings_of_running hrun, endings_eq_nil (ended_not_mem_execute _ p s)]
      rfl
    have hgrows : p₀.Grows ({ r with snapshot.sound := none }.execute p s).progress :=
      (tells_execute .nil _ s).grows h.grows
    refine (Accounts.of_endings_eq_nil ?_ ?_ hgrows hes).follow hes _
    · rw [startFlags_execute]
      exact h.startFlags_eq
    · rw [startCounters_execute]
      exact h.startCounters_eq
  finish reason diagnostic _ hrun h := h.finish (h.endings_of_running hrun) reason diagnostic
  present h := h.present

/-- A run that goes on has reported nothing, unless its choice has led nowhere. -/
theorem Accounts.resumes (h : Accounts p₀ r p []) {r' : Run} {p' : Progress} {more : List Effect}
    (hr : r.Resumes p r' p' more) : Accounts p₀ r' p' more := by
  cases hr with
  | @choice prompt options option =>
      have hes := endings_eq_nil (ended_not_mem_writeFlags p option.setFlags)
      have hgrows : p₀.Grows (writeFlags p option.setFlags).1 :=
        (tells_writeFlags p option.setFlags).grows h.grows
      have hleft : Accounts p₀ { r with snapshot.choice := none }.resume
          (writeFlags p option.setFlags).1 (writeFlags p option.setFlags).2 :=
        .of_endings_eq_nil h.startFlags_eq h.startCounters_eq hgrows hes
      exact hleft.follow hes _
  | line | highlight | timer | flag =>
      exact .of_endings_eq_nil h.startFlags_eq h.startCounters_eq h.grows rfl

/-- A run that is broken off reports exactly, too. -/
theorem Accounts.interrupt (h : Accounts p₀ r p []) :
    Accounts p₀ (r.interrupt p).1 p (r.interrupt p).2 := by
  rw [Run.interrupt]
  split
  · exact (h.finish rfl .interrupted none).present
  · exact h

/-- A rectangle reports no ending. -/
theorem Accounts.applyGeometry (h : Accounts p₀ r p []) (ticket : Ticket) (rect : Option Rect) :
    Accounts p₀ (r.applyGeometry ticket rect).1 p
      ((r.applyGeometry ticket rect).2.map Effect.present).toList := by
  rcases r.applyGeometry_cases ticket rect with heq | ⟨highlight, -, -, hrun, heffects⟩
  · rw [heq]
    exact h
  · rw [hrun, heffects]
    have hlocated : Accounts p₀ (r.locate highlight rect) p [] :=
      .of_endings_eq_nil h.startFlags_eq h.startCounters_eq h.grows rfl
    exact hlocated.present

/-- **What an operation reports is exact.** -/
theorem Accounts.operate (h : Accounts p₀ r p []) (op : Operation) :
    Accounts p₀ (r.operate p op).run (r.operate p op).progress (r.operate p op).effects := by
  have hleads := r.leads_operate p op
  generalize r.operate p op = turn at hleads ⊢
  cases hleads with
  | advance => exact (Lasting.accounts p₀).advance [] h
  | answer hturn => exact (Lasting.accounts p₀).answers hturn fun _ _ _ hr => h.resumes hr
  | interrupt => exact h.interrupt
  | applyGeometry ticket rect => exact h.applyGeometry ticket rect
  | rejected => exact h

/-! ### Runs and games -/

/-- Something that happens while a run plays: an operation on it, or a flag or a counter that the
game writes. -/
inductive Act where
  | operate (op : Operation)
  | setFlag (name : String) (value : Bool)
  | setCounter (name : String) (value : Int64)

end Run

namespace Turn

open Run

/-- A run that stands before its first step, and the progress that it starts with. -/
def start (id : Uuid) (scene : Scene) (p : Progress) : Turn where
  run := .start id scene p
  progress := p

/-- What an act leads to from where the last one has led. The effects are those of this act. -/
def act (t : Turn) : Act → Turn
  | .operate op => t.run.operate t.progress op
  | .setFlag name value => { run := t.run, progress := t.progress.setFlag name value }
  | .setCounter name value => { run := t.run, progress := t.progress.setCounter name value }

/-- What some acts lead to, one after the other. -/
def actAll (t : Turn) (acts : List Act) : Turn := acts.foldl act t

/-- The last of some acts happens where the others have led. -/
theorem actAll_concat (t : Turn) (acts : List Act) (a : Act) :
    t.actAll (acts ++ [a]) = (t.actAll acts).act a := by
  rw [actAll, List.foldl_append]
  rfl

/-- What every act keeps holds after all of them. -/
theorem actAll_induction {P : Turn → Prop} {t : Turn} (acts : List Act) (h₀ : P t)
    (hP : ∀ u a, P u → P (u.act a)) : P (t.actAll acts) := by
  induction acts using List.reverseRecOn with
  | nil => exact h₀
  | append_singleton acts a ih =>
      rw [actAll_concat]
      exact hP _ a ih

end Turn

namespace Run

/-- **What an act reports is exact.** -/
theorem Accounts.act {t : Turn} (h : Accounts p₀ t.run t.progress []) (a : Act) :
    Accounts p₀ (t.act a).run (t.act a).progress (t.act a).effects := by
  cases a with
  | operate op => exact h.operate op
  | setFlag name value =>
      exact .of_endings_eq_nil h.startFlags_eq h.startCounters_eq (h.grows.setFlag name value) rfl
  | setCounter name value =>
      exact .of_endings_eq_nil h.startFlags_eq h.startCounters_eq (h.grows.setCounter name value)
        rfl

/-- Between acts a run remembers what it started with, and is active or over. -/
theorem accounts_actAll (id : Uuid) (scene : Scene) (p : Progress) (acts : List Act) :
    Accounts p ((Turn.start id scene p).actAll acts).run
        ((Turn.start id scene p).actAll acts).progress [] ∧
      ∃ es, ((Turn.start id scene p).actAll acts).run.Plays es ∨
        ((Turn.start id scene p).actAll acts).run.Over es := by
  refine Turn.actAll_induction acts
    (P := fun t => Accounts p t.run t.progress [] ∧ ∃ es, t.run.Plays es ∨ t.run.Over es)
    ⟨.of_endings_eq_nil rfl rfl (.refl p) rfl, [], .inl ⟨rfl, by rintro s ⟨⟩, rfl⟩⟩ ?_
  rintro t a ⟨haccounts, es, hplays⟩
  have hdone := haccounts.act a
  refine ⟨.of_endings_eq_nil hdone.startFlags_eq hdone.startCounters_eq hdone.grows rfl, ?_⟩
  cases a with
  | operate op => exact ⟨_, plays_or_over_operate hplays t.progress op⟩
  | setFlag name value => exact ⟨es, hplays⟩
  | setCounter name value => exact ⟨es, hplays⟩

/-- A run that is active before an act and has ended after it has ended in the course of it. -/
theorem exists_ending_act {t : Turn} (h : t.run.Plays es) {a : Act} {reason : EndReason}
    (hended : (t.act a).run.state = .ended reason) :
    ∃ ending, endings (t.act a).effects = [ending] ∧ ending.reason = reason := by
  have hactive := h.isActive
  cases a with
  | operate op =>
      have hplays : t.run.Plays [] := ⟨h.isActive, h.isActive_presented, rfl⟩
      rcases plays_or_over_operate (.inl hplays) t.progress op with hgoesOn | hover
      · have hactive : (t.act (.operate op)).run.state.isActive = true := hgoesOn.isActive
        rw [hended] at hactive
        cases hactive
      · have honce := hover.endsOnce
        rw [List.nil_append] at honce
        have hsome := honce.endings_ne_nil_iff.mpr ⟨reason, hended⟩
        obtain ⟨ending, hendings⟩ := List.length_eq_one_iff.mp
          (Nat.le_antisymm honce.length_endings_le (List.length_pos_iff.mpr hsome))
        have hstate := honce.state_eq ending (by rw [hendings]; exact List.mem_singleton_self _)
        exact ⟨ending, hendings, RunState.ended.inj (hstate.symm.trans hended)⟩
  | setFlag name value =>
      have hsame : (t.act (.setFlag name value)).run.state = t.run.state := rfl
      rw [← hsame, hended] at hactive
      cases hactive
  | setCounter name value =>
      have hsame : (t.act (.setCounter name value)).run.state = t.run.state := rfl
      rw [← hsame, hended] at hactive
      cases hactive

/-- **The report at the end is exact.** Whatever has happened to the run and to the progress since
its start, an act reports an end at most together with all flags and counters whose values differ
from what they were at the start, and with no others: names that have their old value again, or that
were written with the value that they read as before, are not listed. The act in the course of which
the run ends, for whatever reason, reports one end. -/
theorem reports_changes (id : Uuid) (scene : Scene) (p : Progress) (acts : List Act) (a : Act) :
    let before := (Turn.start id scene p).actAll acts
    let after := before.act a
    (∀ ending ∈ endings after.effects, ending.Reports p after.progress) ∧
      ∀ reason, before.run.state.isActive = true → after.run.state = .ended reason →
        ∃ ending, endings after.effects = [ending] ∧ ending.reason = reason := by
  intro before after
  obtain ⟨haccounts, es, hplays⟩ := accounts_actAll id scene p acts
  refine ⟨(haccounts.act a).reports, fun reason hactive hended => ?_⟩
  rcases hplays with hplays | hover
  · exact exists_ending_act hplays hended
  · cases hover with
    | intro hstate =>
        have hstate : before.run.state = .ended _ := hstate
        rw [hstate] at hactive
        cases hactive

/-- A scene with a lamp that is lit and put out again. -/
def lamplight : Scene where
  id := "lamplight"
  steps := [.setFlag "lamp" true, .setCounter "moths" 0, .say { text := "Who is there?" },
    .setFlag "lamp" false, .addToCounter "nights" 1]

/-- While the lamp is lit, the game opens the door. -/
def evening : List Act :=
  [.operate .advance, .setFlag "door" true, .setFlag "window" false]

/-- The lamp has been lit, the door and the window have been seen to, and the question has been
answered. -/
def nightfall : Turn := ((Turn.start default lamplight .empty).actAll evening).act
  (.operate .acknowledge)

/-- At the end the door is open, and a night is over; nothing else has changed. -/
theorem reports_lamplight :
    (((Turn.start default lamplight .empty).actAll evening).run.state.isActive = true ∧
      nightfall.run.state = .ended .completed) ∧
    ∃ ending, endings nightfall.effects = [ending] ∧ ending.reason = .completed ∧
      ending.Reports .empty nightfall.progress ∧
      ending.changedFlags.toList = [("door", true)] ∧
      ending.changedCounters.toList = [("nights", 1)] := by
  have hactive : ((Turn.start default lamplight .empty).actAll evening).run.state.isActive = true :=
    by decide +kernel
  have hended : nightfall.run.state = .ended .completed := by decide +kernel
  have hlisted : (endings nightfall.effects).map (fun e => (e.changedFlags.toList,
      e.changedCounters.toList)) = [([("door", true)], [("nights", 1)])] := by decide +kernel
  obtain ⟨hreports, hends⟩ :=
    reports_changes default lamplight .empty evening (.operate .acknowledge)
  obtain ⟨ending, hendings, hreason⟩ := hends .completed hactive hended
  have hexact := hreports ending (by rw [hendings]; exact List.mem_singleton_self _)
  have hendings : endings nightfall.effects = [ending] := hendings
  rw [hendings] at hlisted
  obtain ⟨hflags, hcounters⟩ := Prod.mk.inj (List.cons.inj hlisted).1
  exact ⟨⟨hactive, hended⟩, ending, hendings, hreason, hexact, hflags, hcounters⟩

end Run

end Cutscene
