import Cutscene.Proofs.Run.Coherence
import Mathlib.Data.List.Nodup

/-!
# The Tickets of a Turn

A run counts the tickets that it gives out, those for the places of highlights and those for its
suspensions together. The tickets that a turn gives out (`Turn.issued`) can be read off its
outcome: the requests for places among the effects, and the ticket under which the run is left
waiting. `Run.Numbers` says that these are all of them: their numbers are the consecutive numbers
by which the run's count has grown.

## Main results

* `Run.Lasting.numbers`: the strokes of a running run number their tickets one after the other.
* `Run.Answers.numbers`, `Run.numbers_advance_start`: so does every accepted answer, and every
  run from its start.
* `Consecutive.nodup`, `Consecutive.exists_number_iff`: such tickets differ from each other, and
  their numbers are those between the counts before and after.
* `Run.Counts.ticket?_ne`: a run that has been answered waits under another ticket, if at all.
-/

namespace Cutscene

/-- The ticket under which the place of a highlight is asked for. -/
def Effect.ticket? : Effect → Option Ticket
  | measure ticket _ => some ticket
  | flagChanged .. | counterChanged .. | dispatch _ | present _ | ended _ => none

/-- The tickets for which places are asked among some effects. -/
def asked (es : List Effect) : List Ticket := es.filterMap Effect.ticket?

/-- The tickets given out in a turn: those for the places of highlights, and then the one for
the suspension that the turn has led to. -/
def Turn.issued (t : Turn) : List Ticket := asked t.effects ++ t.run.ticket?.toList

/-! ### Consecutive tickets -/

/-- The tickets of a run that bear the consecutive numbers behind `n`, up to `count`. -/
structure Consecutive (id : Uuid) (n : Nat) (tickets : List Ticket) (count : Nat) : Prop where
  numbers : ∃ k, count = n + k ∧ tickets.map Ticket.number = List.range' (n + 1) k
  run_eq : ∀ t ∈ tickets, t.run = id

namespace Consecutive

variable {id : Uuid} {n count : Nat} {tickets : List Ticket}

/-- No tickets bear no numbers. -/
theorem nil : Consecutive id n [] n := ⟨⟨0, rfl, rfl⟩, fun _ h => absurd h List.not_mem_nil⟩

/-- One more ticket. -/
theorem concat (h : Consecutive id n tickets count) {t : Ticket} (hrun : t.run = id)
    (hnumber : t.number = count + 1) : Consecutive id n (tickets ++ [t]) (count + 1) := by
  obtain ⟨⟨k, hcount, hnumbers⟩, hruns⟩ := h
  refine ⟨⟨k + 1, by omega, ?_⟩, ?_⟩
  · rw [List.map_append, hnumbers, List.range'_concat, List.map_singleton, hnumber, hcount]
    congr 2
    omega
  · intro u hu
    rcases List.mem_append.mp hu with hu | hu
    · exact hruns u hu
    · rw [List.mem_singleton.mp hu]
      exact hrun

/-- The count only grows. -/
theorem le_count (h : Consecutive id n tickets count) : n ≤ count := by
  obtain ⟨k, hcount, -⟩ := h.numbers
  omega

/-- **Consecutive tickets differ from each other.** -/
theorem nodup (h : Consecutive id n tickets count) : tickets.Nodup := by
  obtain ⟨k, -, hnumbers⟩ := h.numbers
  refine List.Nodup.of_map Ticket.number ?_
  rw [hnumbers]
  exact List.nodup_range'

/-- Where the count has not grown there are no tickets. -/
theorem eq_nil (h : Consecutive id n tickets n) : tickets = [] := by
  obtain ⟨k, hcount, hnumbers⟩ := h.numbers
  obtain rfl : k = 0 := by omega
  exact List.map_eq_nil_iff.mp hnumbers

/-- The numbers are all those between the counts. -/
theorem exists_number_iff (h : Consecutive id n tickets count) (k : Nat) :
    (∃ t ∈ tickets, t.number = k) ↔ n < k ∧ k ≤ count := by
  obtain ⟨m, hcount, hnumbers⟩ := h.numbers
  rw [← List.mem_map, hnumbers, List.mem_range'_1]
  omega

/-- Their numbers lie between the counts before and after. -/
theorem mem_bounds (h : Consecutive id n tickets count) {t : Ticket} (ht : t ∈ tickets) :
    n < t.number ∧ t.number ≤ count :=
  (h.exists_number_iff t.number).mp ⟨t, ht, rfl⟩

end Consecutive

namespace Run

/-! ### Numbering -/

/-- Since the run had given out `n` tickets, those in the effects and the one that it waits under
are the consecutive ones that it has given out. -/
structure Numbers (id : Uuid) (n : Nat) (r : Run) (es : List Effect) : Prop where
  id_eq : r.id = id
  /-- A run that is running waits under no ticket. -/
  ticket?_eq_none : r.state = .running → r.ticket? = none
  consecutive : Consecutive id n (asked es ++ r.ticket?.toList) r.tickets

namespace Numbers

variable {id : Uuid} {n : Nat} {r : Run} {es : List Effect}

/-- A run that waits under no ticket. -/
theorem of_ticket?_eq_none (hid : r.id = id) (hticket : r.ticket? = none)
    (h : Consecutive id n (asked es) r.tickets) : Numbers id n r es :=
  ⟨hid, fun _ => hticket, by rw [hticket, Option.toList_none, List.append_nil]; exact h⟩

/-- The tickets of a running run are those among its effects. -/
theorem consecutive_asked (h : Numbers id n r es) (hrun : r.state = .running) :
    Consecutive id n (asked es) r.tickets := by
  have hc := h.consecutive
  rw [h.ticket?_eq_none hrun, Option.toList_none, List.append_nil] at hc
  exact hc

/-- Effects that ask for no place do not matter. -/
theorem append (h : Numbers id n r es) {more : List Effect} (hmore : asked more = []) :
    Numbers id n r (es ++ more) := by
  have heq : asked (es ++ more) = asked es := by
    rw [asked, List.filterMap_append, ← asked, ← asked, hmore, List.append_nil]
  exact ⟨h.id_eq, h.ticket?_eq_none, by rw [heq]; exact h.consecutive⟩

/-- Handing the snapshot over gives out no ticket. -/
theorem present (h : Numbers id n r es) : Numbers id n r.present.1 (es ++ r.present.2) := by
  obtain ⟨presented, shown, heq, hshown⟩ := r.exists_present
  have hasked : asked shown = [] := by
    rw [asked, List.filterMap_eq_nil_iff]
    intro e he
    obtain ⟨s, rfl⟩ := hshown e he
    rfl
  rw [heq]
  exact append (r := { r with snapshot.state := r.state, presented })
    ⟨h.id_eq, h.ticket?_eq_none, h.consecutive⟩ hasked

/-- A run that ends gives out no ticket, and waits under none. -/
theorem finish (h : Numbers id n r es) (hrun : r.state = .running) (p : Progress)
    (reason : EndReason) (diagnostic : Option Diagnostic) :
    Numbers id n (r.finish p reason diagnostic).1 (es ++ (r.finish p reason diagnostic).2) :=
  append (r := (r.finish p reason diagnostic).1)
    (of_ticket?_eq_none h.id_eq rfl (h.consecutive_asked hrun)) rfl

end Numbers

/-- Only a highlight gives out a ticket while it is executed: the next one, under which its place
is asked for. -/
theorem asked_execute (r : Run) (p : Progress) (s : Step) :
    (asked (r.execute p s).effects = [] ∧ (r.execute p s).run.tickets = r.tickets) ∨
    (asked (r.execute p s).effects = [r.nextTicket] ∧
      (r.execute p s).run.tickets = r.tickets + 1) := by
  cases s with
  | choice prompt options => rw [execute]; split <;> exact .inl ⟨rfl, rfl⟩
  | highlight anchor maskInput => exact .inr ⟨rfl, rfl⟩
  | _ => exact .inl ⟨rfl, rfl⟩

/-- Executing a step gives out the next tickets. -/
theorem consecutive_execute {id : Uuid} {n : Nat} {r : Run} {es : List Effect}
    (hid : r.id = id) (h : Consecutive id n (asked es) r.tickets) (p : Progress) (s : Step) :
    Consecutive id n (asked (es ++ (r.execute p s).effects)) (r.execute p s).run.tickets := by
  rw [asked, List.filterMap_append, ← asked, ← asked]
  rcases asked_execute r p s with ⟨hasked, htickets⟩ | ⟨hasked, htickets⟩
  · rw [hasked, htickets, List.append_nil]
    exact h
  · rw [hasked, htickets]
    exact h.concat hid rfl

/-- **The strokes of a running run number their tickets one after the other.** -/
theorem Lasting.numbers (id : Uuid) (n : Nat) : Lasting fun r _ es => Numbers id n r es where
  execute {r p es s} hrun _ h := by
    dsimp only
    have hdone := consecutive_execute (r := { r with snapshot.sound := none }) h.id_eq
      (h.consecutive_asked hrun) p s
    have hticket : ({ r with snapshot.sound := none }.execute p s).run.ticket? = none :=
      (ticket_execute _ p s).trans (h.ticket?_eq_none hrun)
    have hid := (id_execute { r with snapshot.sound := none } p s).trans h.id_eq
    have hstate := (state_execute { r with snapshot.sound := none } p s).trans hrun
    have hwaits : ∀ state, ({ r with snapshot.sound := none }.execute p s).flow = .suspend state →
        state = .waitingForChoice ∨ ∃ wait, state = .waiting wait := fun _ => waits_of_execute
    generalize { r with snapshot.sound := none }.execute p s = done at *
    rcases follow_cases done.run done.progress done.flow with
      ⟨state, hflow, heq⟩ | ⟨-, ⟨index, -, heq⟩ | ⟨reason, diagnostic, heq⟩⟩
    · rw [heq, List.append_nil]
      refine ⟨hid, fun hstate => ?_, hdone.concat hid rfl⟩
      rcases hwaits state hflow with rfl | ⟨wait, rfl⟩ <;> cases hstate
    · rw [heq, List.append_nil]
      exact .of_ticket?_eq_none hid hticket hdone
    · rw [heq]
      exact (Numbers.of_ticket?_eq_none hid hticket hdone).finish hstate _ reason diagnostic
  finish reason diagnostic _ hrun h := h.finish hrun _ reason diagnostic
  present h := h.present

/-! ### Turns -/

/-- Leaving a choice gives out no ticket. -/
theorem asked_writeFlags (p : Progress) (flags : NameMap Bool) :
    asked (writeFlags p flags).2 = [] := by
  refine writeFlags_induction (P := fun _ es => asked es = []) rfl fun q es name value h => ?_
  rw [asked, List.filterMap_append, ← asked, h]
  rfl

/-- An answer has given out no ticket yet when the run goes on. -/
theorem Resumes.numbers {r r' : Run} {p p' : Progress} {es : List Effect}
    (hr : r.Resumes p r' p' es) : Numbers r.id r.tickets r' es := by
  cases hr with
  | @choice prompt options option hstate hstep hoption =>
      have hstart : Numbers r.id r.tickets { r with snapshot.choice := none }.resume
          (writeFlags p option.setFlags).2 := by
        refine .of_ticket?_eq_none rfl rfl ?_
        rw [asked_writeFlags]
        exact .nil
      rcases follow_cases { r with snapshot.choice := none }.resume
          (writeFlags p option.setFlags).1 (Flow.toLabel option.goto) with
        ⟨state, hflow, -⟩ | ⟨-, ⟨index, -, heq⟩ | ⟨reason, diagnostic, heq⟩⟩
      · exact absurd hflow (toLabel_ne_suspend _ _)
      · rw [leaveChoice, heq, List.append_nil]
        exact ⟨hstart.id_eq, hstart.ticket?_eq_none, hstart.consecutive⟩
      · rw [leaveChoice, heq]
        exact hstart.finish rfl _ reason diagnostic
  | line | highlight | timer | flag => exact .of_ticket?_eq_none rfl rfl .nil

/-- **An accepted answer gives out the tickets behind those that the run had given out.** -/
theorem Answers.numbers {r : Run} {p : Progress} {turn : Turn} (h : r.Answers p turn) :
    Numbers r.id r.tickets turn.run turn.effects :=
  (Lasting.numbers r.id r.tickets).answers h fun _ _ _ hr => hr.numbers

/-- A run gives out its tickets from the first one on. -/
theorem numbers_advance_start (id : Uuid) (scene : Scene) (p q : Progress) :
    Numbers id 0 ((start id scene p).advance q).run ((start id scene p).advance q).effects :=
  (Lasting.numbers id 0).advance [] (.of_ticket?_eq_none rfl rfl .nil)

/-- Breaking off gives out no ticket. -/
theorem tickets_interrupt (r : Run) (p : Progress) : (r.interrupt p).1.tickets = r.tickets := by
  rw [interrupt]
  split
  · obtain ⟨presented, shown, heq, -⟩ := (r.finish p .interrupted none).1.exists_present
    dsimp only
    rw [heq]
    rfl
  · rfl

/-- A run that has been broken off waits under no ticket. -/
theorem ticket?_interrupt {r : Run} (hactive : r.state.isActive = true) (p : Progress) :
    (r.interrupt p).1.ticket? = none := by
  obtain ⟨presented, shown, heq, -⟩ := (r.finish p .interrupted none).1.exists_present
  rw [interrupt, if_pos hactive]
  dsimp only
  rw [heq]
  rfl

/-- A run that is broken off gives out no ticket. -/
theorem numbers_interrupt {r : Run} (hactive : r.state.isActive = true) (p : Progress) :
    Numbers r.id r.tickets (r.interrupt p).1 (r.interrupt p).2 := by
  rw [interrupt, if_pos hactive]
  have hended : Numbers r.id r.tickets (r.finish p .interrupted none).1
      (r.finish p .interrupted none).2 := .of_ticket?_eq_none rfl rfl .nil
  exact hended.present

/-! ### Another ticket -/

/-- The ticket that a run waits under is among those that it has counted. -/
def Counts (r : Run) : Prop := ∀ t, r.ticket? = some t → t.number ≤ r.tickets

/-- Executing a step takes no ticket back. -/
theorem le_tickets_execute (r : Run) (p : Progress) (s : Step) :
    r.tickets ≤ (r.execute p s).run.tickets := by
  rcases asked_execute r p s with ⟨-, htickets⟩ | ⟨-, htickets⟩ <;> omega

/-- **The strokes of a running run count the ticket that it waits under.** -/
theorem Lasting.counts : Lasting fun r _ _ => r.Counts where
  execute {r p es s} _ _ h := by
    dsimp only
    have hticket := ticket_execute { r with snapshot.sound := none } p s
    have hgrows := le_tickets_execute { r with snapshot.sound := none } p s
    generalize { r with snapshot.sound := none }.execute p s = done at *
    rcases follow_cases done.run done.progress done.flow with
      ⟨state, -, heq⟩ | ⟨-, ⟨index, -, heq⟩ | ⟨reason, diagnostic, heq⟩⟩
    · rw [heq]
      rintro t ⟨⟩
      exact Nat.le_refl _
    · rw [heq]
      exact fun t ht => Nat.le_trans (h t (hticket.symm.trans ht)) hgrows
    · rw [heq]
      rintro t ⟨⟩
  finish _ _ _ _ _ := by rintro t ⟨⟩
  present {r p es} h := by
    obtain ⟨presented, shown, heq, -⟩ := r.exists_present
    rw [heq]
    exact h

/-- A run that goes on no longer waits under a ticket. -/
theorem Resumes.ticket?_eq_none {r r' : Run} {p p' : Progress} {es : List Effect}
    (hr : r.Resumes p r' p' es) : r'.ticket? = none := by
  cases hr with
  | @choice prompt options option hstate hstep hoption =>
      rw [leaveChoice]
      rcases follow_cases { r with snapshot.choice := none }.resume
          (writeFlags p option.setFlags).1 (Flow.toLabel option.goto) with
        ⟨state, hflow, -⟩ | ⟨-, ⟨index, -, heq⟩ | ⟨reason, diagnostic, heq⟩⟩
      · exact absurd hflow (toLabel_ne_suspend _ _)
      · rw [heq]; rfl
      · rw [heq]; rfl
  | line | highlight | timer | flag => rfl

/-- A run that has accepted an answer counts the ticket that it waits under. -/
theorem Counts.answers {r : Run} {p : Progress} {turn : Turn} (hturn : r.Answers p turn) :
    turn.run.Counts :=
  Lasting.counts.answers hturn fun r' _ _ hr t ht => by
    rw [hr.ticket?_eq_none] at ht
    cases ht

/-- One that has been broken off waits under none. -/
theorem Counts.interrupt {r : Run} (h : r.Counts) (p : Progress) : (r.interrupt p).1.Counts := by
  by_cases hactive : r.state.isActive = true
  · intro t ht
    rw [ticket?_interrupt hactive] at ht
    cases ht
  · rw [Run.interrupt, if_neg hactive]
    exact h

/-- Noting a place gives out no ticket. -/
theorem Counts.applyGeometry {r : Run} (h : r.Counts) (ticket : Ticket) (rect : Option Rect) :
    (r.applyGeometry ticket rect).1.Counts := by
  obtain ⟨highlight, state, presented, heq⟩ := r.exists_applyGeometry ticket rect
  rw [heq]
  exact h

/-- Every operation counts the ticket that the run waits under. -/
theorem Reachable.counts {r : Run} (h : r.Reachable) : r.Counts := by
  induction h with
  | start id scene p q => exact Lasting.counts.advance [] (by rintro t ⟨⟩)
  | advance _ p ih => exact Lasting.counts.advance [] ih
  | choose _ p option hturn _ => exact .answers (.choose option hturn)
  | acknowledge _ p hturn _ => exact .answers (.acknowledge hturn)
  | resumeTimer _ p ticket hturn _ => exact .answers (.resumeTimer ticket hturn)
  | notifyFlag _ p hturn _ => exact .answers (.notifyFlag hturn)
  | interrupt _ p ih => exact ih.interrupt p
  | applyGeometry _ ticket rect ih => exact ih.applyGeometry ticket rect

/-- **A run that has been answered waits under another ticket**, if at all. -/
theorem Counts.ticket?_ne {r : Run} (h : r.Counts) {p : Progress} {turn : Turn}
    (hturn : r.Answers p turn) {t : Ticket} (ht : r.ticket? = some t) :
    turn.run.ticket? ≠ some t := by
  intro hsame
  have hlt := (hturn.numbers.consecutive.mem_bounds
    (List.mem_append_right _ (Option.mem_toList.mpr hsame))).1
  have hle := h t ht
  omega

/-- **A run that has been answered waits under another ticket, if at all.** -/
theorem Reachable.ticket?_ne {r : Run} (h : r.Reachable) {p : Progress} {turn : Turn}
    (hturn : r.Answers p turn) {t : Ticket} (ht : r.ticket? = some t) :
    turn.run.ticket? ≠ some t :=
  h.counts.ticket?_ne hturn ht

end Run

end Cutscene
