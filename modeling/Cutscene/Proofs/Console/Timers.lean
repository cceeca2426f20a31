import Cutscene.Proofs.Console.Course
import Cutscene.Proofs.Director.Waits

/-!
# One Timer for Each Wait

A console sets a timer when its director has come to a timed wait, and a timer that has run out is
a message like any other. In the meantime the wait may have been ended by hand, the scene may have
been broken off, and the run may have come back to the same step; so timers outlive their waits, and
the console keeps in mind only the last one that it has set.

Still each wait gets one timer, and that timer is there as long as the wait is
(`Console.Tended`): it is set in the round in which the director has come to the wait, and a ticket
that is given out in that round has not been given out before.

## Main results

* `Console.Tended.round`: what holds of the timers is kept by each round.
* `Console.handle_stale`: a timer whose wait is over leads to nothing but saving.
* `Console.Course.timely`: one timer for each wait, never early and never lost.
-/

namespace Cutscene

namespace Console

variable {ω : Type} {ids : Identities} {store : Store (StateM ω)} {w w' : ω} {c c₁ c₂ : Console}
  {past : List Round} {ticket : Ticket} {ms : UInt64}

/-! ### Timers that are set -/

/-- The timers that are there after a round and were not there before. -/
def Round.timersSet (round : Round) : Agenda Ticket := round.after.timers.diff round.before.timers

/-- The timers that have been set in the course of some rounds. -/
def timersSet (past : List Round) : Agenda Ticket := past.flatMap Round.timersSet

/-- The timers that the last round has set come behind those of the rounds before. -/
theorem timersSet_concat (past : List Round) (round : Round) :
    timersSet (past ++ [round]) = timersSet past ++ round.timersSet := by
  rw [timersSet, List.flatMap_append, List.flatMap_singleton, ← timersSet]

/-- What a list has more than another is what has been put to it. -/
theorem diff_perm_of_perm {α : Type} [BEq α] [LawfulBEq α] {l l' more : List α}
    (hl : l'.Perm (more ++ l)) : (l'.diff l).Perm more := by
  induction l generalizing l' with
  | nil => rwa [List.diff_nil, ← List.append_nil more]
  | cons entry l ih =>
      rw [List.diff_cons]
      refine ih ?_
      exact ((hl.trans List.perm_middle).erase entry).trans (.of_eq (List.erase_cons_head entry _))

/-- A round that leaves the timers as they are sets none. -/
theorem Round.timersSet_of_eq {round : Round} (htimers : round.after.timers = round.before.timers) :
    round.timersSet = [] :=
  (diff_perm_of_perm (List.Perm.of_eq htimers : round.after.timers.Perm ([] ++ _))).eq_nil

/-- A round that inserts a timer sets this one, also if there is an equal one already. -/
theorem Round.timersSet_of_insert {round : Round} {due : Nat}
    (htimers : round.after.timers = round.before.timers.insert due ticket) :
    round.timersSet = [(due, ticket)] := by
  have hperm : round.after.timers.Perm ([(due, ticket)] ++ round.before.timers) := by
    rw [htimers]
    exact Agenda.perm_insert due ticket _
  exact (diff_perm_of_perm hperm).eq_singleton

/-! ### Tending the timers -/

/-- **What holds of the timers of a console between two rounds.** -/
structure Tended (past : List Round) (c : Console) : Prop where
  /-- One timer has been set for each wait. -/
  nodup : ((timersSet past).map Prod.snd).Nodup
  /-- The timers that have not run out have been set. -/
  outstanding : c.timers.Subperm (timersSet past)
  /-- The console has a timer in mind that it has set. -/
  armed_mem : ∀ ticket, c.armed = some ticket → ticket ∈ (timersSet past).map Prod.snd
  /-- It is that of the wait. -/
  armed_eq : ∀ ticket ms, c.director.timer? = some (ticket, ms) → c.armed = some ticket
  /-- **That timer has been set for the whole wait, and is there.** -/
  exists_set : ∀ ticket ms, c.director.timer? = some (ticket, ms) → ∃ round ∈ past,
    round.after.director.timer? = some (ticket, ms) ∧
      (round.after.now + ms.toNat, ticket) ∈ round.timersSet ∧
      (round.after.now + ms.toNat, ticket) ∈ c.timers

/-- A console before any input has set no timer. -/
theorem tended_nil (hwait : c.director.timer? = none) (harmed : c.armed = none)
    (htimers : c.timers = []) : Tended [] c where
  nodup := .nil
  outstanding := by rw [htimers]; exact .refl _
  armed_mem _ harmed' := by rw [harmed] at harmed'; cases harmed'
  armed_eq _ _ hwait' := by rw [hwait] at hwait'; cases hwait'
  exists_set _ _ hwait' := by rw [hwait] at hwait'; cases hwait'

namespace Brings

variable {message : Message}

/-- A message takes one timer away at most, and not that of a wait which it does not end. -/
theorem timers (hc : c.Brings message c₁) : c₁.timers.Sublist c.timers ∧
    ∀ entry ∈ c.timers, message ≠ .timer entry.2 → entry ∈ c₁.timers := by
  cases hc with
  | line | ready => exact ⟨.refl _, fun _ hmem _ => hmem⟩
  | @timer front back due ticket stage _ htimers =>
      dsimp only
      rw [htimers]
      refine ⟨(List.sublist_cons_self _ _).append_left front, fun entry hmem hne => ?_⟩
      rcases List.mem_append.mp hmem with hmem | hmem
      · exact List.mem_append_left _ hmem
      · rcases List.mem_cons.mp hmem with rfl | hmem
        · exact absurd rfl hne
        · exact List.mem_append_right _ hmem

/-- Only its own timer makes a console stop waiting for a timer. -/
theorem hear (hc : c.Brings message c₁) (harmed : c.armed = some ticket)
    (hne : message ≠ .timer ticket) : c₁.hear message = some ticket := by
  obtain ⟨stage, -, -, harmed₁⟩ := hc.exists_director
  cases message with
  | line | ready => exact harmed₁.trans harmed
  | timer ticket' =>
      rw [Console.hear, harmed₁, harmed]
      refine if_neg fun heq => hne ?_
      rw [Option.some.inj heq]

/-- Whatever comes next, the director is at the same timed wait until it hears of it. -/
theorem timer?_eq (hc : c.Brings message c₁) : c₁.director.timer? = c.director.timer? := by
  obtain ⟨stage, -, hdirector, -⟩ := hc.exists_director
  rw [hdirector]
  exact Director.timer?_congr rfl

/-- What a console still waits for when it hears a message, it has waited for before. -/
theorem armed_of_hear (hc : c.Brings message c₁) (hhear : c₁.hear message = some ticket) :
    c.armed = some ticket := by
  obtain ⟨stage, -, -, harmed₁⟩ := hc.exists_director
  rw [← harmed₁]
  cases message with
  | line | ready => exact hhear
  | timer ticket' =>
      rw [Console.hear] at hhear
      split at hhear
      · cases hhear
      · exact hhear

end Brings

/-- **What holds of the timers is kept by each round**, if the wait that there is afterwards either
was there before and is not the one that has just been called on, or is a new one. -/
theorem Tended.round {message : Message} {said : List Output} (hc : Tended past c)
    (hbrings : c.Brings message c₁) (harms : Arms (c₁.hear message) c₁.timers c₂)
    (hwait : ∀ ticket ms, c₂.director.timer? = some (ticket, ms) →
      (c.director.timer? = some (ticket, ms) ∧ message ≠ .timer ticket) ∨
        ticket ∉ (timersSet past).map Prod.snd) :
    Tended (past ++ [⟨c₁, message, said, c₂⟩]) c₂ := by
  obtain ⟨hsublist, hstay⟩ := hbrings.timers
  have houtstanding : c₁.timers.Subperm (timersSet past) := hsublist.subperm.trans hc.outstanding
  cases harms with
  | kept harmed htimers hkept =>
      have hnone : (Round.mk c₁ message said c₂).timersSet = [] := Round.timersSet_of_eq htimers
      have hset : timersSet (past ++ [⟨c₁, message, said, c₂⟩]) = timersSet past := by
        rw [timersSet_concat, hnone, List.append_nil]
      refine ⟨?_, ?_, ?_, ?_, ?_⟩
      · rw [hset]
        exact hc.nodup
      · rw [hset, htimers]
        exact houtstanding
      · intro ticket harmed'
        rw [hset]
        exact hc.armed_mem ticket (hbrings.armed_of_hear (harmed ▸ harmed'))
      · intro ticket ms hafter
        rw [harmed]
        exact hkept ticket ms hafter
      · intro ticket ms hafter
        have hmem := hc.armed_mem ticket (hbrings.armed_of_hear (hkept ticket ms hafter))
        rcases hwait ticket ms hafter with ⟨hbefore, hne⟩ | hnew
        · obtain ⟨round, hround, hset', hdue, hthere⟩ := hc.exists_set ticket ms hbefore
          refine ⟨round, List.mem_append_left _ hround, hset', hdue, ?_⟩
          rw [htimers]
          exact hstay _ hthere hne
        -- What the console has in mind has been set, and so the wait cannot be new.
        · exact absurd hmem hnew
  | @set ticket ms hafter hne harmed htimers =>
      have hone : (Round.mk c₁ message said c₂).timersSet =
          [(c₂.now + ms.toNat, ticket)] := Round.timersSet_of_insert htimers
      have hnew : ticket ∉ (timersSet past).map Prod.snd := by
        -- Had the wait been there before, its timer would be in mind still.
        rcases hwait ticket ms hafter with ⟨hbefore, hmessage⟩ | hnew
        · exact absurd (hbrings.hear (hc.armed_eq ticket ms hbefore) hmessage) hne
        · exact hnew
      have hset : timersSet (past ++ [⟨c₁, message, said, c₂⟩]) =
          timersSet past ++ [(c₂.now + ms.toNat, ticket)] := by
        rw [timersSet_concat, hone]
      refine ⟨?_, ?_, ?_, ?_, ?_⟩
      · rw [hset, List.map_append]
        exact hc.nodup.append (List.nodup_singleton _) (List.disjoint_singleton.mpr hnew)
      · rw [hset, htimers]
        refine (Agenda.perm_insert _ ticket c₁.timers).subperm.trans ?_
        refine ((List.subperm_cons _).mpr houtstanding).trans ?_
        exact (List.perm_append_singleton _ _).symm.subperm
      · intro ticket' harmed'
        obtain rfl := Option.some.inj (harmed.symm.trans harmed')
        rw [hset, List.map_append]
        exact List.mem_append_right _ List.mem_cons_self
      · intro ticket' ms' hafter'
        obtain ⟨rfl, rfl⟩ := Prod.mk.inj (Option.some.inj (hafter.symm.trans hafter'))
        exact harmed
      · intro ticket' ms' hafter'
        obtain ⟨rfl, rfl⟩ := Prod.mk.inj (Option.some.inj (hafter.symm.trans hafter'))
        refine ⟨⟨c₁, message, said, c₂⟩, List.mem_append_right _ List.mem_cons_self, hafter, ?_, ?_⟩
        · rw [hone]
          exact List.mem_cons_self
        · rw [htimers]
          exact (Agenda.perm_insert _ ticket c₁.timers).mem_iff.mpr List.mem_cons_self

/-- A round sets one timer at most, and that for the wait that there is afterwards. -/
theorem Arms.timersSet {armed : Option Ticket} (harms : Arms armed c₁.timers c₂)
    (message : Message) (said : List Output) : (Round.mk c₁ message said c₂).timersSet = [] ∨
      ∃ ticket ms, c₂.director.timer? = some (ticket, ms) ∧
        (Round.mk c₁ message said c₂).timersSet = [(c₂.now + ms.toNat, ticket)] := by
  cases harms with
  | kept _ htimers _ => exact .inl (Round.timersSet_of_eq htimers)
  | @set ticket ms hwait _ _ htimers =>
      exact .inr ⟨ticket, ms, hwait, Round.timersSet_of_insert htimers⟩

/-- Of the timers that have not run out, one is for the ticket. -/
theorem Tended.count_eq_one (hc : Tended past c) {due : Nat} (hthere : (due, ticket) ∈ c.timers) :
    (c.timers.map Prod.snd).count ticket = 1 := by
  obtain ⟨there, hperm, hsublist⟩ := hc.outstanding
  have hnodup : (c.timers.map Prod.snd).Nodup :=
    (hperm.map Prod.snd).nodup_iff.mp (hc.nodup.sublist (hsublist.map Prod.snd))
  exact List.count_eq_one_of_mem hnodup (List.mem_map_of_mem hthere)

/-- **A timer whose wait is not over has been set for that wait**, and the time has passed. -/
theorem Tended.exists_due (hc : Tended past c) (hbrings : c.Brings (.timer ticket) c₁)
    (hwait : c.director.timer? = some (ticket, ms)) : ∃ round ∈ past,
      round.after.director.timer? = some (ticket, ms) ∧
        (round.after.now + ms.toNat, ticket) ∈ round.timersSet ∧
        round.after.now + ms.toNat ≤ c₁.now := by
  obtain ⟨round, hround, hset, hdue, hthere⟩ := hc.exists_set ticket ms hwait
  refine ⟨round, hround, hset, hdue, ?_⟩
  cases hbrings with
  | @timer front back due ticket stage _ htimers hnow =>
      have htaken : (due, ticket) ∈ c.timers := by
        rw [htimers]
        exact List.mem_append_right _ List.mem_cons_self
      -- Two timers for one ticket are one timer.
      have hone := List.inj_on_of_nodup_map hc.nodup (hc.outstanding.subset hthere)
        (hc.outstanding.subset htaken) rfl
      rw [(Prod.mk.inj hone).1]
      exact hnow

/-! ### Timers that come too late -/

/-- **A timer whose wait is over leads to nothing but saving**: nothing is said, and the director
only tries again to save what could not be saved before. -/
theorem handle_stale {h : Host Stage} {said : List Output} (hidle : c.Idle)
    (hstale : ∀ ms, c.director.timer? ≠ some (ticket, ms))
    (hp : (c.handle h store (.timer ticket)).run w = ((said, c₁), w')) :
    said = [] ∧ ∃ yes, (c.director.flush store).run w = ((yes, c₁.director), w') := by
  obtain ⟨yes, d, hsettle, rfl, hafter, -⟩ := exists_handle hp
  have hresume : (c.react h (.timer ticket)).director = c.director :=
    congrArg Prod.snd (Director.resume_of_timer?_ne hstale)
  have hresolve : c.director.resolve h = c.director := by
    rw [Director.resolve, hidle.pending_eq, List.foldl_nil, ← hidle.pending_eq]
  obtain ⟨yes', dirty, w₁, hflush⟩ := Director.exists_flush store w c.director
  rw [hresume] at hsettle
  simp only [Director.perform, Director.settle, StateT.run_bind, hresolve, hflush] at hsettle
  obtain ⟨hdone, rfl⟩ := Prod.mk.inj hsettle
  obtain ⟨-, rfl⟩ := Prod.mk.inj hdone
  -- Nothing was left to be said, and nothing has been put down.
  have hdrain : ({ c with director := { c.director with dirty } } : Console).drain = ([], _) :=
    Idle.drain ⟨hidle.pending_eq, hidle.events_eq, hidle.outputs_eq⟩
  refine ⟨congrArg Prod.fst hdrain, yes', ?_⟩
  rw [hflush, hafter]
  exact congrArg (fun done => ((yes', done.2.director), w₁)) hdrain.symm

/-- **A timer whose wait is over leads to no other timer.** -/
theorem Tended.timersSet_stale {h : Host Stage} {said : List Output} (hc : Tended past c)
    (hidle : c.Idle) (hbrings : c.Brings (.timer ticket) c₁)
    (hstale : ∀ ms, c₁.director.timer? ≠ some (ticket, ms))
    (hp : (c₁.handle h store (.timer ticket)).run w = ((said, c₂), w')) :
    (Round.mk c₁ (.timer ticket) said c₂).timersSet = [] := by
  obtain ⟨-, yes, hflush⟩ := handle_stale (hbrings.idle hidle) hstale hp
  obtain ⟨-, -, -, -, -, harms⟩ := exists_handle hp
  obtain ⟨yes', dirty, w₁, hflush'⟩ := Director.exists_flush store w c₁.director
  have hafter : c₂.director = { c₁.director with dirty } :=
    congrArg (fun done => done.1.2) (hflush.symm.trans hflush')
  have hsame : c₂.director.timer? = c₁.director.timer? := by
    rw [hafter]
    exact Director.timer?_congr rfl
  cases harms with
  | kept _ htimers _ => exact Round.timersSet_of_eq htimers
  | @set ticket' ms hwait hne _ _ =>
      rw [hsame] at hwait
      have hother : ticket ≠ ticket' := by
        rintro rfl
        exact hstale ms hwait
      have hbefore : c.director.timer? = some (ticket', ms) := hbrings.timer?_eq.symm.trans hwait
      have hhear := hbrings.hear (hc.armed_eq ticket' ms hbefore) fun heq =>
        hother (Message.timer.inj heq)
      exact absurd hhear hne

/-! ### The course of a console -/

section Course

variable {c' : Console} {w₀ : ω} {s : Stage × List Exchange}
  {opening : List (Episode (Stage × List Exchange))} {e : Director (Stage × List Exchange)}

/-- In the course of a console no start of a run is taken back. -/
theorem Course.started_le (hcourse : Course (Stage.host ids) store c w past c' w')
    (hidle : c.Idle) : c.director.started ≤ c'.director.started := by
  have he : c.director.Mirrors (c.director.map fun stage => (stage, ([] : List Exchange))) := rfl
  obtain ⟨played, e', hist, he', -, -⟩ := hcourse.exists_played hidle he
  rw [he'.started_eq]
  exact hist.started_le

/-- **The timers of a console are tended in its course**, and they are set for tickets that its
director has given out. Induction on the rounds. -/
theorem Course.exists_tended (hcourse : Course (Stage.host ids) store c w past c' w')
    (hopening : Director.History (Stage.host ids).minuted store { stage := s } w₀ opening e w)
    (he : c.director.Mirrors e) (hidle : c.Idle) (hwait : c.director.timer? = none)
    (harmed : c.armed = none) (htimers : c.timers = []) :
    ∃ played e', Director.History (Stage.host ids).minuted store { stage := s } w₀ played e' w' ∧
      c'.director.Mirrors e' ∧ c'.Idle ∧ (ids.RunsDiffer e'.started → Tended past c' ∧
        ∀ ticket ∈ (timersSet past).map Prod.snd,
          ticket ∈ Director.given (Stage.host ids).minuted played) := by
  induction hcourse with
  | nil =>
      exact ⟨opening, e, hopening, he, hidle, fun _ =>
        ⟨tended_nil hwait harmed htimers, List.forall_mem_nil _⟩⟩
  | @snoc past c₁ c₂ c₃ w₁ w₂ message said _ hbrings hp ih =>
      obtain ⟨played, e₁, hist, he₁, hidle₁, hpast⟩ := ih
      obtain ⟨eps, e₂, later, he₂, htold, hidle₂, -, harms⟩ :=
        exists_tells hp (hbrings.idle hidle₁).outputs_eq (hbrings.mirrors he₁)
      refine ⟨played ++ eps, e₂, hist.trans later, he₂, hidle₂, fun hids => ?_⟩
      obtain ⟨htended, hgiven⟩ := hpast (hids.mono later.started_le)
      refine ⟨htended.round hbrings harms fun ticket ms hafter => ?_, fun ticket hmem => ?_⟩
      · rw [he₂.timer?_eq] at hafter
        rcases later.timer? hafter with hbefore | hissued
        · refine .inl ⟨he₁.timer?_eq.trans hbefore, ?_⟩
          rintro rfl
          -- A wait that has been called on by its timer is over.
          cases eps with
          | nil => exact absurd htold.cues_eq (List.cons_ne_nil _ _).symm
          | cons ep eps =>
              have hcue : ep.cue = .resume ticket := (List.cons.inj htold.cues_eq).1
              exact hist.timer?_ne later hids hcue hbefore ms hafter
        · exact .inr fun hmem => hist.not_mem_given later hids (hgiven ticket hmem) hissued
      · rw [timersSet_concat, List.map_append, List.mem_append] at hmem
        rcases hmem with hmem | hmem
        · rw [Director.given_append]
          exact List.mem_append_left _ (hgiven ticket hmem)
        · rcases harms.timersSet message said with hnone | ⟨t, ms, ht, hone⟩
          · rw [hnone] at hmem
            cases hmem
          · rw [hone, List.map_singleton, List.mem_singleton] at hmem
            subst hmem
            rw [he₂.timer?_eq] at ht
            exact ((hist.trans later).ticketed hids).current ticket
              (Director.timer?_eq_some_iff.mp ht).2

/-- **One timer for each wait, never early and never lost**, in the course `past` of a console, from
`c` with the state `w` of the store to `c'`. -/
structure Timely (h : Host Stage) (store : Store (StateM ω)) (c : Console) (w : ω)
    (past : List Round) (c' : Console) : Prop where
  /-- For each ticket one timer is set at most. -/
  set_once : ((timersSet past).map Prod.snd).Nodup
  /-- **When the scene that is played waits for some time**, there is one timer for its ticket that
  has not been taken up, and that one has been set for the whole time. -/
  outstanding : ∀ run ms, c'.director.activeRun? = some run → run.state.isWaiting = true →
    run.currentStep? = some (.wait ms) → ∃ ticket, c'.director.timer? = some (ticket, ms) ∧
      (c'.timers.map Prod.snd).count ticket = 1 ∧ ∃ round ∈ past,
        round.after.director.timer? = some (ticket, ms) ∧
          (round.after.now + ms.toNat, ticket) ∈ c'.timers
  /-- **A timer ends only the wait that it was set for**, and that not before its time: the wait
  that the timer was set for was already of the length `ms`. -/
  never_early : ∀ earlier round later ticket, past = earlier ++ round :: later →
    round.message = .timer ticket → (round.before.director.resume h ticket).1 = true →
    ∃ ms, round.before.director.timer? = some (ticket, ms) ∧ ∃ round' ∈ earlier,
      round'.after.director.timer? = some (ticket, ms) ∧
        (round'.after.now + ms.toNat, ticket) ∈ round'.timersSet ∧
        round'.after.now + ms.toNat ≤ round.before.now
  /-- **Any other timer leads to nothing but saving**: the director only tries again to save what
  could not be saved before, nothing is said, and no timer is set. -/
  stale : ∀ earlier round later ticket, past = earlier ++ round :: later →
    round.message = .timer ticket →
    (∀ ms, round.before.director.timer? ≠ some (ticket, ms)) →
    round.said = [] ∧ round.timersSet = [] ∧ ∃ c₁ w₁ yes w₂, Course h store c w earlier c₁ w₁ ∧
      (round.before.director.flush store).run w₁ = ((yes, round.after.director), w₂)

section Prepared

variable {time : Instant} {settings : Settings} {report : CatalogReport}
  (hprepare : (prepare (Stage.host ids) store time settings report).run w₀ = (c, w))

include hprepare

/-- A console that has been prepared tends its timers, and when the scene that is played waits for
some time, its director can tell for how long. -/
theorem Course.tended (hcourse : Course (Stage.host ids) store c w past c' w')
    (hids : ids.RunsDiffer c'.director.started) : c'.Idle ∧ Tended past c' ∧
      ∀ run ms, c'.director.activeRun? = some run → run.state.isWaiting = true →
        run.currentStep? = some (.wait ms) → ∃ ticket, c'.director.timer? = some (ticket, ms) := by
  obtain ⟨opening, e, hopening, he, hidle, -, -⟩ := exists_opening hprepare
  have hnew : c.director.timer? = none ∧ c.armed = none ∧ c.timers = [] := by
    rw [prepare_eq] at hprepare
    obtain ⟨rfl, -⟩ := Prod.mk.inj hprepare
    exact ⟨rfl, rfl, rfl⟩
  obtain ⟨played, e', hist, he', hidle', hpast⟩ :=
    hcourse.exists_tended hopening he hidle hnew.1 hnew.2.1 hnew.2.2
  refine ⟨hidle', (hpast (he'.started_eq ▸ hids)).1, fun run ms hactive hwaiting hstep => ?_⟩
  have hactive' : e'.activeRun? = some run := by
    rw [Director.activeRun?, ← he'.run_eq]
    exact hactive
  rw [he'.timer?_eq]
  exact hist.exists_timer? hactive' hwaiting hstep

/-- What there is at a round of a console that has been prepared. -/
theorem Course.tended_round {earlier later : List Round} {round : Round}
    (hcourse : Course (Stage.host ids) store c w (earlier ++ round :: later) c' w')
    (hids : ids.RunsDiffer c'.director.started) : ∃ c₁ w₁ w₂,
      Course (Stage.host ids) store c w earlier c₁ w₁ ∧ c₁.Idle ∧ Tended earlier c₁ ∧
      c₁.Brings round.message round.before ∧
      (round.before.handle (Stage.host ids) store round.message).run w₁ =
        ((round.said, round.after), w₂) := by
  obtain ⟨c₁, w₁, w₂, hbefore, hbrings, hp, hlater⟩ := hcourse.round
  obtain ⟨opening, e, -, he, hidle, -, -⟩ := exists_opening hprepare
  obtain ⟨-, -, -, -, hidle₁, -⟩ := hbefore.exists_played hidle he
  have hfrom := (Course.nil.snoc hbrings hp).trans hlater
  obtain ⟨-, htended, -⟩ := hbefore.tended hprepare (hids.mono (hfrom.started_le hidle₁))
  exact ⟨c₁, w₁, w₂, hbefore, hidle₁, htended, hbrings, hp⟩

end Prepared

/-- **A console tends its timers**, whatever is in the catalog and whatever reaches it in which
order. -/
theorem Course.timely {time : Instant} {settings : Settings} {report : CatalogReport}
    (hprepare : (prepare (Stage.host ids) store time settings report).run w₀ = (c, w))
    (hcourse : Course (Stage.host ids) store c w past c' w')
    (hids : ids.RunsDiffer c'.director.started) :
    Timely (Stage.host ids) store c w past c' := by
  obtain ⟨-, htended, htimer⟩ := hcourse.tended hprepare hids
  refine ⟨htended.nodup, fun run ms hactive hwaiting hstep => ?_, ?_, ?_⟩
  · obtain ⟨ticket, ht⟩ := htimer run ms hactive hwaiting hstep
    obtain ⟨round, hround, hset, -, hthere⟩ := htended.exists_set ticket ms ht
    exact ⟨ticket, ht, htended.count_eq_one hthere, round, hround, hset, hthere⟩
  · rintro earlier ⟨c₂, message, said, c₃⟩ later ticket rfl rfl hresumed
    obtain ⟨c₁, w₁, w₂, -, -, htended₁, hbrings, -⟩ := hcourse.tended_round hprepare hids
    obtain ⟨ms, hwait⟩ := Director.resume_iff_timer?.mp hresumed
    exact ⟨ms, hwait, htended₁.exists_due hbrings (hbrings.timer?_eq.symm.trans hwait)⟩
  · rintro earlier ⟨c₂, message, said, c₃⟩ later ticket rfl rfl hstale
    obtain ⟨c₁, w₁, w₂, hbefore, hidle₁, htended₁, hbrings, hp⟩ :=
      hcourse.tended_round hprepare hids
    obtain ⟨hsaid, yes, hflush⟩ := handle_stale (hbrings.idle hidle₁) hstale hp
    exact ⟨hsaid, htended₁.timersSet_stale hidle₁ hbrings hstale hp, c₁, w₁, yes, w₂, hbefore,
      hflush⟩

end Course

end Console

/-- An hour of the watch is over, and the next one begins: the timer of the first hour was set at
once, and that of the second one when the first bell was heard. -/
theorem Rehearsal.timely_watch :
    Console.timersSet watch =
      [(500, ⟨stage.ids.run 0, 2, 2⟩), (1200, ⟨stage.ids.run 0, 2, 4⟩)] ∧
    relieved.1.2.timers = [(1200, ⟨stage.ids.run 0, 2, 4⟩)] ∧
    Console.Timely (Stage.host stage.ids) Records.store gatehouse ∅ watch relieved.1.2 := by
  have hstarted : relieved.1.2.director.started = 1 := by cbv
  refine ⟨by cbv, by cbv, Console.Course.timely prepare_gatehouse course_watch ?_⟩
  rw [hstarted, Identities.RunsDiffer]
  decide

end Cutscene
