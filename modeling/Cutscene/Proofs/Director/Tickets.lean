import Cutscene.Proofs.Brackets
import Cutscene.Proofs.Director.History

/-!
# Tickets of a Director

A ticket stands for one suspension of one run, or for the place of one highlight. Timers fire late
and in any order: after the wait has been cut short, after the run has been broken off, after the
scene has been started again, or after its script has come back to the same step. None of this
matters, because no ticket is given out twice.

Runs number their tickets one after the other, and so tickets of the same run differ. Tickets of
different runs differ as long as the identifiers of the runs do.

## Main results

* `Director.Deed.ticketed`: every deed gives out tickets that have not been given out before.
* `Director.History.nodup_pending`: no place is asked for under two requests.
* `Director.resume_iff`: which tickets are accepted.
* `Director.History.singleUse`: a ticket answers one suspension, once.
-/

namespace Cutscene

/-- If the identifiers of the first `n` runs differ, those of fewer runs do. -/
theorem Identities.RunsDiffer.mono {ids : Identities} {m n : Nat} (hids : ids.RunsDiffer n)
    (hmn : m ≤ n) : ids.RunsDiffer m :=
  fun i hi j hj => hids i (Nat.lt_of_lt_of_le hi hmn) j (Nat.lt_of_lt_of_le hj hmn)

namespace Director

variable {σ : Type} {h : Host σ} {us : List Ticket}

/-! ### Frames -/

/-- The current ticket is that of the run that is followed. -/
@[simp] theorem ticket?_follow (d : Director σ) (run : Run) (q : Progress) (es : List Effect) :
    (d.follow h run q es).ticket? = run.ticket? := by
  rw [ticket?, run_follow, Option.bind_some]

/-- Carrying out an effect adds the request that the effect makes, if it makes one. The end of a
run only withdraws requests. -/
theorem pending_carryOut_sublist (scene : String) (run : Uuid) (d : Director σ) (e : Effect) :
    ((carryOut h scene run d e).pending.map Prod.fst).Sublist
      (d.pending.map Prod.fst ++ asked [e]) := by
  cases e with
  | measure ticket anchor =>
      rw [carryOut, List.map_append]
      exact List.Sublist.refl _
  | ended ending =>
      have hsub : ((carryOut h scene run d (.ended ending)).pending).Sublist d.pending := by
        rw [carryOut, conclude]
        split <;> exact List.filter_sublist
      exact (hsub.map Prod.fst).trans (List.sublist_append_left _ _)
  | flagChanged | counterChanged | dispatch | present => exact List.sublist_append_left _ _

/-- Places are asked for under the tickets among the effects. -/
theorem pending_follow_sublist (d : Director σ) (run : Run) (q : Progress) (es : List Effect) :
    ((d.follow h run q es).pending.map Prod.fst).Sublist
      (d.pending.map Prod.fst ++ asked es) := by
  refine follow_effects_induction (P := fun done e =>
    (e.pending.map Prod.fst).Sublist (d.pending.map Prod.fst ++ asked done))
    (fun {done e} effect he => ?_) (List.sublist_append_left _ _) es
  rw [asked, List.filterMap_append, ← List.append_assoc]
  exact (pending_carryOut_sublist run.scene.id run.id e effect).trans (he.append_right _)

/-! ### Fresh tickets -/

/-- **The tickets that have been given out** differ from each other and belong to runs that have
been started, and those of the last run are all that it has counted. -/
structure Ticketed (h : Host σ) (us : List Ticket) (d : Director σ) : Prop where
  nodup : us.Nodup
  exists_run : ∀ t ∈ us, ∃ n < d.started, t.run = h.ids.run n
  /-- The ticket of the current suspension is one of them. -/
  current : ∀ t, d.ticket? = some t → t ∈ us
  /-- So are those under which a place is still to be asked for. -/
  pending : ∀ request ∈ d.pending, request.1 ∈ us
  last : ∀ run, d.run = some run → ∃ n, d.started = n + 1 ∧ run.id = h.ids.run n
  counted : ∀ run, d.run = some run → ∀ k,
    (∃ t ∈ us, t.run = run.id ∧ t.number = k) ↔ 0 < k ∧ k ≤ run.tickets

/-- What is said of a director depends on its last run and on the places to be asked for. -/
theorem Ticketed.congr {d e : Director σ} (hus : Ticketed h us d) (hrun : e.run = d.run)
    (hstarted : e.started = d.started) (hpending : ∀ request ∈ e.pending, request ∈ d.pending) :
    Ticketed h us e where
  nodup := hus.nodup
  exists_run := by rw [hstarted]; exact hus.exists_run
  current := by rw [ticket?, hrun]; exact hus.current
  pending request hmem := hus.pending request (hpending request hmem)
  last := by rw [hrun, hstarted]; exact hus.last
  counted := by rw [hrun]; exact hus.counted

/-- No ticket has been given out in the beginning. -/
theorem ticketed_nil (s : σ) : Ticketed h [] { stage := s } where
  nodup := .nil
  exists_run _ ht := by cases ht
  current _ ht := by cases ht
  pending _ ht := by cases ht
  last _ hrun := by cases hrun
  counted _ hrun := by cases hrun

/-- Following a turn of the last run adds its tickets, which are numbered behind those that the
run had given out. -/
theorem ticketed_follow {d : Director σ} {run : Run} (q : Progress) {es : List Effect} {n m : Nat}
    (hstarted : d.started = n + 1) (hid : run.id = h.ids.run n) (hnodup : us.Nodup)
    (hruns : ∀ t ∈ us, ∃ k < d.started, t.run = h.ids.run k)
    (hpending : ∀ request ∈ d.pending, request.1 ∈ us)
    (hold : ∀ k, (∃ t ∈ us, t.run = run.id ∧ t.number = k) ↔ 0 < k ∧ k ≤ m)
    (hnew : Consecutive run.id m (asked es ++ run.ticket?.toList) run.tickets) :
    Ticketed h (us ++ (asked es ++ run.ticket?.toList)) (d.follow h run q es) where
  nodup := by
    refine hnodup.append hnew.nodup fun t ht ht' => ?_
    -- A ticket of both lists would be numbered up to `m`, and behind it.
    have hle := (hold t.number).mp ⟨t, ht, hnew.run_eq t ht', rfl⟩
    have hlt := hnew.mem_bounds ht'
    omega
  exists_run t ht := by
    rw [started_follow]
    rcases List.mem_append.mp ht with ht | ht
    · exact hruns t ht
    · exact ⟨n, by omega, (hnew.run_eq t ht).trans hid⟩
  current t ht := by
    rw [ticket?_follow] at ht
    exact List.mem_append_right _ (List.mem_append_right _ (Option.mem_toList.mpr ht))
  pending request hmem := by
    have hsub := (pending_follow_sublist d run q es).subset (List.mem_map_of_mem hmem)
    rcases List.mem_append.mp hsub with hold | hnew
    · obtain ⟨earlier, hearlier, heq⟩ := List.mem_map.mp hold
      rw [← heq]
      exact List.mem_append_left _ (hpending earlier hearlier)
    · exact List.mem_append_right _ (List.mem_append_left _ hnew)
  last run' hrun := by
    rw [run_follow, Option.some.injEq] at hrun
    rw [started_follow]
    exact ⟨n, hstarted, hrun ▸ hid⟩
  counted run' hrun k := by
    rw [run_follow, Option.some.injEq] at hrun
    subst hrun
    have hle := hnew.le_count
    constructor
    · rintro ⟨t, ht, hrun, rfl⟩
      rcases List.mem_append.mp ht with ht | ht
      · have hbounds := (hold t.number).mp ⟨t, ht, hrun, rfl⟩
        omega
      · have hbounds := hnew.mem_bounds ht
        omega
    · rintro ⟨hpos, hk⟩
      -- The numbers up to `m` are those of old tickets, and those behind it are new.
      by_cases hkm : k ≤ m
      · obtain ⟨t, ht, hrun, hnumber⟩ := (hold k).mpr ⟨hpos, hkm⟩
        exact ⟨t, List.mem_append_left _ ht, hrun, hnumber⟩
      · obtain ⟨t, ht, hnumber⟩ := (hnew.exists_number_iff k).mpr ⟨by omega, hk⟩
        exact ⟨t, List.mem_append_right _ ht, hnew.run_eq t ht, hnumber⟩

/-- A deed may start a run, and takes none back. -/
theorem Deed.started_le {d e : Director σ} {ts : List Ticket} (hd : Deed h d ts e) :
    d.started ≤ e.started := by
  cases hd with
  | manage | withdraw | writeFlag | setCounter => exact Nat.le_refl _
  | locate ticket anchor =>
      obtain ⟨stage, run, heq, -⟩ := exists_locate h d ticket anchor
      exact Nat.le_of_eq (congrArg Director.started heq).symm
  | interrupt | answer => exact Nat.le_of_eq (started_follow _ _ _ _).symm
  | debut scene hidle =>
      rw [Director.debut, started_follow]
      exact Nat.le_succ d.started

/-- **Every deed gives out tickets that have not been given out before**, as long as runs are told
apart by their identifiers. -/
theorem Deed.ticketed {d e : Director σ} {ts : List Ticket} (hd : Deed h d ts e)
    (hus : Ticketed h us d) (hids : h.ids.RunsDiffer e.started) : Ticketed h (us ++ ts) e := by
  cases hd with
  | manage | writeFlag | setCounter =>
      rw [List.append_nil]
      exact hus.congr rfl rfl fun _ hmem => hmem
  | withdraw =>
      rw [List.append_nil]
      exact hus.congr rfl rfl fun _ hmem => absurd hmem List.not_mem_nil
  | locate ticket anchor =>
      rw [List.append_nil]
      -- A rectangle gives the run no ticket and takes none from it.
      obtain ⟨stage, run, heq, rfl | ⟨run', rect, hrun', rfl⟩⟩ :=
        exists_locate h d ticket anchor
      · rw [heq]
        exact hus.congr rfl rfl fun _ hmem => hmem
      · obtain ⟨highlight, state, presented, heq'⟩ := run'.exists_applyGeometry ticket rect
        rw [heq, heq']
        refine ⟨hus.nodup, hus.exists_run, fun t ht => hus.current t ?_, hus.pending, ?_, ?_⟩
        · rw [ticket?, hrun']
          exact ht
        · rintro _ ⟨⟩
          exact hus.last run' hrun'
        · rintro _ ⟨⟩
          exact hus.counted run' hrun'
  | @interrupt run hrun hactive =>
      obtain ⟨n, hstarted, hid⟩ := hus.last run hrun
      have hnumbers := Run.numbers_interrupt hactive d.progress
      have hnew := hnumbers.consecutive
      have hnone := hnew
      rw [run.tickets_interrupt] at hnone
      -- Breaking off counts no ticket, so that there is no new one.
      rw [← hnone.eq_nil]
      refine ticketed_follow d.progress hstarted (hnumbers.id_eq.trans hid) hus.nodup
        hus.exists_run hus.pending (m := run.tickets) ?_ ?_
      · rw [hnumbers.id_eq]
        exact hus.counted run hrun
      · rw [hnumbers.id_eq]
        exact hnew
  | @answer run turn hrun hturn =>
      obtain ⟨n, hstarted, hid⟩ := hus.last run hrun
      have hnumbers := hturn.numbers
      refine ticketed_follow turn.progress hstarted (hnumbers.id_eq.trans hid) hus.nodup
        hus.exists_run hus.pending (m := run.tickets) ?_ ?_
      · rw [hnumbers.id_eq]
        exact hus.counted run hrun
      · rw [hnumbers.id_eq]
        exact hnumbers.consecutive
  | debut scene hidle =>
      have hnumbers := Run.numbers_advance_start (h.ids.run d.started) scene d.progress
        (d.progress.touch scene.id (h.now d.stage).1.stamp)
      rw [Director.debut, started_follow] at hids
      refine ticketed_follow (d := d.announce h scene) (d.opening h scene).progress
        (n := d.started) (m := 0) rfl hnumbers.id_eq hus.nodup ?_ hus.pending ?_ ?_
      · intro t ht
        obtain ⟨k, hk, hrun⟩ := hus.exists_run t ht
        exact ⟨k, Nat.lt_succ_of_lt hk, hrun⟩
      · intro k
        constructor
        · -- The identifier of the new run is not that of any ticket.
          rintro ⟨t, ht, hrun, -⟩
          obtain ⟨m, hm, hrun'⟩ := hus.exists_run t ht
          rw [hrun', opening, hnumbers.id_eq] at hrun
          have := hids m (Nat.lt_succ_of_lt hm) d.started (Nat.lt_succ_self _) hrun
          omega
        · intro hk
          omega
      · rw [opening, hnumbers.id_eq]
        exact hnumbers.consecutive

/-- No place is asked for under two requests. -/
theorem Deed.nodup_pending {d e : Director σ} {ts : List Ticket} (hd : Deed h d ts e)
    (hus : Ticketed h us d) (hids : h.ids.RunsDiffer e.started)
    (hnodup : (d.pending.map Prod.fst).Nodup) : (e.pending.map Prod.fst).Nodup := by
  obtain ⟨-, hts, hfresh⟩ := List.nodup_append'.mp (hd.ticketed hus hids).nodup
  have hfollow : ∀ {f : Director σ} {run : Run} {q : Progress} {es : List Effect},
      f.pending = d.pending → (asked es).Sublist ts →
        ((f.follow h run q es).pending.map Prod.fst).Nodup := by
    intro f run q es hpending hasked
    refine (hnodup.append (hts.sublist hasked) fun t ht ht' => ?_).sublist
      (hpending ▸ pending_follow_sublist f run q es)
    obtain ⟨request, hmem, rfl⟩ := List.mem_map.mp ht
    exact hfresh (hus.pending request hmem) (hasked.subset ht')
  cases hd with
  | manage | writeFlag | setCounter => exact hnodup
  | withdraw => exact .nil
  | locate ticket anchor =>
      obtain ⟨stage, run, heq, -⟩ := exists_locate h d ticket anchor
      rw [heq]
      exact hnodup
  | @interrupt run hrun hactive =>
      have hnew := (Run.numbers_interrupt hactive d.progress).consecutive
      rw [run.tickets_interrupt] at hnew
      exact hfollow rfl (List.sublist_nil.mpr (List.append_eq_nil_iff.mp hnew.eq_nil).1)
  | answer => exact hfollow rfl (List.sublist_append_left _ _)
  | debut => exact hfollow rfl (List.sublist_append_left _ _)

/-- The current ticket was the current one before, or has been given out since. -/
theorem Deed.ticket? {d e : Director σ} {ts : List Ticket} (hd : Deed h d ts e) {t : Ticket}
    (ht : e.ticket? = some t) : d.ticket? = some t ∨ t ∈ ts := by
  cases hd with
  | manage | withdraw | writeFlag | setCounter => exact .inl ht
  | locate ticket anchor =>
      obtain ⟨stage, run, heq, rfl | ⟨run', rect, hrun', rfl⟩⟩ :=
        exists_locate h d ticket anchor
      · rw [heq] at ht
        exact .inl ht
      · obtain ⟨highlight, state, presented, heq'⟩ := run'.exists_applyGeometry ticket rect
        rw [heq, heq'] at ht
        rw [Director.ticket?, hrun']
        exact .inl ht
  | @interrupt run hrun hactive =>
      rw [ticket?_follow, Run.ticket?_interrupt hactive] at ht
      cases ht
  | answer =>
      rw [ticket?_follow] at ht
      exact .inr (List.mem_append_right _ (Option.mem_toList.mpr ht))
  | debut scene hidle =>
      rw [Director.debut, ticket?_follow] at ht
      exact .inr (List.mem_append_right _ (Option.mem_toList.mpr ht))

/-! ### Answers -/

section Perform

variable {ω : Type} {store : Store (StateM ω)}

/-- A director keeps the run of the turn that a cue leads to. -/
theorem run_of_perform (store : Store (StateM ω)) (w : ω) (d : Director σ) {cue : Cue}
    {turn : Turn} (hturn : d.turn? h cue = some turn) :
    ((d.perform h store cue).run w).1.2.run = some turn.run := by
  cases cue with
  | notice e =>
      obtain ⟨scene, hscene, rfl⟩ := Option.map_eq_some_iff.mp hturn
      change (d.notice h e).2.run = _
      rw [notice, hscene]
      exact run_follow _ _ _ _
  | start id =>
      obtain ⟨scene, hscene, rfl⟩ := Option.map_eq_some_iff.mp hturn
      change (d.start h id).2.run = _
      rw [start, hscene]
      exact run_follow _ _ _ _
  | choose option =>
      obtain ⟨run, hrun, hchosen⟩ := Option.bind_eq_some_iff.mp hturn
      change (d.choose h option).2.run = _
      rw [choose, hrun]
      dsimp only
      cases hresult : run.choose d.progress option with
      | error fault => rw [hresult] at hchosen; cases hchosen
      | ok turn' =>
          rw [hresult] at hchosen
          cases hchosen
          exact run_follow _ _ _ _
  | acknowledge =>
      change (d.take h (d.turn? h .acknowledge)).2.run = _
      rw [hturn]
      exact run_follow _ _ _ _
  | resume ticket =>
      change (d.take h (d.turn? h (.resume ticket))).2.run = _
      rw [hturn]
      exact run_follow _ _ _ _
  | setFlag flag value =>
      change (d.setFlag h flag value).run = _
      rw [setFlag_eq]
      change ((d.writeFlag h flag value).take h (d.turn? h (.setFlag flag value))).2.run = _
      rw [hturn]
      exact run_follow _ _ _ _
  | load | flush | resolve | settle | register | unregister | stop | setCounter | takeEvents =>
      cases hturn

/-- A ticket that is not accepted changes nothing. -/
theorem perform_resume (h : Host σ) (store : Store (StateM ω)) (w : ω) (d : Director σ)
    (t : Ticket) :
    (d.turn? h (.resume t) = none ∧
      (d.perform h store (.resume t)).run w = ((.answer false, d), w)) ∨
    ((∃ turn, d.turn? h (.resume t) = some turn) ∧
      ((d.perform h store (.resume t)).run w).1.1 = .answer true) := by
  cases hturn : d.turn? h (.resume t) with
  | none =>
      refine .inl ⟨rfl, ?_⟩
      change ((Reply.answer (d.take h (d.turn? h (.resume t))).1,
        (d.take h (d.turn? h (.resume t))).2), w) = _
      rw [hturn]
      rfl
  | some turn =>
      refine .inr ⟨⟨turn, rfl⟩, ?_⟩
      change Reply.answer (d.take h (d.turn? h (.resume t))).1 = _
      rw [hturn]
      rfl

/-- **Which tickets are accepted**: that of the current suspension, if it is a timed wait. -/
theorem resume_iff {d : Director σ} (hcoherent : ∀ run, d.run = some run → run.Coherent)
    (t : Ticket) (w : ω) :
    ((d.perform h store (.resume t)).run w).1.1 = .answer true ↔
      ∃ run ms, d.activeRun? = some run ∧ run.state.isWaiting = true ∧
        run.currentStep? = some (.wait ms) ∧ d.ticket? = some t := by
  have hreply : ((d.perform h store (.resume t)).run w).1.1 = .answer true ↔
      ∃ turn, d.turn? h (.resume t) = some turn := by
    rcases perform_resume h store w d t with ⟨hnone, heq⟩ | ⟨hturn, heq⟩
    · rw [heq, hnone]
      refine ⟨fun hfalse => ?_, fun ⟨_, hturn⟩ => ?_⟩
      · cases hfalse
      · cases hturn
    · exact ⟨fun _ => hturn, fun _ => heq⟩
  rw [hreply]
  constructor
  · rintro ⟨turn, hturn⟩
    obtain ⟨run, hrun, hturn⟩ := Option.bind_eq_some_iff.mp hturn
    rw [Run.resumeTimer?] at hturn
    split at hturn
    · next ms hstate =>
      split at hturn
      · next hticket =>
        -- That the step is a timed wait is what coherence makes of the state.
        obtain ⟨hwaiting, hstep⟩ := ((hcoherent run hrun).timer_iff ms).mp hstate
        refine ⟨run, ms, ?_, hwaiting, hstep, ?_⟩
        · rw [activeRun?, hrun, Option.filter_some, hstate]
          rfl
        · rw [ticket?, hrun, Option.bind_some, hticket]
      · cases hturn
    · cases hturn
  · rintro ⟨run, ms, hactive, hwaiting, hstep, hticket⟩
    obtain ⟨hrun, -⟩ := Option.filter_eq_some_iff.mp hactive
    have hstate := ((hcoherent run hrun).timer_iff ms).mpr ⟨hwaiting, hstep⟩
    rw [ticket?, hrun, Option.bind_some] at hticket
    refine ⟨run.proceed d.progress, ?_⟩
    rw [turn?, hrun, Option.bind_some, Run.resumeTimer?, hstate]
    dsimp only
    rw [if_pos hticket]

end Perform

/-! ### Histories -/

section History

variable {ω : Type} {store : Store (StateM ω)} {w w₀ w' w'' : ω} {s : σ} {d e f : Director σ}
  {past more rest : List (Episode σ)}

/-- Tickets are given out in the order of the episodes. -/
theorem given_append (past more : List (Episode σ)) :
    given h (past ++ more) = given h past ++ given h more := List.flatMap_append

/-- In one episode those tickets are given out that its cue makes the director issue. -/
theorem given_singleton (ep : Episode σ) : given h [ep] = ep.before.issued h ep.cue :=
  List.flatMap_singleton _ _

namespace History

/-- In the course of a history no start is taken back. -/
theorem started_le (hist : History h store d w past e w') : d.started ≤ e.started :=
  hist.induction (P := fun _ _ e => d.started ≤ e.started) (fun _ hd => hd) (fun hd => hd)
    (fun _ _ _ hd => hd) (fun hdeed hd => Nat.le_trans hd hdeed.started_le) (Nat.le_refl _)

/-- The tickets that have been given out in the course of a history differ from each other. -/
theorem ticketed (hist : History h store { stage := s } w past e w')
    (hids : h.ids.RunsDiffer e.started) : Ticketed h (given h past) e :=
  hist.induction (P := fun _ us d => h.ids.RunsDiffer d.started → Ticketed h us d)
    (fun _ hd hids => (hd hids).congr rfl rfl fun _ hmem => hmem)
    (fun hd hids => (hd hids).congr rfl rfl fun _ hmem => hmem)
    (fun _ _ _ hd hids => (hd hids).congr rfl rfl fun _ hmem => hmem)
    (fun hdeed hd hids => hdeed.ticketed (hd (hids.mono hdeed.started_le)) hids)
    (fun _ => ticketed_nil s) hids

/-- Whatever has happened, no place is asked for under two requests. -/
theorem nodup_pending (hist : History h store { stage := s } w past e w')
    (hids : h.ids.RunsDiffer e.started) : (e.pending.map Prod.fst).Nodup := by
  refine (hist.induction (P := fun _ us d => h.ids.RunsDiffer d.started →
    Ticketed h us d ∧ (d.pending.map Prod.fst).Nodup) ?_ ?_ ?_ ?_ ?_ hids).2
  · exact fun _ hd hids => ⟨(hd hids).1.congr rfl rfl fun _ hmem => hmem, (hd hids).2⟩
  · exact fun hd hids => ⟨(hd hids).1.congr rfl rfl fun _ hmem => hmem, (hd hids).2⟩
  · exact fun _ _ _ hd hids => ⟨(hd hids).1.congr rfl rfl fun _ hmem => hmem, (hd hids).2⟩
  · intro _ us d f ts hdeed hd hids
    obtain ⟨hus, hnodup⟩ := hd (hids.mono hdeed.started_le)
    exact ⟨hdeed.ticketed hus hids, hdeed.nodup_pending hus hids hnodup⟩
  · exact fun _ => ⟨ticketed_nil s, .nil⟩

/-- The current ticket was the current one at the beginning, or has been given out since. -/
theorem ticket? (hist : History h store d w past e w') {t : Ticket} (ht : e.ticket? = some t) :
    d.ticket? = some t ∨ t ∈ given h past :=
  hist.induction (P := fun _ us e => e.ticket? = some t → d.ticket? = some t ∨ t ∈ us)
    (fun _ hd => hd) (fun hd => hd) (fun _ _ _ hd => hd)
    (fun hdeed hd ht => by
      rcases hdeed.ticket? ht with ht | ht
      · rcases hd ht with hd | hd
        · exact .inl hd
        · exact .inr (List.mem_append_left _ hd)
      · exact .inr (List.mem_append_right _ ht))
    (fun ht => .inl ht) ht

/-- What has been given out is not given out again. -/
theorem not_mem_given (hist : History h store { stage := s } w past e w')
    (later : History h store e w' more f w'') (hids : h.ids.RunsDiffer f.started) {t : Ticket}
    (ht : t ∈ given h past) : t ∉ given h more := by
  have hnodup := ((hist.trans later).ticketed hids).nodup
  rw [given_append] at hnodup
  exact fun hmem => (List.nodup_append.mp hnodup).2.2 t ht t hmem rfl

/-- **A ticket that is no longer current never becomes so again.** -/
theorem ticket?_ne (hist : History h store { stage := s } w past e w')
    (later : History h store e w' more f w'') (hids : h.ids.RunsDiffer f.started) {t : Ticket}
    (ht : t ∈ given h past) (hstale : e.ticket? ≠ some t) : f.ticket? ≠ some t := by
  intro hcurrent
  rcases later.ticket? hcurrent with hcurrent | hmem
  · exact hstale hcurrent
  · exact hist.not_mem_given later hids ht hmem

end History

namespace History

variable {ep : Episode σ}

/-- The run goes on, or another one begins, under another ticket. -/
theorem renewed (hist : History h store { stage := s } w (past ++ ep :: more) e w')
    (hids : h.ids.RunsDiffer e.started) {t : Ticket} (ht : t ∈ given h past) {turn : Turn}
    (hturn : ep.before.turn? h ep.cue = some turn) : ep.after.ticket? ≠ some t := by
  obtain ⟨e₁, stage, w₁, w₂, hpast, -, hp, hone, hmore⟩ := hist.episode
  intro hafter
  have hrun := run_of_perform store w₁ ep.before hturn
  rw [hp] at hrun
  rw [Director.ticket?, hrun, Option.bind_some] at hafter
  refine hpast.not_mem_given hone (hids.mono hmore.started_le) ht ?_
  rw [given_singleton, issued, hturn]
  exact List.mem_append_right _ (Option.mem_toList.mpr hafter)

/-- The run of a director is coherent, whatever has happened. -/
theorem coherent (hist : History h store { stage := s } w past e w') {run : Run}
    (hrun : e.run = some run) : run.Coherent :=
  (hist.reachable hrun).coherent

/-- The current ticket is that of the active run, which waits at the step that it names. -/
theorem exists_activeRun (hist : History h store { stage := s } w past e w') {t : Ticket}
    (ht : e.ticket? = some t) :
    ∃ run, e.activeRun? = some run ∧ run.state.isWaiting = true ∧ t.run = run.id ∧
      t.step = run.index := by
  obtain ⟨run, hrun, ht⟩ := Option.bind_eq_some_iff.mp ht
  have hcoherent := hist.coherent hrun
  have hwaiting := hcoherent.isSome_ticket_iff.mp (Option.isSome_of_eq_some ht)
  refine ⟨run, ?_, hwaiting, hcoherent.ticket t ht⟩
  rw [activeRun?, hrun, Option.filter_some, if_pos]
  cases hstate : run.state with
  | idle | running | ended => rw [hstate] at hwaiting; cases hwaiting
  | waitingForChoice | waiting => rfl

/-- Which tickets are accepted at an episode. -/
theorem accepted_iff (hist : History h store { stage := s } w (past ++ ep :: more) e w')
    {t : Ticket} (hcue : ep.cue = .resume t) :
    ep.reply = .answer true ↔ ∃ run ms, ep.before.activeRun? = some run ∧
      run.state.isWaiting = true ∧ run.currentStep? = some (.wait ms) ∧
      ep.before.ticket? = some t := by
  obtain ⟨e₁, stage, w₁, w₂, hpast, hbefore, hp, -, -⟩ := hist.episode
  have hreply : ep.reply = ((ep.before.perform h store (.resume t)).run w₁).1.1 := by
    rw [← hcue, hp]
  rw [hreply]
  refine resume_iff (fun run hrun => hpast.coherent ?_) t w₁
  rw [hbefore] at hrun
  exact hrun

/-- A ticket that is accepted had been given out, and is not current any more. -/
theorem used (hist : History h store { stage := s } w (past ++ ep :: more) e w')
    (hids : h.ids.RunsDiffer e.started) {t : Ticket} (hcue : ep.cue = .resume t)
    (hreply : ep.reply = .answer true) :
    t ∈ given h (past ++ [ep]) ∧ ep.after.ticket? ≠ some t := by
  obtain ⟨e₁, stage, w₁, w₂, hpast, hbefore, hp, hone, hlater⟩ := hist.episode
  obtain ⟨run, ms, -, -, -, hticket⟩ := (hist.accepted_iff hcue).mp hreply
  rw [hbefore] at hticket
  have hids₁ := hids.mono (Nat.le_trans hone.started_le hlater.started_le)
  have hgiven : t ∈ given h past := (hpast.ticketed hids₁).current t hticket
  refine ⟨?_, ?_⟩
  · rw [given_append]
    exact List.mem_append_left _ hgiven
  · rcases perform_resume h store w₁ ep.before t with ⟨-, heq⟩ | ⟨⟨turn, hturn⟩, -⟩
    · rw [← hcue, hp, hreply] at heq
      cases heq
    · rw [← hcue] at hturn
      exact hist.renewed hids hgiven hturn

/-- A ticket that has been given out and is not current does nothing. -/
theorem refused (hist : History h store { stage := s } w (past ++ ep :: more) e w')
    {t : Ticket} (hstale : ep.before.ticket? ≠ some t) (hcue : ep.cue = .resume t) :
    ep.reply = .answer false ∧ ep.after = ep.before := by
  obtain ⟨e₁, stage, w₁, w₂, hpast, hbefore, hp, -, -⟩ := hist.episode
  rw [hcue] at hp
  rcases perform_resume h store w₁ ep.before t with ⟨-, heq⟩ | ⟨-, heq⟩
  · rw [heq, Prod.mk.injEq, Prod.mk.injEq] at hp
    exact ⟨hp.1.1.symm, hp.1.2.symm⟩
  · rw [hp] at heq
    obtain ⟨run, ms, -, -, -, hticket⟩ := (hist.accepted_iff hcue).mp heq
    exact absurd hticket hstale

/-- A ticket that has been given out and is not current does nothing from then on. -/
theorem stale (hist : History h store { stage := s } w past d w₀)
    (later : History h store d w₀ (more ++ ep :: rest) f w'') (hids : h.ids.RunsDiffer f.started)
    {t : Ticket} (ht : t ∈ given h past) (hstale : d.ticket? ≠ some t) :
    ep.before.ticket? ≠ some t ∧
      (ep.cue = .resume t → ep.reply = .answer false ∧ ep.after = ep.before) := by
  obtain ⟨e₁, stage, w₁, w₂, hmore, hbefore, -, hone, hrest⟩ := later.episode
  have hids' := hids.mono (hone.trans hrest).started_le
  have hne : ep.before.ticket? ≠ some t := by
    rw [hbefore]
    exact hist.ticket?_ne hmore hids' ht hstale
  have hall := hist.trans later
  rw [← List.append_assoc] at hall
  exact ⟨hne, hall.refused hne⟩

/-- Between two moments at which a ticket is current, the run does not move. -/
theorem one_suspension (hist : History h store { stage := s } w past d w₀)
    (later : History h store d w₀ (more ++ ep :: rest) f w'') (hids : h.ids.RunsDiffer f.started)
    {t : Ticket} (ht : d.ticket? = some t) (ht' : f.ticket? = some t) :
    ep.before.turn? h ep.cue = none ∧ ep.before.ticket? = some t ∧ ep.after.ticket? = some t := by
  obtain ⟨e₁, stage, w₁, w₂, hmore, hbefore, -, hone, hrest⟩ := later.episode
  have hids₂ := hids.mono hrest.started_le
  have hids₁ := hids₂.mono hone.started_le
  have hids₀ := hids₁.mono hmore.started_le
  have hgiven : t ∈ given h past := (hist.ticketed hids₀).current t ht
  have hgiven₁ : t ∈ given h (past ++ more) := by
    rw [given_append]
    exact List.mem_append_left _ hgiven
  have hgiven₂ : t ∈ given h (past ++ more ++ [ep]) := by
    rw [given_append]
    exact List.mem_append_left _ hgiven₁
  have hafter : ep.after.ticket? = some t := by
    by_contra hne
    exact ((hist.trans hmore).trans hone).ticket?_ne hrest hids hgiven₂ hne ht'
  have hticket : e₁.ticket? = some t := by
    by_contra hne
    exact (hist.trans hmore).ticket?_ne hone hids₂ hgiven₁ hne hafter
  refine ⟨?_, by rw [hbefore]; exact hticket, hafter⟩
  cases hturn : ep.before.turn? h ep.cue with
  | none => rfl
  | some turn =>
      have hall := hist.trans later
      rw [← List.append_assoc] at hall
      exact absurd hafter (hall.renewed hids hgiven₁ hturn)

end History

/-- **Each ticket is used once.** -/
structure SingleUse (h : Host σ) (past : List (Episode σ)) : Prop where
  /-- All tickets differ. -/
  nodup : (given h past).Nodup
  /-- No ticket is left out: that of a suspension has been given out, so have those under which
  places are asked for, and so have all that the run has counted. -/
  mem_given : ∀ earlier ep later, past = earlier ++ ep :: later →
    (∀ t, ep.after.ticket? = some t → t ∈ given h (earlier ++ [ep])) ∧
    (∀ request ∈ ep.after.pending, request.1 ∈ given h (earlier ++ [ep])) ∧
    ∀ run, ep.after.run = some run → ∀ k,
      (∃ t ∈ given h (earlier ++ [ep]), t.run = run.id ∧ t.number = k) ↔
        0 < k ∧ k ≤ run.tickets
  /-- The current ticket is that of the active run, which waits at the step that it names. -/
  of_active : ∀ ep ∈ past, ∀ t, ep.after.ticket? = some t →
    ∃ run, ep.after.activeRun? = some run ∧ run.state.isWaiting = true ∧ t.run = run.id ∧
      t.step = run.index
  /-- The run goes on, or another one begins, under another ticket. -/
  renewed : ∀ ep ∈ past, ∀ t, ep.before.ticket? = some t →
    ep.before.turn? h ep.cue ≠ none → ep.after.ticket? ≠ some t
  /-- Between two moments at which a ticket is current, it is so all the time, and the run does not
  move: it is one suspension. -/
  one_suspension : ∀ earlier ep between ep' later t,
    past = earlier ++ ep :: (between ++ ep' :: later) →
    ep.after.ticket? = some t → ep'.after.ticket? = some t →
      ∀ ep'' ∈ between ++ [ep'], ep''.before.turn? h ep''.cue = none ∧
        ep''.before.ticket? = some t ∧ ep''.after.ticket? = some t
  /-- A ticket is accepted exactly if it is that of the suspension, and the suspension is a timed
  wait. -/
  accepted_iff : ∀ ep ∈ past, ∀ t, ep.cue = .resume t →
    (ep.reply = .answer true ↔ ∃ run ms, ep.before.activeRun? = some run ∧
      run.state.isWaiting = true ∧ run.currentStep? = some (.wait ms) ∧
      ep.before.ticket? = some t)
  /-- A ticket is accepted at most once. -/
  accepted_once : ∀ earlier ep between ep' later t,
    past = earlier ++ ep :: (between ++ ep' :: later) →
    ep.cue = .resume t → ep.reply = .answer true → ep'.cue = .resume t →
      ep'.reply = .answer false
  /-- A ticket that has been given out and is not current does nothing from then on. -/
  stale : ∀ earlier ep later t, past = earlier ++ ep :: later →
    t ∈ given h (earlier ++ [ep]) → ep.after.ticket? ≠ some t →
      ∀ ep' ∈ later, ep'.before.ticket? ≠ some t ∧
        (ep'.cue = .resume t → ep'.reply = .answer false ∧ ep'.after = ep'.before)

/-- **A ticket answers one suspension, once**, whatever a director is told in the course of a
history, as long as its runs are told apart by their identifiers. -/
theorem History.singleUse (hist : History h store { stage := s } w past e w')
    (hids : h.ids.RunsDiffer e.started) : SingleUse h past where
  nodup := (hist.ticketed hids).nodup
  mem_given := by
    rintro earlier ep later rfl
    obtain ⟨e₁, stage, w₁, w₂, hpast, -, -, hone, hlater⟩ := hist.episode
    have hus := (hpast.trans hone).ticketed (hids.mono hlater.started_le)
    exact ⟨hus.current, hus.pending, hus.counted⟩
  of_active := by
    intro ep hep t ht
    obtain ⟨earlier, later, rfl⟩ := List.append_of_mem hep
    obtain ⟨e₁, stage, w₁, w₂, hpast, -, -, hone, -⟩ := hist.episode
    exact (hpast.trans hone).exists_activeRun ht
  renewed := by
    intro ep hep t ht hturn
    obtain ⟨earlier, later, rfl⟩ := List.append_of_mem hep
    obtain ⟨turn, hturn⟩ := Option.ne_none_iff_exists'.mp hturn
    obtain ⟨e₁, stage, w₁, w₂, hpast, hbefore, -, hone, hlater⟩ := hist.episode
    rw [hbefore] at ht
    have hids₁ := hids.mono (Nat.le_trans hone.started_le hlater.started_le)
    exact hist.renewed hids ((hpast.ticketed hids₁).current t ht) hturn
  one_suspension := by
    rintro earlier ep between ep' later t rfl ht ht' ep'' hep''
    obtain ⟨e₁, stage, w₁, w₂, hpast, -, -, hone, hlater⟩ := hist.episode
    rw [List.append_cons] at hlater
    obtain ⟨g, w₃, hbetween, hrest⟩ := hlater.split
    have hlast : g = ep'.after := by
      obtain ⟨_, _, _, -, -, -, heq⟩ := hbetween.last
      exact heq
    obtain ⟨front, back, hsplit⟩ := List.append_of_mem hep''
    rw [hsplit] at hbetween
    exact (hpast.trans hone).one_suspension hbetween (hids.mono hrest.started_le) ht (hlast ▸ ht')
  accepted_iff := by
    intro ep hep t hcue
    obtain ⟨earlier, later, rfl⟩ := List.append_of_mem hep
    exact hist.accepted_iff hcue
  accepted_once := by
    rintro earlier ep between ep' later t rfl hcue hreply hcue'
    obtain ⟨hgiven, hne⟩ := hist.used hids hcue hreply
    obtain ⟨e₁, stage, w₁, w₂, hpast, -, -, hone, hlater⟩ := hist.episode
    exact (((hpast.trans hone).stale hlater hids hgiven hne).2 hcue').1
  stale := by
    rintro earlier ep later t rfl ht hstale ep' hep'
    obtain ⟨e₁, stage, w₁, w₂, hpast, -, -, hone, hlater⟩ := hist.episode
    obtain ⟨front, back, rfl⟩ := List.append_of_mem hep'
    exact (hpast.trans hone).stale hlater hids ht hstale

end History

/-- A night at the gate: the tickets of both waits of the new run are accepted, and that of the old
run, which has been broken off, is not. -/
theorem singleUse_night :
    ∃ past w, History Rehearsal.stage Records.store Rehearsal.newcomer ∅ past Rehearsal.morning w ∧
      past.map Episode.cue = Rehearsal.night ∧
      (past.map Episode.reply)[3]? = some (.answer true) ∧
      (past.map Episode.reply)[6]? = some (.answer false) ∧
      (past.map Episode.reply)[7]? = some (.answer true) ∧
      Rehearsal.stage.ids.RunsDiffer Rehearsal.morning.started ∧
      SingleUse Rehearsal.stage past := by
  obtain ⟨past, w, hist, hcues, hreplies⟩ := Rehearsal.exists_night
  have hids : Rehearsal.stage.ids.RunsDiffer Rehearsal.morning.started := by
    have hstarted : Rehearsal.morning.started = 2 := rfl
    rw [hstarted, Identities.RunsDiffer]
    decide
  refine ⟨past, w, hist, hcues, ?_, ?_, ?_, hids, hist.singleUse hids⟩ <;>
    (rw [hreplies]; rfl)

end Director

end Cutscene
