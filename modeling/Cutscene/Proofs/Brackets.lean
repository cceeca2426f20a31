import Cutscene.Director
import Mathlib.Data.List.Basic

/-!
# Runs in a Log

A log is a list of events, and an event stands at its index. A run starts at one event and ends at
another, and is open from the one to the other, both included (`OpenAt`).

What may be recorded next depends on what has been recorded: a run starts while none is open, and
is the next one; a run ends while it is open; whatever else is recorded belongs to the run that is
open, or else to the session (`Fits`). This is all that a director has to see to. That runs are
properly bracketed (`Bracketed`) follows for every log into which each event fits, provided that
the identifiers of its runs differ from each other and from that of the session.

## Main results

* `openIn_eq_some`: where a run is open, it has started, and nothing has started or ended since.
* `Fitting.start_unique`, `Fitting.end_unique`: a run starts once, and ends at most once.
* `Fitting.bracketed`: a log into which each event fits is properly bracketed.
* `Ledger.start`, `Ledger.inner`, `Ledger.close`: how to keep such a log.
-/

namespace Cutscene

variable {log : List Event} {ev : Event} {scene : String} {run : Uuid} {i j k : Nat}

/-! ### Brackets -/

/-- The run starts at the event, as a run of the scene. -/
def StartsAt (log : List Event) (scene : String) (run : Uuid) (i : Nat) : Prop :=
  ∃ ev version, log[i]? = some ev ∧ ev.occurrence = .sceneStarted scene version run

/-- The run ends at the event. -/
def EndsAt (log : List Event) (run : Uuid) (i : Nat) : Prop :=
  ∃ ev ended, log[i]? = some ev ∧ ev.occurrence = .sceneEnded ended ∧ ended.run = run

/-- At the event the run has started, and no event before it has ended the run. -/
def OpenAt (log : List Event) (run : Uuid) (k : Nat) : Prop :=
  (∃ i ≤ k, ∃ scene, StartsAt log scene run i) ∧ ∀ j < k, ¬ EndsAt log run j

/-- A run starts at an event if that is what the event says. -/
theorem startsAt_iff (hev : log[i]? = some ev) :
    StartsAt log scene run i ↔ ∃ version, ev.occurrence = .sceneStarted scene version run := by
  constructor
  · rintro ⟨ev', version, hev', ho⟩
    rw [hev, Option.some.injEq] at hev'
    exact ⟨version, hev' ▸ ho⟩
  · rintro ⟨version, ho⟩
    exact ⟨ev, version, hev, ho⟩

/-- It ends at an event if that is what the event says. -/
theorem endsAt_iff (hev : log[i]? = some ev) :
    EndsAt log run i ↔ ∃ ended, ev.occurrence = .sceneEnded ended ∧ ended.run = run := by
  constructor
  · rintro ⟨ev', ended, hev', ho, hrun⟩
    rw [hev, Option.some.injEq] at hev'
    exact ⟨ended, hev' ▸ ho, hrun⟩
  · rintro ⟨ended, ho, hrun⟩
    exact ⟨ev, ended, hev, ho, hrun⟩

/-- A run starts within the log. -/
theorem StartsAt.lt_length (hstart : StartsAt log scene run i) : i < log.length := by
  obtain ⟨ev, version, hev, -⟩ := hstart
  exact (List.getElem?_eq_some_iff.mp hev).1

/-- It ends within the log. -/
theorem EndsAt.lt_length (hend : EndsAt log run i) : i < log.length := by
  obtain ⟨ev, ended, hev, -⟩ := hend
  exact (List.getElem?_eq_some_iff.mp hev).1

/-- The identifiers of the first runs differ from each other. -/
def Identities.RunsDiffer (ids : Identities) (count : Nat) : Prop :=
  ∀ m < count, ∀ n < count, ids.run m = ids.run n → m = n

/-- The identifiers of the first runs differ from each other and from that of the session. -/
structure Identities.Distinct (ids : Identities) (count : Nat) : Prop where
  runs_differ : ids.RunsDiffer count
  run_ne_session : ∀ n < count, ids.run n ≠ ids.session

/-- **The runs are properly bracketed.** So many have been started, and the last of them may still
be open. -/
structure Bracketed (ids : Identities) (log : List Event) (count : Nat)
    (open? : Option (String × Uuid)) : Prop where
  /-- Each of the runs has started. -/
  exists_start : ∀ n < count, ∃ i scene, StartsAt log scene (ids.run n) i
  /-- A run starts once. -/
  start_unique : ∀ run scene scene' i j, StartsAt log scene run i → StartsAt log scene' run j →
    i = j
  /-- No other run starts. -/
  exists_run : ∀ run scene i, StartsAt log scene run i → ∃ n < count, run = ids.run n
  /-- A run ends at most once. -/
  end_unique : ∀ run i j, EndsAt log run i → EndsAt log run j → i = j
  /-- A run ends after it has started. -/
  start_lt_end : ∀ run j, EndsAt log run j → ∃ i < j, ∃ scene, StartsAt log scene run i
  /-- Before another run starts, every earlier one has ended. -/
  end_lt_start : ∀ run run' scene scene' i j, StartsAt log scene run i →
    StartsAt log scene' run' j → i < j → ∃ k, i < k ∧ k < j ∧ EndsAt log run k
  /-- The events of a run are those between its start and its end. -/
  correlation_eq_iff : ∀ n < count, ∀ k ev, log[k]? = some ev →
    (ev.metadata.correlation = ids.run n ↔ OpenAt log (ids.run n) k)
  /-- Where no run is open, there are the events of the session. -/
  correlation_eq_session : ∀ k ev, log[k]? = some ev → (∀ run, ¬ OpenAt log run k) →
    ev.metadata.correlation = ids.session
  /-- The run that has not ended is the one that is said to be open. -/
  open_iff : ∀ scene run, ((∃ i, StartsAt log scene run i) ∧ ∀ j, ¬ EndsAt log run j) ↔
    open? = some (scene, run)

/-! ### What is open -/

/-- The occurrence is neither the start nor the end of a run. -/
def Occurrence.isInner : Occurrence → Bool
  | sceneStarted .. | sceneEnded _ => false
  | flagChanged .. | counterChanged .. | commandDispatched .. | commandFailed .. => true

/-- The run that is open after an event, and its scene. -/
def openAfter (open? : Option (String × Uuid)) (ev : Event) : Option (String × Uuid) :=
  match ev.occurrence with
  | .sceneStarted scene _ run => some (scene, run)
  | .sceneEnded _ => none
  | .flagChanged .. | .counterChanged .. | .commandDispatched .. | .commandFailed .. => open?

/-- The run that is open after some events, and its scene. -/
def openIn (log : List Event) : Option (String × Uuid) := log.foldl openAfter none

/-- The event starts a run. -/
def Event.isStart (ev : Event) : Bool :=
  match ev.occurrence with
  | .sceneStarted .. => true
  | .sceneEnded _ | .flagChanged .. | .counterChanged .. | .commandDispatched ..
  | .commandFailed .. => false

/-- How many runs start. -/
def startsIn (log : List Event) : Nat := log.countP Event.isStart

/-- What is open after one more event. -/
theorem openIn_concat (log : List Event) (ev : Event) :
    openIn (log ++ [ev]) = openAfter (openIn log) ev := by
  rw [openIn, List.foldl_concat, ← openIn]

/-- Later on, no fewer runs have started. -/
theorem startsIn_take_le (log : List Event) (hij : i ≤ j) :
    startsIn (log.take i) ≤ startsIn (log.take j) := by
  rw [← Nat.min_eq_left hij, ← List.take_take]
  exact (List.take_sublist _ _).countP_le

/-- One more event may start one more run. -/
theorem startsIn_concat (log : List Event) (ev : Event) :
    startsIn (log ++ [ev]) = startsIn log + if ev.isStart then 1 else 0 := by
  rw [startsIn, List.countP_append, List.countP_singleton, ← startsIn]

/-- A start counts. -/
theorem StartsAt.startsIn_lt (hstart : StartsAt log scene run i) (hij : i < j) :
    startsIn (log.take i) < startsIn (log.take j) := by
  obtain ⟨ev, version, hev, ho⟩ := hstart
  have hle := startsIn_take_le log hij
  rw [Nat.succ_eq_add_one, List.take_add_one, hev, Option.toList_some, startsIn_concat,
    Event.isStart, ho, if_pos rfl] at hle
  exact hle

/-- A run that starts is open. -/
theorem StartsAt.openIn_eq (hstart : StartsAt log scene run i) :
    openIn (log.take (i + 1)) = some (scene, run) := by
  obtain ⟨ev, version, hev, ho⟩ := hstart
  rw [List.take_add_one, hev, Option.toList_some, openIn_concat, openAfter, ho]

/-- What an event does to the run that is open. -/
theorem openIn_take_succ (log : List Event) (k : Nat) :
    (∃ scene run, StartsAt log scene run k ∧ openIn (log.take (k + 1)) = some (scene, run)) ∨
    (∃ run, EndsAt log run k ∧ openIn (log.take (k + 1)) = none) ∨
    ((∀ scene run, ¬ StartsAt log scene run k) ∧ (∀ run, ¬ EndsAt log run k) ∧
      openIn (log.take (k + 1)) = openIn (log.take k)) := by
  rw [List.take_add_one]
  cases hev : log[k]? with
  | none =>
      have hle := List.getElem?_eq_none_iff.mp hev
      refine .inr (.inr ⟨fun scene run hstart => ?_, fun run hend => ?_, ?_⟩)
      · exact absurd hstart.lt_length (Nat.not_lt.mpr hle)
      · exact absurd hend.lt_length (Nat.not_lt.mpr hle)
      · rw [Option.toList_none, List.append_nil]
  | some ev =>
      simp only [startsAt_iff hev, endsAt_iff hev]
      rw [Option.toList_some, openIn_concat, openAfter]
      cases ev.occurrence with
      | sceneStarted scene version run => exact .inl ⟨scene, run, ⟨version, rfl⟩, rfl⟩
      | sceneEnded ended => exact .inr (.inl ⟨ended.run, ⟨ended, rfl, rfl⟩, rfl⟩)
      | flagChanged | counterChanged | commandDispatched | commandFailed =>
          refine .inr (.inr ⟨?_, ?_, rfl⟩)
          · rintro scene run ⟨version, ⟨⟩⟩
          · rintro run ⟨ended, ⟨⟩, -⟩

/-- **Where a run is open, it has started, and nothing has started or ended since.** -/
theorem openIn_eq_some (hopen : openIn (log.take k) = some (scene, run)) :
    ∃ i < k, StartsAt log scene run i ∧
      ∀ j, i < j → j < k → (∀ scene run, ¬ StartsAt log scene run j) ∧
        ∀ run, ¬ EndsAt log run j := by
  induction k with
  | zero => cases hopen
  | succ k ih =>
      rcases openIn_take_succ log k with
        ⟨scene', run', hstart, heq⟩ | ⟨run', hend, heq⟩ | ⟨hstart, hend, heq⟩
      · rw [heq, Option.some.injEq, Prod.mk.injEq] at hopen
        obtain ⟨rfl, rfl⟩ := hopen
        exact ⟨k, Nat.lt_succ_self k, hstart, fun j hkj hjk => by omega⟩
      · rw [heq] at hopen
        cases hopen
      · rw [heq] at hopen
        obtain ⟨i, hik, hi, hquiet⟩ := ih hopen
        refine ⟨i, Nat.lt_succ_of_lt hik, hi, fun j hij hjk => ?_⟩
        rcases Nat.lt_succ_iff_lt_or_eq.mp hjk with hjk | rfl
        · exact hquiet j hij hjk
        · exact ⟨hstart, hend⟩

/-! ### Events that fit -/

/-- What may be recorded behind a log. -/
def Fits (ids : Identities) (log : List Event) (ev : Event) : Prop :=
  match ev.occurrence with
  | .sceneStarted _ _ run =>
    openIn log = none ∧ run = ids.run (startsIn log) ∧ ev.metadata.correlation = run
  | .sceneEnded ended =>
    openIn log = some (ended.scene, ended.run) ∧ ev.metadata.correlation = ended.run
  | .flagChanged .. | .counterChanged .. | .commandDispatched .. | .commandFailed .. =>
    ev.metadata.correlation = (openIn log).elim ids.session Prod.snd

/-- The run that an event behind a log belongs to. -/
def owner? (log : List Event) (ev : Event) : Option Uuid :=
  match ev.occurrence with
  | .sceneStarted _ _ run => some run
  | .sceneEnded _ | .flagChanged .. | .counterChanged .. | .commandDispatched ..
  | .commandFailed .. => (openIn log).map Prod.snd

/-- An event bears the identifier of its run, or else that of the session. -/
theorem Fits.correlation_eq {ids : Identities} (hev : Fits ids log ev) :
    ev.metadata.correlation = (owner? log ev).getD ids.session := by
  rw [Fits] at hev
  rw [owner?]
  cases ho : ev.occurrence with
  | sceneStarted scene version run =>
      rw [ho] at hev
      exact hev.2.2
  | sceneEnded ended =>
      rw [ho] at hev
      rw [hev.1, hev.2]
      rfl
  | flagChanged | counterChanged | commandDispatched | commandFailed =>
      rw [ho] at hev
      rw [hev]
      cases openIn log <;> rfl

/-- Each event fits behind those before it. -/
def Fitting (ids : Identities) (log : List Event) : Prop :=
  ∀ (k : Nat) (ev : Event), log[k]? = some ev → Fits ids (log.take k) ev

namespace Fitting

variable {ids : Identities}

/-- Into an empty log each event fits. -/
theorem nil : Fitting ids [] := fun _ _ hk => by cases hk

/-- One more event may be recorded if it fits. -/
theorem concat (hlog : Fitting ids log) (hev : Fits ids log ev) : Fitting ids (log ++ [ev]) := by
  intro k ev' hk
  by_cases hlt : k < log.length
  · rw [List.getElem?_append_left hlt] at hk
    rw [List.take_append_of_le_length (Nat.le_of_lt hlt)]
    exact hlog k ev' hk
  · rw [List.getElem?_append_right (Nat.le_of_not_lt hlt)] at hk
    obtain ⟨hzero, rfl⟩ := List.getElem?_eq_some_iff.mp hk
    rw [List.length_singleton] at hzero
    obtain rfl : k = log.length := by omega
    rw [List.take_left]
    simpa using hev

/-- A run starts while none is open, and it is the next one. -/
theorem openIn_of_start (hlog : Fitting ids log) (hstart : StartsAt log scene run i) :
    openIn (log.take i) = none ∧ run = ids.run (startsIn (log.take i)) := by
  obtain ⟨ev, version, hev, ho⟩ := hstart
  have hfits := hlog i ev hev
  rw [Fits, ho] at hfits
  exact ⟨hfits.1, hfits.2.1⟩

/-- A run ends while it is open. -/
theorem openIn_of_end (hlog : Fitting ids log) (hend : EndsAt log run i) :
    ∃ scene, openIn (log.take i) = some (scene, run) := by
  obtain ⟨ev, ended, hev, ho, rfl⟩ := hend
  have hfits := hlog i ev hev
  rw [Fits, ho] at hfits
  exact ⟨ended.scene, hfits.1⟩

/-- Each of the runs that count has started. Induction on the log. -/
theorem exists_start (hlog : Fitting ids log) {n : Nat} (hn : n < startsIn (log.take k)) :
    ∃ i scene, StartsAt log scene (ids.run n) i := by
  induction k with
  | zero => cases hn
  | succ k ih =>
      by_cases hlt : n < startsIn (log.take k)
      · exact ih hlt
      · rw [List.take_add_one] at hn
        cases hev : log[k]? with
        | none =>
            rw [hev, Option.toList_none, List.append_nil] at hn
            exact absurd hn hlt
        | some ev =>
            rw [hev, Option.toList_some, startsIn_concat, Event.isStart] at hn
            cases ho : ev.occurrence with
            | sceneStarted scene version run =>
                have hstart : StartsAt log scene run k := ⟨ev, version, hev, ho⟩
                rw [ho, if_pos rfl] at hn
                obtain rfl : n = startsIn (log.take k) := by omega
                rw [← (hlog.openIn_of_start hstart).2]
                exact ⟨k, scene, hstart⟩
            | sceneEnded | flagChanged | counterChanged | commandDispatched | commandFailed =>
                rw [ho] at hn
                exact absurd hn hlt

/-- A run that has started is open until it ends. Induction on the log. -/
theorem openIn_or_end (hlog : Fitting ids log) (hstart : StartsAt log scene run i)
    (hik : i < k) :
    openIn (log.take k) = some (scene, run) ∨ ∃ j, i < j ∧ j < k ∧ EndsAt log run j := by
  induction k with
  | zero => cases hik
  | succ k ih =>
      rcases Nat.lt_succ_iff_lt_or_eq.mp hik with hik | rfl
      · rcases ih hik with hopen | ⟨j, hij, hjk, hj⟩
        · rcases openIn_take_succ log k with
            ⟨scene', run', hstart', -⟩ | ⟨run', hend, -⟩ | ⟨-, -, heq⟩
          · -- While the run is open, no other one starts.
            rw [(hlog.openIn_of_start hstart').1] at hopen
            cases hopen
          · -- What ends is the run that is open.
            obtain ⟨scene', hopen'⟩ := hlog.openIn_of_end hend
            rw [hopen', Option.some.injEq, Prod.mk.injEq] at hopen
            exact .inr ⟨k, hik, Nat.lt_succ_self k, hopen.2 ▸ hend⟩
          · rw [heq]
            exact .inl hopen
        · exact .inr ⟨j, hij, Nat.lt_succ_of_lt hjk, hj⟩
      · exact .inl hstart.openIn_eq

/-! ### Where identifiers differ -/

section Distinct

variable (hlog : Fitting ids log) (hids : ids.Distinct (startsIn log))

include hlog hids

/-- Runs that start one after the other are different ones. -/
theorem run_ne {scene' : String} {run' : Uuid} (hi : StartsAt log scene run i)
    (hj : StartsAt log scene' run' j) (hij : i < j) : run ≠ run' := by
  have hlt := hi.startsIn_lt hij
  have hlast := hj.startsIn_lt hj.lt_length
  rw [List.take_length] at hlast
  rw [(hlog.openIn_of_start hi).2, (hlog.openIn_of_start hj).2]
  intro heq
  have := hids.runs_differ _ (Nat.lt_trans hlt hlast) _ hlast heq
  omega

/-- A run starts once. -/
theorem start_unique {scene' : String} (hi : StartsAt log scene run i)
    (hj : StartsAt log scene' run j) : i = j := by
  rcases Nat.lt_trichotomy i j with hij | rfl | hji
  · exact absurd rfl (hlog.run_ne hids hi hj hij)
  · rfl
  · exact absurd rfl (hlog.run_ne hids hj hi hji)

/-- Between the start of a run and an event at which it is open, it does not end. -/
theorem not_endsAt (hopen : openIn (log.take k) = some (scene, run)) (hjk : j < k) :
    ¬ EndsAt log run j := by
  intro hend
  obtain ⟨i, hik, hstart, hquiet⟩ := openIn_eq_some hopen
  obtain ⟨scene', hopen'⟩ := hlog.openIn_of_end hend
  obtain ⟨i', hij, hstart', -⟩ := openIn_eq_some hopen'
  obtain rfl := hlog.start_unique hids hstart hstart'
  exact (hquiet j hij hjk).2 run hend

/-- A run ends at most once. -/
theorem end_unique (hi : EndsAt log run i) (hj : EndsAt log run j) : i = j := by
  obtain ⟨scene, hopen⟩ := hlog.openIn_of_end hi
  obtain ⟨scene', hopen'⟩ := hlog.openIn_of_end hj
  rcases Nat.lt_trichotomy i j with hij | rfl | hji
  · exact absurd hi (hlog.not_endsAt hids hopen' hij)
  · rfl
  · exact absurd hj (hlog.not_endsAt hids hopen hji)

/-- The run that is open at an event is the one that the event belongs to. -/
theorem openAt_iff (hk : log[k]? = some ev) :
    OpenAt log run k ↔ owner? (log.take k) ev = some run := by
  rw [owner?]
  constructor
  · rintro ⟨⟨i, hik, scene, hstart⟩, hends⟩
    rcases Nat.lt_or_eq_of_le hik with hik | rfl
    -- The run that has started is open still, or it has ended, which it has not.
    · rcases hlog.openIn_or_end hstart hik with hopen | ⟨j, -, hjk, hj⟩
      · cases ho : ev.occurrence with
        | sceneStarted scene' version run' =>
            have hnone := (hlog.openIn_of_start ⟨ev, version, hk, ho⟩).1
            rw [hopen] at hnone
            cases hnone
        | sceneEnded | flagChanged | counterChanged | commandDispatched | commandFailed =>
            rw [hopen]
            rfl
      · exact absurd hj (hends j hjk)
    · obtain ⟨version, ho⟩ := (startsAt_iff hk).mp hstart
      rw [ho]
  · intro howner
    cases ho : ev.occurrence with
    | sceneStarted scene version run' =>
        rw [ho, Option.some.injEq] at howner
        have hstart : StartsAt log scene run k := ⟨ev, version, hk, howner ▸ ho⟩
        refine ⟨⟨k, Nat.le_refl k, scene, hstart⟩, fun j hjk hend => ?_⟩
        obtain ⟨scene', hopen⟩ := hlog.openIn_of_end hend
        obtain ⟨i, hij, hstart', -⟩ := openIn_eq_some hopen
        -- The end of the run would belong to an earlier start, but it has started only here.
        have := hlog.start_unique hids hstart hstart'
        omega
    | sceneEnded | flagChanged | counterChanged | commandDispatched | commandFailed =>
        rw [ho] at howner
        obtain ⟨⟨scene, run'⟩, hopen, rfl⟩ := Option.map_eq_some_iff.mp howner
        obtain ⟨i, hik, hstart, -⟩ := openIn_eq_some hopen
        exact ⟨⟨i, Nat.le_of_lt hik, scene, hstart⟩,
          fun j hjk => hlog.not_endsAt hids hopen hjk⟩

/-- The events of a run are those at which it is open. -/
theorem correlation_eq_iff {n : Nat} (hn : n < startsIn log) (hk : log[k]? = some ev) :
    ev.metadata.correlation = ids.run n ↔ OpenAt log (ids.run n) k := by
  rw [hlog.openAt_iff hids hk, (hlog k ev hk).correlation_eq]
  cases owner? (log.take k) ev with
  | none =>
      refine ⟨fun heq => ?_, fun heq => by cases heq⟩
      exact absurd heq.symm (hids.run_ne_session n hn)
  | some run => rw [Option.getD_some, Option.some.injEq]

/-- Where no run is open, there are the events of the session. -/
theorem correlation_eq_session (hk : log[k]? = some ev) (hopen : ∀ run, ¬ OpenAt log run k) :
    ev.metadata.correlation = ids.session := by
  rw [(hlog k ev hk).correlation_eq]
  cases howner : owner? (log.take k) ev with
  | none => rfl
  | some run => exact absurd ((hlog.openAt_iff hids hk).mpr howner) (hopen run)

/-- The run that has not ended by the end of the log is the one that is open. -/
theorem open_iff : ((∃ i, StartsAt log scene run i) ∧ ∀ j, ¬ EndsAt log run j) ↔
    openIn log = some (scene, run) := by
  rw [← List.take_length (l := log)]
  constructor
  · rintro ⟨⟨i, hstart⟩, hends⟩
    rw [List.take_length] at hstart hends
    rcases hlog.openIn_or_end hstart hstart.lt_length with hopen | ⟨j, -, -, hj⟩
    · exact hopen
    · exact absurd hj (hends j)
  · intro hopen
    obtain ⟨i, -, hstart, -⟩ := openIn_eq_some hopen
    rw [List.take_length]
    refine ⟨⟨i, hstart⟩, fun j hend => ?_⟩
    exact hlog.not_endsAt hids hopen hend.lt_length hend

/-- **A log into which each event fits is properly bracketed.** -/
theorem bracketed : Bracketed ids log (startsIn log) (openIn log) where
  exists_start n hn := by
    rw [← List.take_length (l := log)] at hn
    exact hlog.exists_start hn
  start_unique _ _ _ _ _ := hlog.start_unique hids
  exists_run run scene i hstart := by
    have hlt := hstart.startsIn_lt hstart.lt_length
    rw [List.take_length] at hlt
    exact ⟨_, hlt, (hlog.openIn_of_start hstart).2⟩
  end_unique _ _ _ := hlog.end_unique hids
  start_lt_end run j hend := by
    obtain ⟨scene, hopen⟩ := hlog.openIn_of_end hend
    obtain ⟨i, hij, hstart, -⟩ := openIn_eq_some hopen
    exact ⟨i, hij, scene, hstart⟩
  end_lt_start run run' scene scene' i j hi hj hij := by
    rcases hlog.openIn_or_end hi hij with hopen | hend
    · rw [(hlog.openIn_of_start hj).1] at hopen
      cases hopen
    · exact hend
  correlation_eq_iff _ hn _ _ := hlog.correlation_eq_iff hids hn
  correlation_eq_session _ _ := hlog.correlation_eq_session hids
  open_iff _ _ := hlog.open_iff hids

end Distinct

end Fitting

/-! ### Keeping a log -/

/-- A log as it is kept: each event fits, so many runs have started, and this one is open. -/
structure Ledger (ids : Identities) (log : List Event) (count : Nat)
    (open? : Option (String × Uuid)) : Prop where
  fitting : Fitting ids log
  startsIn_eq : startsIn log = count
  openIn_eq : openIn log = open?

namespace Ledger

variable {ids : Identities} {count : Nat} {open? : Option (String × Uuid)}

/-- An empty log is kept. -/
theorem nil : Ledger ids [] 0 none := ⟨.nil, rfl, rfl⟩

/-- The next run starts while none is open. -/
theorem start (hlog : Ledger ids log count none) {version : UInt32}
    (ho : ev.occurrence = .sceneStarted scene version (ids.run count))
    (hcorrelation : ev.metadata.correlation = ids.run count) :
    Ledger ids (log ++ [ev]) (count + 1) (some (scene, ids.run count)) := by
  refine ⟨hlog.fitting.concat ?_, ?_, ?_⟩
  · rw [Fits, ho, hlog.openIn_eq, hlog.startsIn_eq]
    exact ⟨rfl, rfl, hcorrelation⟩
  · rw [startsIn_concat, hlog.startsIn_eq, Event.isStart, ho, if_pos rfl]
  · rw [openIn_concat, openAfter, ho]

/-- Something happens within the run that is open, or while none is. -/
theorem inner (hlog : Ledger ids log count open?) (ho : ev.occurrence.isInner = true)
    (hcorrelation : ev.metadata.correlation = open?.elim ids.session Prod.snd) :
    Ledger ids (log ++ [ev]) count open? := by
  cases hocc : ev.occurrence with
  | sceneStarted | sceneEnded => rw [hocc] at ho; cases ho
  | flagChanged | counterChanged | commandDispatched | commandFailed =>
      refine ⟨hlog.fitting.concat ?_, ?_, ?_⟩
      · rw [Fits, hocc, hlog.openIn_eq]
        exact hcorrelation
      · rw [startsIn_concat, hlog.startsIn_eq, Event.isStart, hocc]
        rfl
      · rw [openIn_concat, hlog.openIn_eq, openAfter, hocc]

/-- The run that is open ends. -/
theorem close (hlog : Ledger ids log count (some (scene, run))) {ended : SceneEnded}
    (ho : ev.occurrence = .sceneEnded ended) (hscene : ended.scene = scene)
    (hrun : ended.run = run) (hcorrelation : ev.metadata.correlation = run) :
    Ledger ids (log ++ [ev]) count none := by
  subst hscene hrun
  refine ⟨hlog.fitting.concat ?_, ?_, ?_⟩
  · rw [Fits, ho, hlog.openIn_eq]
    exact ⟨rfl, hcorrelation⟩
  · rw [startsIn_concat, hlog.startsIn_eq, Event.isStart, ho]
    rfl
  · rw [openIn_concat, openAfter, ho]

/-- Several things happen within the run that is open. -/
theorem append (hlog : Ledger ids log count (some (scene, run))) {evs : List Event}
    (hevs : ∀ ev ∈ evs, ev.occurrence.isInner = true ∧ ev.metadata.correlation = run) :
    Ledger ids (log ++ evs) count (some (scene, run)) := by
  induction evs generalizing log with
  | nil => rw [List.append_nil]; exact hlog
  | cons ev rest ih =>
      obtain ⟨ho, hcorrelation⟩ := hevs ev List.mem_cons_self
      rw [List.append_cons]
      exact ih (hlog.inner ho hcorrelation) fun ev hev => hevs ev (List.mem_cons_of_mem _ hev)

/-- **The runs in a log that is kept are properly bracketed.** -/
theorem bracketed (hlog : Ledger ids log count open?) (hids : ids.Distinct count) :
    Bracketed ids log count open? := by
  obtain ⟨hfitting, rfl, rfl⟩ := hlog
  exact hfitting.bracketed hids

end Ledger

end Cutscene
