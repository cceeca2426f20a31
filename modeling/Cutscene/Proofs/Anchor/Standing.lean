import Cutscene.Anchor
import Cutscene.Anchor.Poll
import Mathlib

/-!
# A Poll by Itself

What becomes of a poll depends only on what is done for it: it is woken, its anchors are measured,
the answers come in, and it is cancelled. How things stand with it (`Standing`) is the poll with
all that is still to be done for it, and a course of it is a sequence of such things, each done at
its time but otherwise in any order (`Standing.Course`). What happens is noted on the way, and the
rounds of the poll are read off the notes (`PollNote.rounds`).

## Main results

* `Standing.Course.fits`: in each phase of a poll its rounds, what is still to be done, and how
  often it has been ready are what they should be.
* `Standing.Course.quiet`: what a poll that has been cancelled may still do.
-/

namespace Cutscene

/-! ### Rounds -/

/-- A measurement that is made for a poll. -/
structure Query where
  anchor : String
  found : Measurement
  /-- How many milliseconds go by until the poll gets the answer. -/
  delay : Nat
deriving DecidableEq

/-- The measurement counts. -/
def Query.Usable (query : Query) : Prop := query.found.usable?.isSome = true

/-- A round of a poll: when it begins, and the measurements that are made. -/
structure PollRound where
  time : Nat
  queries : List Query
deriving DecidableEq

namespace PollRound

/-- One more measurement is made. -/
def ask (round : PollRound) (query : Query) : PollRound :=
  { round with queries := round.queries ++ [query] }

/-- The anchors that are measured. -/
def asked (round : PollRound) : List String := round.queries.map Query.anchor

/-- A round begins when it does, whatever is measured. -/
@[simp] theorem time_ask (round : PollRound) (query : Query) :
    (round.ask query).time = round.time := rfl

/-- In a round that has just begun nothing has been measured. -/
@[simp] theorem asked_mk_nil (time : Nat) : (mk time []).asked = [] := rfl

/-- Each anchor has been measured as often as it is named. -/
def Complete (ids : List String) (round : PollRound) : Prop := round.asked.Perm ids

/-- All measurements count. -/
def Usable (round : PollRound) : Prop := ∀ query ∈ round.queries, query.Usable

/-- Each anchor has been measured, and not all measurements count. -/
def Failed (ids : List String) (round : PollRound) : Prop := round.Complete ids ∧ ¬ round.Usable

variable {round : PollRound} {query : Query}

/-- One more measurement is one more anchor that has been measured. -/
theorem coe_asked_ask :
    ((round.ask query).asked : Multiset String) =
      query.anchor ::ₘ (round.asked : Multiset String) := by
  rw [asked, ask, List.map_append, ← asked, ← Multiset.coe_add, add_comm]
  rfl

/-- All measurements count if the new one does and the others do. -/
theorem usable_ask : (round.ask query).Usable ↔ query.Usable ∧ round.Usable := by
  simp only [Usable, ask, List.forall_mem_append, List.forall_mem_singleton, and_comm]

end PollRound

/-- What is noted of a poll. -/
inductive PollNote where
  | round (time : Nat)
  | query (query : Query)
  | cancel
deriving DecidableEq

namespace PollNote

/-- What a note adds to the rounds. A measurement belongs to the last one. -/
def add (rounds : List PollRound) : PollNote → List PollRound
  | .round time => rounds ++ [⟨time, []⟩]
  | .query q => rounds.modifyLast (·.ask q)
  | .cancel => rounds

/-- The rounds of which there are notes. -/
def rounds (notes : List PollNote) : List PollRound := notes.foldl add []

/-- The measurement that is noted, if it is one. -/
def query? : PollNote → Option Query
  | .query q => some q
  | .round _ | .cancel => none

/-- All answers come at once. -/
def Instant (notes : List PollNote) : Prop := ∀ q, query q ∈ notes → q.delay = 0

variable {notes more : List PollNote}

/-- A note of a round begins a new one. -/
@[simp] theorem rounds_concat_round (notes : List PollNote) (time : Nat) :
    rounds (notes ++ [round time]) = rounds notes ++ [⟨time, []⟩] := by
  rw [rounds, List.foldl_append]
  rfl

/-- A note of a measurement belongs to the last round. -/
theorem rounds_concat_query {past : List PollRound} {last : PollRound} (q : Query)
    (h : rounds notes = past ++ [last]) :
    rounds (notes ++ [query q]) = past ++ [last.ask q] := by
  rw [rounds, List.foldl_append, ← rounds, h]
  exact List.modifyLast_concat ..

/-- A note of a cancelling does not change the rounds. -/
@[simp] theorem rounds_concat_cancel (notes : List PollNote) :
    rounds (notes ++ [cancel]) = rounds notes := by
  rw [rounds, List.foldl_append]
  rfl

/-- Where all answers come at once, the earlier ones do. -/
theorem Instant.of_append (h : Instant (notes ++ more)) : Instant notes :=
  fun q hq => h q (List.mem_append_left more hq)

end PollNote

/-! ### Polls -/

namespace Poll

variable {p q : Poll} {now : Nat} {usable : Bool}

/-- A poll is woken when it is asleep, it is time, and there is a round left. -/
theorem wake?_eq_some_iff : p.wake? now = some q ↔
    ∃ wakeAt left, p.phase = .asleep wakeAt ∧ wakeAt ≤ now ∧ p.left = left + 1 ∧
      q = { p with
        attempts := p.attempts + 1
        left
        phase := .measuring p.anchors.length true } := by
  rw [wake?]
  split
  · next wakeAt left hphase hleft =>
    split
    · next htime => simp [hphase, hleft, htime, eq_comm]
    · next htime => simp [hphase, hleft, htime]
  · next hneither =>
    simp only [reduceCtorEq, false_iff]
    rintro ⟨wakeAt, left, hphase, -, hleft, -⟩
    exact hneither wakeAt left hphase hleft

/-- A poll takes an answer when it measures. -/
theorem answer?_eq_some_iff : p.answer? now usable = some q ↔
    ∃ open_ before, p.phase = .measuring open_ before ∧
      q = { p with
        phase :=
          if open_ ≤ 1 then p.afterRound now (before && usable)
          else .measuring (open_ - 1) (before && usable) } := by
  rw [answer?]
  split
  · next open_ before hphase =>
    simp only [hphase, PollPhase.measuring.injEq, Option.some.injEq]
    constructor
    · rintro rfl
      exact ⟨open_, before, ⟨rfl, rfl⟩, rfl⟩
    · rintro ⟨_, _, ⟨rfl, rfl⟩, rfl⟩
      rfl
  · next hphase => simp [hphase]
  · next hphase => simp [hphase]

/-- A poll is ready if it has ended with that outcome. -/
theorem isReady_iff : p.isReady = true ↔ ∃ k, p.outcome? = some (.ready k) := by
  rw [isReady, outcome?]
  rcases p.phase with _ | _ | ⟨_ | _ | _⟩ <;> simp

/-- A poll that is cancelled while it is asleep ends. -/
theorem cancel_of_asleep {wakeAt : Nat} (h : p.phase = .asleep wakeAt) :
    p.cancel = { p with cancelled := true, phase := .over (.cancelled p.attempts) } := by
  rw [cancel, h]

/-- One that is not asleep only bears the mark. -/
theorem cancel_of_awake (h : ∀ wakeAt, p.phase ≠ .asleep wakeAt) :
    p.cancel = { p with cancelled := true } := by
  rw [cancel]
  split
  · next wakeAt hphase => exact absurd hphase (h wakeAt)
  · rfl
  · rfl

/-- All but the phase is the same, whether the poll is asleep or not. -/
theorem exists_cancel_eq (p : Poll) : ∃ phase, p.cancel = { p with cancelled := true, phase } := by
  rw [cancel]
  split <;> exact ⟨_, rfl⟩

/-- Cancelling makes no poll ready, nor does it take that back. -/
@[simp] theorem isReady_cancel (p : Poll) : p.cancel.isReady = p.isReady := by
  rw [cancel]
  split
  · next hphase => rw [isReady, isReady, hphase]
  · rfl
  · rfl

end Poll

/-! ### Standings -/

/-- How things stand with a poll. -/
structure Standing where
  now : Nat
  poll : Poll
  /-- The times at which it is to be woken. -/
  alarms : Multiset Nat
  /-- The measurements that are to be made, each with its time. -/
  asked : Multiset (Nat × String)
  /-- The answers that are to come, each with its time. -/
  awaited : Multiset (Nat × Bool)
  /-- How often it has been noted that the poll is ready. -/
  calls : Nat

namespace Standing

/-- What follows when the poll has taken an answer. -/
def put (s : Standing) (poll : Poll) : Standing :=
  match poll.phase with
  | .asleep wakeAt => { s with poll, alarms := wakeAt ::ₘ s.alarms }
  | .over (.ready _) => { s with poll, calls := s.calls + 1 }
  | .measuring .. | .over _ => { s with poll }

/-- Where a poll neither goes to sleep nor becomes ready, nothing else changes. -/
theorem put_eq {s : Standing} {poll : Poll} (hawake : ∀ wakeAt, poll.phase ≠ .asleep wakeAt)
    (hunready : ∀ attempts, poll.phase ≠ .over (.ready attempts)) :
    s.put poll = { s with poll } := by
  unfold put
  split
  · next hphase => exact absurd hphase (hawake _)
  · next hphase => exact absurd hphase (hunready _)
  · rfl
  · rfl

/-- **What may happen to a poll next**, what is noted of it, and how things stand then. Whatever is
done is done at its time. -/
inductive Moves (s : Standing) : List PollNote → Standing → Prop
  | rest {time : Nat} (hnow : s.now ≤ time) (halarms : ∀ alarm ∈ s.alarms, time ≤ alarm) :
      Moves s [] { s with now := time }
  | wake {poll : Poll} {alarms : Multiset Nat} (halarms : s.alarms = s.now ::ₘ alarms)
      (hwake : s.poll.wake? s.now = some poll) :
      Moves s [.round s.now]
        { s with poll, alarms, asked := s.asked + poll.anchors.map fun anchor => (s.now, anchor) }
  | sleepOn {alarms : Multiset Nat} (halarms : s.alarms = s.now ::ₘ alarms)
      (hwake : s.poll.wake? s.now = none) : Moves s [] { s with alarms }
  | measure {anchor : String} {asked : Multiset (Nat × String)}
      (hasked : s.asked = (s.now, anchor) ::ₘ asked) (found : Measurement) (delay : Nat) :
      Moves s [.query ⟨anchor, found, delay⟩]
        { s with asked, awaited := (s.now + delay, found.usable?.isSome) ::ₘ s.awaited }
  | answer {poll : Poll} {usable : Bool} {awaited : Multiset (Nat × Bool)}
      (hawaited : s.awaited = (s.now, usable) ::ₘ awaited)
      (hanswer : s.poll.answer? s.now usable = some poll) : Moves s [] ({ s with awaited }.put poll)
  | ignore {usable : Bool} {awaited : Multiset (Nat × Bool)}
      (hawaited : s.awaited = (s.now, usable) ::ₘ awaited)
      (hanswer : s.poll.answer? s.now usable = none) : Moves s [] { s with awaited }
  | cancel : Moves s [.cancel] { s with poll := s.poll.cancel }

/-- A course of a poll, with what is noted on the way. -/
inductive Course (s : Standing) : List PollNote → Standing → Prop
  | nil : Course s [] s
  | snoc {notes more : List PollNote} {t u : Standing} (hcourse : Course s notes t)
      (hmoves : t.Moves more u) : Course s (notes ++ more) u

variable {s t u : Standing} {notes more : List PollNote}

/-- What happens next is a course. -/
theorem Moves.course (h : s.Moves notes t) : s.Course notes t := Course.nil.snoc h

/-- A course goes on with another one. Induction on the later one. -/
theorem Course.trans (h : s.Course notes t) (h' : t.Course more u) :
    s.Course (notes ++ more) u := by
  induction h' with
  | nil => rwa [List.append_nil]
  | snoc _ hmoves ih => rw [← List.append_assoc]; exact ih.snoc hmoves

/-! ### What a poll has done -/

/-- A poll has ended in the right way after the rounds of which there are notes: it is ready when
the last of them is the only one in which all measurements count, exhausted when all rounds that it
has have failed, and cancelled only when there is a note of that. -/
inductive Concludes (ids : List String) (rounds : Nat) (notes : List PollNote) : PollOutcome → Prop
  | ready {past : List PollRound} {last : PollRound}
      (hrounds : PollNote.rounds notes = past ++ [last]) (hpast : ∀ round ∈ past, round.Failed ids)
      (hcomplete : last.Complete ids) (husable : last.Usable) (hle : past.length + 1 ≤ rounds) :
      Concludes ids rounds notes (.ready (past.length + 1))
  | exhausted (hrounds : (PollNote.rounds notes).length = rounds)
      (hfailed : ∀ round ∈ PollNote.rounds notes, round.Failed ids) :
      Concludes ids rounds notes (.exhausted rounds)
  | cancelled (hcancel : .cancel ∈ notes)
      (hfailed : ∀ round ∈ (PollNote.rounds notes).dropLast, round.Failed ids)
      (hcomplete : ∀ round ∈ PollNote.rounds notes, round.Complete ids) :
      Concludes ids rounds notes (.cancelled (PollNote.rounds notes).length)

/-- **What a phase of a poll comes from and what it waits for**, when its anchors and options are
given, it has been started at a time, and there are some notes of it. -/
inductive InPhase (ids : List String) (options : PollOptions) (start : Nat) (notes : List PollNote)
    (s : Standing) : Prop
  /-- All rounds have failed, and the poll is to be woken for the next one. -/
  | asleep {wakeAt : Nat} (hphase : s.poll.phase = .asleep wakeAt) (hasked : s.asked = 0)
      (hawaited : s.awaited = 0) (halarm : wakeAt ∈ s.alarms) (hleft : 0 < s.poll.left)
      (hcancelled : s.poll.cancelled = false)
      (hfailed : ∀ round ∈ PollNote.rounds notes, round.Failed ids)
      (htime : PollNote.Instant notes → wakeAt =
        start + options.initialDelay + (PollNote.rounds notes).length * options.interval)
  /-- All rounds but the last have failed, and in that one each anchor either has been measured or
  is about to be. -/
  | measuring {open_ : Nat} {usable : Bool} {past : List PollRound} {last : PollRound}
      (hphase : s.poll.phase = .measuring open_ usable)
      (hrounds : PollNote.rounds notes = past ++ [last]) (hpast : ∀ round ∈ past, round.Failed ids)
      (hasked : (last.asked : Multiset String) + s.asked.map Prod.snd = ids)
      (hopen : s.asked.card + s.awaited.card = open_) (hpos : 0 < open_)
      (husable : (usable = true ∧ ∀ answer ∈ s.awaited, answer.2 = true) ↔ last.Usable)
      (htimes : ∀ entry ∈ s.asked, entry.1 = last.time)
      (hinstant : PollNote.Instant notes → ∀ answer ∈ s.awaited, answer.1 = last.time)
  /-- Nothing is left to be done. -/
  | ended {outcome : PollOutcome} (hphase : s.poll.phase = .over outcome) (hasked : s.asked = 0)
      (hawaited : s.awaited = 0)
      (houtcome : Concludes ids (max 1 options.maxAttempts) notes outcome)

/-- What a poll is by the notes of it, in whatever phase. -/
structure Account (ids : List String) (options : PollOptions) (start : Nat) (notes : List PollNote)
    (poll : Poll) : Prop where
  anchors_eq : poll.anchors = ids
  options_eq : poll.options = options
  attempts_eq : poll.attempts = (PollNote.rounds notes).length
  attempts_add_left : poll.attempts + poll.left = max 1 options.maxAttempts
  cancelled_iff : poll.cancelled = true ↔ .cancel ∈ notes
  queries_eq : (PollNote.rounds notes).flatMap PollRound.queries =
    notes.filterMap PollNote.query?
  times_eq : PollNote.Instant notes → (PollNote.rounds notes).map PollRound.time =
    (List.range (PollNote.rounds notes).length).map fun k =>
      start + options.initialDelay + k * options.interval

/-- **How things stand with a poll fits the notes of it.** -/
structure Fits (ids : List String) (options : PollOptions) (start : Nat) (notes : List PollNote)
    (s : Standing) : Prop extends Account ids options start notes s.poll where
  calls_eq : s.calls = s.poll.isReady.toNat
  now_le : ∀ alarm ∈ s.alarms, s.now ≤ alarm
  inPhase : s.InPhase ids options start notes

variable {ids : List String} {options : PollOptions} {start : Nat}

/-- A poll that has been started. -/
def begin (start : Nat) (poll : Poll) : Standing where
  now := start
  poll
  alarms := {start + poll.options.initialDelay}
  asked := 0
  awaited := 0
  calls := 0

/-- A poll of some anchors fits in the beginning. -/
theorem fits_begin (hids : ids ≠ []) (options : PollOptions) (start : Nat) (urgent : Bool) :
    (begin start (Poll.start ids options start urgent)).Fits ids options start [] where
  anchors_eq := rfl
  options_eq := rfl
  attempts_eq := rfl
  attempts_add_left := Nat.zero_add _
  cancelled_iff := by simp [begin, Poll.start]
  queries_eq := rfl
  times_eq _ := rfl
  calls_eq := by simp [begin, Poll.start, Poll.isReady, hids]
  now_le := by simp [begin, Poll.start]
  inPhase := .asleep (if_neg hids) rfl rfl (Multiset.mem_singleton_self _)
    (Nat.lt_of_lt_of_le Nat.one_pos (Nat.le_max_left ..)) rfl (fun _ h => nomatch h)
    (fun _ => by simp [PollNote.rounds])

/-! #### One thing after the other -/

/-- Neither the time nor the alarms matter, except for the one of a sleeping poll. -/
theorem InPhase.of_alarms {now : Nat} {alarms : Multiset Nat}
    (h : s.InPhase ids options start notes)
    (halarms : ∀ wakeAt, s.poll.phase = .asleep wakeAt → 0 < s.poll.left → wakeAt ∈ s.alarms →
      wakeAt ∈ alarms) : { s with now, alarms }.InPhase ids options start notes := by
  cases h with
  | asleep hphase hasked hawaited halarm hleft hcancelled hfailed htime =>
    exact .asleep hphase hasked hawaited (halarms _ hphase hleft halarm) hleft hcancelled hfailed
      htime
  | measuring hphase hrounds hpast hasked hopen hpos husable htimes hinstant =>
    exact .measuring hphase hrounds hpast hasked hopen hpos husable htimes hinstant
  | ended hphase hasked hawaited houtcome => exact .ended hphase hasked hawaited houtcome

/-- Time passes. -/
theorem Fits.rest {time : Nat} (hfits : s.Fits ids options start notes)
    (halarms : ∀ alarm ∈ s.alarms, time ≤ alarm) :
    { s with now := time }.Fits ids options start notes where
  toAccount := hfits.toAccount
  calls_eq := hfits.calls_eq
  now_le := halarms
  inPhase := hfits.inPhase.of_alarms fun _ _ _ halarm => halarm

/-- A poll that begins a round is by its notes what it should be. -/
theorem Account.wake {poll : Poll} {now left : Nat}
    (haccount : Account ids options start notes poll) (hleft : poll.left = left + 1)
    (phase : PollPhase)
    (htime : PollNote.Instant notes → now =
      start + options.initialDelay + (PollNote.rounds notes).length * options.interval) :
    Account ids options start (notes ++ [.round now])
      { poll with attempts := poll.attempts + 1, left, phase } where
  anchors_eq := haccount.anchors_eq
  options_eq := haccount.options_eq
  attempts_eq := by simp [haccount.attempts_eq]
  attempts_add_left := by
    rw [← haccount.attempts_add_left, hleft, Nat.add_right_comm, Nat.add_assoc]
  cancelled_iff := by simp [haccount.cancelled_iff]
  queries_eq := by simp [PollNote.query?, haccount.queries_eq]
  times_eq hinstant := by
    have hbefore := hinstant.of_append
    rw [PollNote.rounds_concat_round, List.map_append, List.length_append, List.map_singleton,
      List.length_singleton, List.range_succ, List.map_append, List.map_singleton,
      haccount.times_eq hbefore, htime hbefore]

/-- The poll is woken. It was asleep until just now, so that a new round begins at its time. -/
theorem Fits.wake {poll : Poll} {alarms : Multiset Nat} (hids : ids ≠ [])
    (hfits : s.Fits ids options start notes) (halarms : s.alarms = s.now ::ₘ alarms)
    (hwake : s.poll.wake? s.now = some poll) :
    Fits ids options start (notes ++ [.round s.now])
      { s with
        poll, alarms, asked := s.asked + poll.anchors.map fun anchor => (s.now, anchor) } := by
  obtain ⟨wakeAt, left, hphase, hle, hleft, rfl⟩ := Poll.wake?_eq_some_iff.1 hwake
  cases hfits.inPhase with
  | measuring hphase' => rw [hphase] at hphase'; cases hphase'
  | ended hphase' => rw [hphase] at hphase'; cases hphase'
  | asleep hphase' hasked hawaited halarm hpos hcancelled hfailed htime =>
    obtain rfl : wakeAt = _ := PollPhase.asleep.inj (hphase.symm.trans hphase')
    -- No alarm lies behind, so that the one of a sleeping poll goes off in time.
    have hnow : wakeAt = s.now := Nat.le_antisymm hle (hfits.now_le _ halarm)
    refine ⟨hfits.toAccount.wake hleft _ (hnow ▸ htime), ?_, ?_, ?_⟩
    · simpa [Poll.isReady, hphase] using hfits.calls_eq
    · exact fun alarm h => hfits.now_le alarm (by rw [halarms]; exact Multiset.mem_cons_of_mem h)
    · have hsome : 0 < s.poll.anchors.length := by
        rw [hfits.anchors_eq]
        exact List.length_pos_of_ne_nil hids
      refine .measuring rfl (PollNote.rounds_concat_round ..) hfailed ?_ ?_ hsome ?_ ?_ ?_
      all_goals simp [hasked, hawaited, hfits.anchors_eq, PollRound.Usable, Function.comp_def]

/-- The poll is not woken. Then it is not asleep until now. -/
theorem Fits.sleepOn {alarms : Multiset Nat} (hfits : s.Fits ids options start notes)
    (halarms : s.alarms = s.now ::ₘ alarms) (hwake : s.poll.wake? s.now = none) :
    { s with alarms }.Fits ids options start notes where
  toAccount := hfits.toAccount
  calls_eq := hfits.calls_eq
  now_le alarm h := hfits.now_le alarm (by rw [halarms]; exact Multiset.mem_cons_of_mem h)
  inPhase := by
    refine hfits.inPhase.of_alarms fun wakeAt hphase hpos halarm => ?_
    have hlater : wakeAt ≠ s.now := by
      rintro rfl
      obtain ⟨left, hleft⟩ := Nat.exists_eq_add_of_lt hpos
      have hsome := Poll.wake?_eq_some_iff.2 ⟨_, left, hphase, le_rfl, by omega, rfl⟩
      rw [hwake] at hsome
      cases hsome
    rw [halarms] at halarm
    exact (Multiset.mem_cons.1 halarm).resolve_left hlater

/-- So is one for which something is measured: only the last round has changed. -/
theorem Account.measure {poll : Poll} {past : List PollRound} {last : PollRound}
    (haccount : Account ids options start notes poll)
    (hrounds : PollNote.rounds notes = past ++ [last]) (query : Query) :
    Account ids options start (notes ++ [.query query]) poll := by
  have hrounds' := PollNote.rounds_concat_query query hrounds
  have hqueries := haccount.queries_eq
  refine ⟨haccount.anchors_eq, haccount.options_eq, ?_, haccount.attempts_add_left, ?_, ?_,
    fun hinstant => ?_⟩
  · simp [haccount.attempts_eq, hrounds, hrounds']
  · simp [haccount.cancelled_iff]
  · rw [hrounds] at hqueries
    simp [hrounds', PollRound.ask, PollNote.query?, ← hqueries]
  · have htimes := haccount.times_eq hinstant.of_append
    rw [hrounds] at htimes
    rw [hrounds']
    simpa using htimes

/-- An anchor is measured. This is a part of the last round. -/
theorem Fits.measure {anchor : String} {asked : Multiset (Nat × String)}
    (hfits : s.Fits ids options start notes) (hnext : s.asked = (s.now, anchor) ::ₘ asked)
    (found : Measurement) (delay : Nat) :
    Fits ids options start (notes ++ [.query ⟨anchor, found, delay⟩])
      { s with asked, awaited := (s.now + delay, found.usable?.isSome) ::ₘ s.awaited } := by
  cases hfits.inPhase with
  | asleep _ hasked => rw [hnext] at hasked; exact absurd hasked (Multiset.cons_ne_zero)
  | ended _ hasked => rw [hnext] at hasked; exact absurd hasked (Multiset.cons_ne_zero)
  | @measuring open_ usable past last hphase hrounds hpast hasked hopen hpos husable htimes
      hinstant =>
    have hnow : s.now = last.time := htimes (s.now, anchor) (by simp [hnext])
    have hrounds' := PollNote.rounds_concat_query ⟨anchor, found, delay⟩ hrounds
    refine ⟨hfits.toAccount.measure hrounds _, hfits.calls_eq, hfits.now_le,
      .measuring hphase hrounds' hpast ?_ ?_ hpos ?_ ?_ ?_⟩
    · rw [← hasked, hnext, PollRound.coe_asked_ask, Multiset.map_cons, Multiset.cons_add,
        Multiset.add_cons]
    · rw [← hopen, hnext, Multiset.card_cons, Multiset.card_cons, ← add_assoc, add_right_comm]
    · rw [PollRound.usable_ask, ← husable, Multiset.forall_mem_cons]
      exact and_left_comm
    · exact fun entry h => htimes entry (by rw [hnext]; exact Multiset.mem_cons_of_mem h)
    · intro h
      refine Multiset.forall_mem_cons.2 ⟨?_, hinstant h.of_append⟩
      have hdelay : delay = 0 := h _ (List.mem_append_right notes (List.mem_singleton_self _))
      rw [hdelay, PollRound.time_ask, ← hnow, Nat.add_zero]

/-- An account does not speak of the phase. -/
theorem Account.withPhase {poll : Poll} (haccount : Account ids options start notes poll)
    (phase : PollPhase) : Account ids options start notes { poll with phase } :=
  { haccount with }

/-- When measurements take no time, the rounds follow each other at the interval. -/
theorem Account.time_eq {poll : Poll} {k : Nat} {round : PollRound}
    (haccount : Account ids options start notes poll) (hinstant : PollNote.Instant notes)
    (hk : (PollNote.rounds notes)[k]? = some round) :
    round.time = start + options.initialDelay + k * options.interval := by
  have htimes := congrArg (·[k]?) (haccount.times_eq hinstant)
  simp only [List.getElem?_map, hk, Option.map_some,
    List.getElem?_range (List.getElem?_eq_some_iff.1 hk).1] at htimes
  exact Option.some.inj htimes

/-- **The end of a round**, of which all rounds before have failed. -/
theorem Account.fits_afterRound {past : List PollRound} {last : PollRound} {usable : Bool}
    (haccount : Account ids options start notes s.poll) (hcalls : s.calls = 0)
    (hasked : s.asked = 0) (hawaited : s.awaited = 0) (hnow_le : ∀ alarm ∈ s.alarms, s.now ≤ alarm)
    (hrounds : PollNote.rounds notes = past ++ [last]) (hpast : ∀ round ∈ past, round.Failed ids)
    (hcomplete : last.Complete ids) (husable : usable = true ↔ last.Usable)
    (hnow : PollNote.Instant notes → s.now = last.time) :
    (s.put { s.poll with phase := s.poll.afterRound s.now usable }).Fits ids options start
      notes := by
  have hattempts : s.poll.attempts = past.length + 1 := by
    rw [haccount.attempts_eq, hrounds, List.length_append, List.length_singleton]
  have hfailed (h : ¬ last.Usable) : ∀ round ∈ PollNote.rounds notes, round.Failed ids := by
    rw [hrounds, List.forall_mem_append, List.forall_mem_singleton]
    exact ⟨hpast, hcomplete, h⟩
  have hleft := haccount.attempts_add_left
  unfold Poll.afterRound
  split
  · next hcancelled =>
    refine ⟨haccount.withPhase _, hcalls, hnow_le, .ended rfl hasked hawaited ?_⟩
    -- A cancelled poll ends after the round in any case, were it even the one that succeeds.
    have hcompletes : ∀ round ∈ PollNote.rounds notes, round.Complete ids := by
      rw [hrounds, List.forall_mem_append, List.forall_mem_singleton]
      exact ⟨fun round h => (hpast round h).1, hcomplete⟩
    rw [haccount.attempts_eq]
    refine .cancelled (haccount.cancelled_iff.1 hcancelled) ?_ hcompletes
    rwa [hrounds, List.dropLast_concat]
  · next hcancelled =>
    split
    · next hyes =>
      refine ⟨haccount.withPhase _, congrArg (· + 1) hcalls, hnow_le, .ended rfl hasked hawaited ?_⟩
      rw [hattempts]
      exact .ready hrounds hpast hcomplete (husable.1 hyes) (by omega)
    · next hno =>
      split
      · next hnone =>
        refine ⟨haccount.withPhase _, hcalls, hnow_le, .ended rfl hasked hawaited ?_⟩
        have hall : s.poll.attempts = max 1 options.maxAttempts := by omega
        rw [hall]
        exact .exhausted (haccount.attempts_eq.symm.trans hall) (hfailed (mt husable.2 hno))
      · next hsome =>
        refine ⟨haccount.withPhase _, hcalls, ?_, .asleep rfl hasked hawaited
          (Multiset.mem_cons_self ..) (Nat.pos_of_ne_zero hsome)
          (Bool.eq_false_of_not_eq_true hcancelled) (hfailed (mt husable.2 hno)) fun hinstant => ?_⟩
        · exact Multiset.forall_mem_cons.2 ⟨Nat.le_add_right .., hnow_le⟩
        -- The next round is due a whole interval after the instant at which this one has ended.
        · have hlast : (PollNote.rounds notes)[past.length]? = some last := by
            rw [hrounds, List.getElem?_concat_length]
          rw [hnow hinstant, haccount.time_eq hinstant hlast, haccount.options_eq, hrounds,
            List.length_append, List.length_singleton, Nat.add_one_mul, Nat.add_assoc]

/-- The poll takes an answer. The last one ends the round. -/
theorem Fits.answer {poll : Poll} {usable : Bool} {awaited : Multiset (Nat × Bool)}
    (hfits : s.Fits ids options start notes) (hnext : s.awaited = (s.now, usable) ::ₘ awaited)
    (hanswer : s.poll.answer? s.now usable = some poll) :
    ({ s with awaited }.put poll).Fits ids options start notes := by
  obtain ⟨open_, before, hphase, rfl⟩ := Poll.answer?_eq_some_iff.1 hanswer
  cases hfits.inPhase with
  | asleep hphase' => rw [hphase] at hphase'; cases hphase'
  | ended hphase' => rw [hphase] at hphase'; cases hphase'
  | @measuring _ _ past last hphase' hrounds hpast hasked hopen hpos husable htimes hinstant =>
    obtain ⟨rfl, rfl⟩ := PollPhase.measuring.inj (hphase.symm.trans hphase')
    have hcalls : s.calls = 0 := by rw [hfits.calls_eq, Poll.isReady, hphase]; rfl
    rw [hnext] at husable hopen hinstant
    rw [Multiset.card_cons] at hopen
    have hboth : ((before && usable) = true ∧ ∀ answer ∈ awaited, answer.2 = true) ↔
        last.Usable := by
      rw [← husable, Multiset.forall_mem_cons, Bool.and_eq_true, and_assoc]
    -- What is open is what is asked and what is awaited: with the last answer, nothing is.
    by_cases hlast : open_ ≤ 1
    · obtain ⟨hnone, rfl⟩ : s.asked = 0 ∧ awaited = 0 :=
        ⟨Multiset.card_eq_zero.1 (by omega), Multiset.card_eq_zero.1 (by omega)⟩
      have hcomplete : last.Complete ids := by
        rw [hnone, Multiset.map_zero, add_zero] at hasked
        exact Multiset.coe_eq_coe.1 hasked
      rw [if_pos hlast]
      exact Account.fits_afterRound (s := { s with awaited := 0 }) hfits.toAccount hcalls hnone rfl
        hfits.now_le hrounds hpast hcomplete (by simpa using hboth)
        fun h => hinstant h _ (Multiset.mem_cons_self ..)
    · rw [if_neg hlast]
      refine ⟨hfits.withPhase _, hcalls, hfits.now_le, ?_⟩
      have hpred : s.asked.card + awaited.card = open_ - 1 := by omega
      exact .measuring rfl hrounds hpast hasked hpred (by omega) hboth htimes fun h answer hmem =>
        hinstant h answer (Multiset.mem_cons_of_mem hmem)

/-- There is no answer that the poll does not take. -/
theorem Fits.takes {usable : Bool} {awaited : Multiset (Nat × Bool)}
    (hfits : s.Fits ids options start notes) (hnext : s.awaited = (s.now, usable) ::ₘ awaited) :
    s.poll.answer? s.now usable ≠ none := by
  cases hfits.inPhase with
  | asleep _ _ hawaited => rw [hnext] at hawaited; exact absurd hawaited Multiset.cons_ne_zero
  | ended _ _ hawaited => rw [hnext] at hawaited; exact absurd hawaited Multiset.cons_ne_zero
  | measuring hphase =>
    rw [Poll.answer?_eq_some_iff.2 ⟨_, _, hphase, rfl⟩]
    exact Option.some_ne_none _

/-- So is one that has been cancelled. -/
theorem Account.cancel {poll : Poll} (haccount : Account ids options start notes poll) :
    Account ids options start (notes ++ [PollNote.cancel]) poll.cancel := by
  obtain ⟨phase, hcancel⟩ := poll.exists_cancel_eq
  rw [hcancel]
  refine ⟨haccount.anchors_eq, haccount.options_eq, ?_, haccount.attempts_add_left, ?_, ?_, ?_⟩
  · rw [PollNote.rounds_concat_cancel, haccount.attempts_eq]
  · exact iff_of_true rfl (List.mem_append_right _ (List.mem_singleton_self _))
  · rw [PollNote.rounds_concat_cancel, haccount.queries_eq, List.filterMap_append]
    exact (List.append_nil _).symm
  · rw [PollNote.rounds_concat_cancel]
    exact fun h => haccount.times_eq h.of_append

/-- A poll that has ended stays so. -/
theorem Concludes.cancel {rounds : Nat} {outcome : PollOutcome}
    (h : Concludes ids rounds notes outcome) :
    Concludes ids rounds (notes ++ [PollNote.cancel]) outcome := by
  have hrounds' := PollNote.rounds_concat_cancel notes
  cases h with
  | ready hrounds hpast hcomplete husable hle =>
    exact .ready (hrounds'.trans hrounds) hpast hcomplete husable hle
  | exhausted hrounds hfailed => exact .exhausted (by rwa [hrounds']) (by rwa [hrounds'])
  | cancelled hcancel hfailed hcomplete =>
    rw [← hrounds']
    exact .cancelled (List.mem_append_left _ hcancel) (by rwa [hrounds']) (by rwa [hrounds'])

/-- The poll is cancelled. If it is asleep, it ends. -/
theorem Fits.cancel (hfits : s.Fits ids options start notes) :
    { s with poll := s.poll.cancel }.Fits ids options start (notes ++ [PollNote.cancel]) := by
  have hrounds' := PollNote.rounds_concat_cancel notes
  have haccount := hfits.toAccount.cancel
  have hcalls : s.calls = s.poll.cancel.isReady.toNat := by
    rw [Poll.isReady_cancel, hfits.calls_eq]
  cases hfits.inPhase with
  | asleep hphase hasked hawaited halarm hleft hcancelled hfailed htime =>
    have hover := congrArg Poll.phase (Poll.cancel_of_asleep hphase)
    refine ⟨haccount, hcalls, hfits.now_le, .ended hover hasked hawaited ?_⟩
    rw [hfits.attempts_eq, ← hrounds']
    refine .cancelled (List.mem_append_right _ (List.mem_singleton_self _)) ?_ ?_
    all_goals rw [hrounds']
    · exact fun round h => hfailed round (List.mem_of_mem_dropLast h)
    · exact fun round h => (hfailed round h).1
  | measuring hphase hrounds hpast hasked hopen hpos husable htimes hinstant =>
    have hsame := congrArg Poll.phase (Poll.cancel_of_awake (p := s.poll) (by simp [hphase]))
    exact ⟨haccount, hcalls, hfits.now_le, .measuring (hsame.trans hphase) (hrounds'.trans hrounds)
      hpast hasked hopen hpos husable htimes fun h => hinstant h.of_append⟩
  | ended hphase hasked hawaited houtcome =>
    have hsame := congrArg Poll.phase (Poll.cancel_of_awake (p := s.poll) (by simp [hphase]))
    exact ⟨haccount, hcalls, hfits.now_le, .ended (hsame.trans hphase) hasked hawaited
      houtcome.cancel⟩

/-- **Whatever happens to a poll, it fits the notes.** -/
theorem Fits.moves (hids : ids ≠ []) (hfits : s.Fits ids options start notes)
    (hmoves : s.Moves more t) : t.Fits ids options start (notes ++ more) := by
  cases hmoves with
  | rest _ halarms => rw [List.append_nil]; exact hfits.rest halarms
  | wake halarms hwake => exact hfits.wake hids halarms hwake
  | sleepOn halarms hwake => rw [List.append_nil]; exact hfits.sleepOn halarms hwake
  | measure hasked found delay => exact hfits.measure hasked found delay
  | answer hawaited hanswer => rw [List.append_nil]; exact hfits.answer hawaited hanswer
  | ignore hawaited hanswer => exact absurd hanswer (hfits.takes hawaited)
  | cancel => exact hfits.cancel

/-- **A poll fits the notes of it in every course.** Induction on the course. -/
theorem Course.fits {urgent : Bool} (hids : ids ≠ [])
    (hcourse : (begin start (Poll.start ids options start urgent)).Course notes s) :
    s.Fits ids options start notes := by
  induction hcourse with
  | nil => exact fits_begin hids options start urgent
  | snoc _ hmoves ih => exact ih.moves hids hmoves

/-! #### What the notes say -/

/-- A round is followed by another one only when it has failed. -/
theorem Fits.failed (hfits : s.Fits ids options start notes) :
    ∀ round ∈ (PollNote.rounds notes).dropLast, round.Failed ids := by
  cases hfits.inPhase with
  | asleep _ _ _ _ _ _ hfailed => exact fun round h => hfailed round (List.mem_of_mem_dropLast h)
  | measuring _ hrounds hpast => rwa [hrounds, List.dropLast_concat]
  | ended _ _ _ houtcome =>
    cases houtcome with
    | ready hrounds hpast => rwa [hrounds, List.dropLast_concat]
    | exhausted _ hfailed => exact fun round h => hfailed round (List.mem_of_mem_dropLast h)
    | cancelled _ hfailed => exact hfailed

/-- In no round is an anchor measured more often than it is named. -/
theorem Fits.subperm (hfits : s.Fits ids options start notes) :
    ∀ round ∈ PollNote.rounds notes, round.asked.Subperm ids := by
  cases hfits.inPhase with
  | asleep _ _ _ _ _ _ hfailed => exact fun round h => (hfailed round h).1.subperm
  | measuring _ hrounds hpast hasked =>
    rw [hrounds, List.forall_mem_append, List.forall_mem_singleton]
    refine ⟨fun round h => (hpast round h).1.subperm, ?_⟩
    rw [← Multiset.coe_le, ← hasked]
    exact Multiset.le_add_right ..
  | ended _ _ _ houtcome =>
    cases houtcome with
    | ready hrounds hpast hcomplete =>
      rw [hrounds, List.forall_mem_append, List.forall_mem_singleton]
      exact ⟨fun round h => (hpast round h).1.subperm, hcomplete.subperm⟩
    | exhausted _ hfailed => exact fun round h => (hfailed round h).1.subperm
    | cancelled _ _ hcomplete => exact fun round h => (hcomplete round h).subperm

/-- How the poll has ended, if it has. -/
theorem Fits.concludes {outcome : PollOutcome} (hfits : s.Fits ids options start notes)
    (h : s.poll.outcome? = some outcome) :
    Concludes ids (max 1 options.maxAttempts) notes outcome := by
  cases hfits.inPhase with
  | asleep hphase => rw [Poll.outcome?, hphase] at h; cases h
  | measuring hphase => rw [Poll.outcome?, hphase] at h; cases h
  | ended hphase _ _ houtcome =>
    rw [Poll.outcome?, hphase] at h
    cases h
    exact houtcome

/-- A poll that is ready has been noted as such once. -/
theorem Fits.calls_eq_one (hfits : s.Fits ids options start notes)
    (h : ∃ k, s.poll.outcome? = some (.ready k)) : s.calls = 1 := by
  rw [hfits.calls_eq, Poll.isReady_iff.2 h]
  rfl

/-- A poll that is not ready has not been noted as such. -/
theorem Fits.calls_eq_zero (hfits : s.Fits ids options start notes)
    (h : ¬ ∃ k, s.poll.outcome? = some (.ready k)) : s.calls = 0 := by
  rw [hfits.calls_eq, Bool.eq_false_of_not_eq_true (mt Poll.isReady_iff.1 h)]
  rfl

/-- The last round of a poll that is ready is the only one in which all measurements count. -/
theorem Concludes.of_ready {rounds k : Nat} (h : Concludes ids rounds notes (.ready k)) :
    k ≤ rounds ∧ (PollNote.rounds notes).length = k ∧
      ∀ j round, (PollNote.rounds notes)[j]? = some round →
        round.Complete ids ∧ (round.Usable ↔ j + 1 = k) := by
  cases h with
  | @ready past last hrounds hpast hcomplete husable hle =>
    refine ⟨hle, by rw [hrounds, List.length_append, List.length_singleton], fun j round hj => ?_⟩
    rw [hrounds] at hj
    rcases Nat.lt_trichotomy j past.length with hlt | rfl | hgt
    · rw [List.getElem?_append_left hlt] at hj
      have hround := hpast round (List.mem_of_getElem? hj)
      exact ⟨hround.1, iff_of_false hround.2 (by omega)⟩
    · rw [List.getElem?_concat_length] at hj
      cases hj
      exact ⟨hcomplete, iff_of_true husable rfl⟩
    · rw [List.getElem?_eq_none (by simpa using hgt)] at hj
      cases hj

/-- As long as a poll has not ended, something is to be done for it. -/
theorem Fits.busy (hfits : s.Fits ids options start notes) (h : s.poll.outcome? = none) :
    s.alarms ≠ 0 ∨ s.asked ≠ 0 ∨ s.awaited ≠ 0 := by
  cases hfits.inPhase with
  | asleep _ _ _ halarm => exact .inl fun hnone => by simp [hnone] at halarm
  | measuring _ _ _ _ hopen hpos =>
    rw [← hopen] at hpos
    rcases Nat.add_pos_iff_pos_or_pos.1 hpos with hasked | hawaited
    · exact .inr (.inl (Multiset.card_pos.1 hasked))
    · exact .inr (.inr (Multiset.card_pos.1 hawaited))
  | ended hphase => rw [Poll.outcome?, hphase] at h; cases h

/-! ### After the cancelling -/

/-- A poll has been cancelled, and if it was asleep, it has ended. -/
structure Halted (s : Standing) : Prop where
  cancelled : s.poll.cancelled = true
  awake : ∀ wakeAt, s.poll.phase ≠ .asleep wakeAt

/-- What a poll that has been cancelled may still do: end the round that is under way, but no
more. -/
structure Quiet (s : Standing) (notes : List PollNote) (t : Standing) : Prop where
  halted : t.Halted
  no_round : ∀ time, .round time ∉ notes
  attempts_eq : t.poll.attempts = s.poll.attempts
  calls_eq : t.calls = s.calls
  outcome? : t.poll.outcome? = s.poll.outcome? ∨
    s.poll.outcome? = none ∧ t.poll.outcome? = some (.cancelled s.poll.attempts)

/-- **The cancelling itself** does nothing but to end a poll that is asleep. -/
theorem quiet_cancel (s : Standing) : s.Quiet [.cancel] { s with poll := s.poll.cancel } := by
  by_cases hasleep : ∃ wakeAt, s.poll.phase = .asleep wakeAt
  · obtain ⟨wakeAt, hphase⟩ := hasleep
    have hnone : s.poll.outcome? = none := by rw [Poll.outcome?, hphase]
    rw [Poll.cancel_of_asleep hphase]
    exact ⟨⟨rfl, fun _ h => nomatch h⟩, by simp, rfl, rfl, .inr ⟨hnone, rfl⟩⟩
  · push Not at hasleep
    rw [Poll.cancel_of_awake hasleep]
    exact ⟨⟨rfl, hasleep⟩, by simp, rfl, rfl, .inl rfl⟩

/-- A poll that stays quiet for one while and then for another stays quiet. -/
theorem Quiet.trans (h : s.Quiet notes t) (h' : t.Quiet more u) : s.Quiet (notes ++ more) u where
  halted := h'.halted
  no_round time hmem := (List.mem_append.1 hmem).elim (h.no_round time) (h'.no_round time)
  attempts_eq := h'.attempts_eq.trans h.attempts_eq
  calls_eq := h'.calls_eq.trans h.calls_eq
  outcome? := by
    rcases h.outcome? with hsame | ⟨hnone, hcancelled⟩
    · rw [← hsame, ← h.attempts_eq]
      exact h'.outcome?
    · rcases h'.outcome? with hsame' | ⟨hnone', -⟩
      · exact .inr ⟨hnone, hsame'.trans hcancelled⟩
      · rw [hcancelled] at hnone'
        cases hnone'

/-- If a cancelled poll ends, it ends cancelled, unless it had ended before. -/
theorem Quiet.outcome_eq (h : s.Quiet notes t) {outcome : PollOutcome}
    (ht : t.poll.outcome? = some outcome) :
    outcome = s.poll.outcome?.getD (.cancelled s.poll.attempts) := by
  rcases h.outcome? with hsame | ⟨hnone, hcancelled⟩
  · rw [← hsame, ht]
    rfl
  · rw [hcancelled] at ht
    rw [hnone, ← Option.some.inj ht]
    rfl

/-- An outcome that was there when the poll was cancelled remains. -/
theorem Quiet.resolved (h : s.Quiet notes t) {outcome : PollOutcome}
    (hs : s.poll.outcome? = some outcome) : t.poll.outcome? = some outcome := by
  rcases h.outcome? with hsame | ⟨hnone, -⟩
  · exact hsame.trans hs
  · rw [hs] at hnone
    cases hnone

/-- Whatever is done for a poll that has been cancelled, it stays quiet. -/
theorem Halted.moves (hhalted : s.Halted) (hmoves : s.Moves notes t) : s.Quiet notes t := by
  cases hmoves with
  | rest | sleepOn | measure | ignore =>
    exact ⟨⟨hhalted.cancelled, hhalted.awake⟩, by simp, rfl, rfl, .inl rfl⟩
  | wake _ hwake =>
    obtain ⟨wakeAt, left, hphase, -⟩ := Poll.wake?_eq_some_iff.1 hwake
    exact absurd hphase (hhalted.awake wakeAt)
  | answer _ hanswer =>
    obtain ⟨open_, before, hphase, rfl⟩ := Poll.answer?_eq_some_iff.1 hanswer
    have hnone : s.poll.outcome? = none := by rw [Poll.outcome?, hphase]
    split
    · have hend (usable : Bool) :
          s.poll.afterRound s.now usable = .over (.cancelled s.poll.attempts) :=
        if_pos hhalted.cancelled
      rw [hend]
      exact ⟨⟨hhalted.cancelled, fun _ h => nomatch h⟩, by simp, rfl, rfl, .inr ⟨hnone, rfl⟩⟩
    · exact ⟨⟨hhalted.cancelled, fun _ h => nomatch h⟩, by simp, rfl, rfl, .inl hnone.symm⟩
  | cancel => exact s.quiet_cancel

/-- **What a poll that has been cancelled may still do.** Induction on the course. -/
theorem Course.quiet (hcourse : s.Course notes t) (hhalted : s.Halted) : s.Quiet notes t := by
  induction hcourse with
  | nil => exact ⟨hhalted, fun _ => List.not_mem_nil, rfl, rfl, .inl rfl⟩
  | snoc _ hmoves ih => exact ih.trans (ih.halted.moves hmoves)

end Standing

end Cutscene
