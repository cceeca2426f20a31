import Cutscene.Proofs.Anchor.Course
import Mathlib

/-!
# Polling

What a poll of some anchors comes to, whatever the anchors do and in whatever order the answers
come in.

## Main results

* `Watch.Course.resolves`: a poll that nobody cancels is ready after the first round in which all
  measurements count, and exhausted if there is none among those that it has.
* `Watch.Course.stops`: a poll that is cancelled begins no further round and does not become ready.
-/

namespace Cutscene

namespace Watch

variable {w₀ w₁ w₂ w : Watch} {i : Nat} {ids : List String} {options : PollOptions}
  {urgent : Bool} {past before after log : List (Nat × PollNote)}

/-- The rounds of a poll. -/
def rounds (i : Nat) (log : List (Nat × PollNote)) : List PollRound :=
  PollNote.rounds (notesOf i log)

/-- **A poll of some anchors fits the notes of it**, whatever happens at the watch. -/
theorem Sound.exists_fits (hw : w₀.Sound) (hids : ids ≠ [])
    (hcourse : (w₀.start ids options urgent).Course log w) :
    ∃ p, w.polls[w₀.polls.length]? = some p ∧
      (w.standing w₀.polls.length p).Fits ids options w₀.now (notesOf w₀.polls.length log) := by
  obtain ⟨hstart, hbegin⟩ := hw.start hids options urgent
  obtain ⟨p, hp, hown⟩ := hcourse.exists_standing hstart
  rw [hbegin] at hown
  exact ⟨p, hp, hown.fits hids⟩

/-- A poll has ended when a watch has nothing to do. -/
theorem Sound.isSome_outcome? (hw : w₀.Sound) (hids : ids ≠ [])
    (hcourse : (w₀.start ids options urgent).Course log w) (hnil : w.agenda = []) :
    (w.outcome? w₀.polls.length).isSome := by
  obtain ⟨p, hp, hfits⟩ := hw.exists_fits hids hcourse
  by_contra hnone
  rw [outcome?, hp, Option.bind_some, Option.not_isSome_iff_eq_none] at hnone
  exact agenda_ne_nil (hfits.busy hnone) hnil

/-- **Waiting for a poll comes to an end**, and is a course of the watch. -/
theorem Sound.exists_await (hw : w₀.Sound) (hids : ids ≠ [])
    (hcourse : (w₀.start ids options urgent).Course log w) :
    ∃ more, w.Course more (w.await w₀.polls.length) ∧
      (∀ j, w.CancelFree j → (j, .cancel) ∉ more) ∧
      ((w.await w₀.polls.length).outcome? w₀.polls.length).isSome := by
  have hsound : w.Sound := hcourse.sound (hw.brings (.start ids options urgent))
  obtain ⟨more, hlater, hfree⟩ :=
    hsound.exists_course_runWhile fun w => (w.outcome? w₀.polls.length).isNone
  refine ⟨more, hlater, hfree, ?_⟩
  rcases runWhile_stops (fun w => (w.outcome? w₀.polls.length).isNone) w with hstop | hnil
  · rwa [Option.isNone_eq_false_iff] at hstop
  · exact hw.isSome_outcome? hids (hcourse.trans hlater) hnil

/-! ### Polls that nobody cancels -/

/-- **What a poll comes to that nobody cancels.** -/
structure Resolves (ids : List String) (options : PollOptions) (start i : Nat)
    (log : List (Nat × PollNote)) (w : Watch) : Prop where
  /-- Each measurement belongs to a round. -/
  queries_eq : (rounds i log).flatMap PollRound.queries =
    (notesOf i log).filterMap PollNote.query?
  /-- It has no more rounds than it may have. -/
  length_le : (rounds i log).length ≤ max 1 options.maxAttempts
  /-- In no round is an anchor measured more often than it is named. -/
  subperm : ∀ round ∈ rounds i log, round.asked.Subperm ids
  /-- A round is followed by another one only when each anchor has been measured and not all
  measurements count. -/
  failed : ∀ round ∈ (rounds i log).dropLast, round.Failed ids
  /-- When it is ready, each anchor has been measured in each round, and the last one is the first
  in which all measurements count. -/
  ready : ∀ k, w.outcome? i = some (.ready k) →
    k ≤ max 1 options.maxAttempts ∧ (rounds i log).length = k ∧
      ∀ j round, (rounds i log)[j]? = some round →
        round.Complete ids ∧ (round.Usable ↔ j + 1 = k)
  /-- When it is exhausted, it has had all its rounds, and there is no such round. -/
  exhausted : ∀ k, w.outcome? i = some (.exhausted k) →
    k = max 1 options.maxAttempts ∧ (rounds i log).length = k ∧
      ∀ round ∈ rounds i log, round.Failed ids
  not_cancelled : ∀ k, w.outcome? i ≠ some (.cancelled k)
  /-- That it is ready is noted once, and only when it is. -/
  called : (∃ k, w.outcome? i = some (.ready k)) → w.ready.count i = 1
  not_called : (¬ ∃ k, w.outcome? i = some (.ready k)) → w.ready.count i = 0
  /-- When measurements take no time, the rounds follow each other at the interval. -/
  timed : (∀ query, (i, .query query) ∈ log → query.delay = 0) →
    ∀ k round, (rounds i log)[k]? = some round →
      round.time = start + options.initialDelay + k * options.interval
  /-- It has ended when nothing is left to be done. -/
  ended : w.agenda = [] → (w.outcome? i).isSome
  /-- Waiting for it comes to an end, and as long as nobody is going to cancel it, it stays such a
  poll. -/
  awaited : ((w.await i).outcome? i).isSome ∧
    (w.CancelFree i → ∃ more, w.Course more (w.await i) ∧ (i, .cancel) ∉ more)

/-- **The outcome of a poll** of some anchors that nobody cancels. -/
theorem Course.resolves (hpast : Course {} past w₀) (hids : ids ≠ [])
    (hcourse : (w₀.start ids options urgent).Course log w)
    (hfree : (w₀.polls.length, .cancel) ∉ log) :
    Resolves ids options w₀.now w₀.polls.length log w := by
  have hw := hpast.sound sound_empty
  obtain ⟨p, hp, hfits⟩ := hw.exists_fits hids hcourse
  obtain ⟨more, hlater, hmore, hawait⟩ := hw.exists_await hids hcourse
  have houtcome : w.outcome? w₀.polls.length = p.outcome? := by
    rw [outcome?, hp]
    rfl
  refine ⟨hfits.queries_eq, ?_, hfits.subperm, hfits.failed, fun k h => ?_, fun k h => ?_,
    fun k h => ?_, fun h => hfits.calls_eq_one (houtcome ▸ h),
    fun h => hfits.calls_eq_zero (houtcome ▸ h), fun h k round hk => ?_,
    hw.isSome_outcome? hids hcourse, hawait, fun hno => ⟨more, hlater, hmore _ hno⟩⟩
  · have := hfits.attempts_add_left
    rw [rounds, ← hfits.attempts_eq]
    exact Nat.le.intro this
  · exact (hfits.concludes (houtcome ▸ h)).of_ready
  · cases hfits.concludes (houtcome ▸ h) with
    | exhausted hrounds hfailed => exact ⟨rfl, hrounds, hfailed⟩
  · cases hfits.concludes (houtcome ▸ h) with
    | cancelled hcancel => exact hfree (mem_notesOf.1 hcancel)
  · exact hfits.time_eq (fun query hquery => h query (mem_notesOf.1 hquery)) hk

/-! ### A lamp on the quay -/

/-- A place on the screen. -/
def spot : Rect := ⟨⟨0⟩, ⟨0⟩, ⟨0x4000000000000000⟩, ⟨0x4000000000000000⟩⟩

/-- The lamp is found by the second measurement only, and the pier by each, but not at once. -/
def quay : Watch where
  anchors := NameMap.ofEntries
    [("lamp", { rect := some spot, readyOn := 2 }), ("pier", { rect := some spot, delay := 30 })]

/-- Somebody looks for both. -/
def dusk : Watch := quay.start ["lamp", "pier"] { maxAttempts := 3 }

/-- The first round has begun. -/
def lookout : Watch := { dusk with now := 100, agenda := [] }.perform (.wake 0)

/-- The lamp has been looked for. -/
def glimpse : Watch :=
  { lookout with agenda := [(100, .measure 0 "pier")] }.perform (.measure 0 "lamp")

/-- So the first round begins after the delay, and does not find the lamp. -/
theorem course_glimpse :
    dusk.Course [(0, .round 100), (0, .query ⟨"lamp", .nowhere, 0⟩)] glimpse := by
  have hrest : dusk.Brings [] { dusk with now := 100 } := .rest 100 (by decide) (by decide)
  have hwake : Brings { dusk with now := 100 } [(0, .round 100)] lookout :=
    .chore [] (.wake 0) [] rfl
  have hlamp : lookout.Brings [(0, .query ⟨"lamp", .nowhere, 0⟩)] glimpse :=
    .chore [] (.measure 0 "lamp") [(100, .measure 0 "pier")] rfl
  exact (hrest.course.snoc hwake).snoc hlamp

/-- What is noted until both have been found. -/
def found : List (Nat × PollNote) :=
  [(0, .round 100), (0, .query ⟨"lamp", .nowhere, 0⟩), (0, .query ⟨"pier", .somewhere spot, 30⟩),
    (0, .round 380), (0, .query ⟨"pier", .somewhere spot, 30⟩),
    (0, .query ⟨"lamp", .somewhere spot, 0⟩)]

/-- In the second round both are found, though the pier only on second thought. -/
theorem exists_course_found : ∃ w, dusk.Course found w ∧ w.outcome? 0 = some (.ready 2) := by
  have h := course_glimpse.snoc (.chore [] (.measure 0 "pier") [(100, .answer 0 false)] rfl)
  have h := h.snoc (.chore [] (.answer 0 false) [(130, .answer 0 true)] rfl)
  have h := h.snoc (.rest 130 (by decide) (by decide))
  have h := h.snoc (.chore [] (.answer 0 true) [] rfl)
  have h := h.snoc (.rest 380 (by decide) (by decide))
  have h := h.snoc (.chore [] (.wake 0) [] rfl)
  have h := h.snoc (.chore [(380, .measure 0 "lamp")] (.measure 0 "pier") [] rfl)
  have h := h.snoc (.chore [] (.measure 0 "lamp") [(410, .answer 0 true)] rfl)
  have h := h.snoc (.chore [] (.answer 0 true) [(410, .answer 0 true)] rfl)
  have h := h.snoc (.rest 410 (by decide) (by decide))
  have h := h.snoc (.chore [] (.answer 0 true) [] rfl)
  exact ⟨_, h, by decide⟩

/-- Nobody cancels this poll, and it is ready after the second round. -/
theorem resolves_at_quay : ∃ w, dusk.Course found w ∧ w.outcome? 0 = some (.ready 2) ∧
    Resolves ["lamp", "pier"] { maxAttempts := 3 } 0 0 found w := by
  obtain ⟨w, hcourse, hready⟩ := exists_course_found
  have hquay : Course {} [] quay := (Brings.anchors quay.anchors).course
  exact ⟨w, hcourse, hready, hquay.resolves (by decide) hcourse (by decide)⟩

/-! ### Polls that are cancelled -/

/-- What happens when a poll is cancelled, be it at once or as it was planned. -/
theorem Brings.cancels {p : Poll} (h : w₁.Brings [(i, .cancel)] w₂) (hp : w₁.polls[i]? = some p) :
    w₂.polls[i]? = some p.cancel ∧
      w₂.standing i p.cancel = { w₁.standing i p with poll := p.cancel } := by
  generalize hlog : [(i, PollNote.cancel)] = log at h
  cases h with
  | rest | anchors | start | plan => cases hlog
  | chore front chore back hagenda =>
    obtain rfl : chore = .cancel i := eq_of_mem_notes (by rw [← hlog]; exact List.mem_cons_self ..)
    have hperm : w₁.agenda.Perm ((w₁.now, .cancel i) :: (front ++ back)) := by
      rw [hagenda]
      exact List.perm_middle
    have hless := spares_of_perm (w := { w₁ with agenda := front ++ back }) (i := i) hperm
      fun _ => rfl
    exact ⟨getElem?_cancel hp, (hless.standing_eq p.cancel).symm⟩
  | cancel =>
    cases hlog
    exact ⟨getElem?_cancel hp, rfl⟩

/-- Whatever happens after a poll has been cancelled, the poll is quiet. -/
theorem Brings.exists_quiet {p : Poll} (h : w₁.Brings [(i, .cancel)] w₂)
    (hp : w₁.polls[i]? = some p) (hafter : w₂.Course after w) :
    ∃ q, w.polls[i]? = some q ∧
      (w₁.standing i p).Quiet (.cancel :: notesOf i after) (w.standing i q) := by
  obtain ⟨hp₂, hs₂⟩ := h.cancels hp
  obtain ⟨q, hq, hown⟩ := hafter.exists_standing hp₂
  have hcancel := (w₁.standing i p).quiet_cancel
  rw [hs₂] at hown
  exact ⟨q, hq, hcancel.trans (hown.quiet hcancel.halted)⟩

/-- **What a poll does that has been cancelled**, by the notes before and after. -/
structure Stops (i : Nat) (before after : List (Nat × PollNote)) (w₁ w : Watch) : Prop where
  /-- No further round begins. -/
  no_round : ∀ time, (i, .round time) ∉ after
  /-- It is not noted as ready any more. -/
  count_eq : w.ready.count i = w₁.ready.count i
  /-- If it had ended, it stays so. -/
  resolved : ∀ outcome, w₁.outcome? i = some outcome → w.outcome? i = some outcome
  /-- Otherwise it ends as cancelled after the rounds that had begun. -/
  cancelled : w₁.outcome? i = none → ∀ outcome, w.outcome? i = some outcome →
    outcome = .cancelled (rounds i before).length
  /-- Waiting for it comes to this end. -/
  joined : (∃ more, w.Course more (w.await i)) ∧ (w.await i).outcome? i =
    some ((w₁.outcome? i).getD (.cancelled (rounds i before).length))
  /-- That it is ready is noted once, and only when it is. -/
  called : (∃ k, w.outcome? i = some (.ready k)) → w.ready.count i = 1
  not_called : (¬ ∃ k, w.outcome? i = some (.ready k)) → w.ready.count i = 0

/-- **The cancelling of a poll** of some anchors at any moment. -/
theorem Course.stops (hpast : Course {} past w₀) (hids : ids ≠ [])
    (hbefore : (w₀.start ids options urgent).Course before w₁)
    (hcancel : w₁.Brings [(w₀.polls.length, .cancel)] w₂) (hafter : w₂.Course after w) :
    Stops w₀.polls.length before after w₁ w := by
  have hw := hpast.sound sound_empty
  have hcourse := (hbefore.snoc hcancel).trans hafter
  obtain ⟨p, hp, hfits⟩ := hw.exists_fits hids hbefore
  obtain ⟨q, hq, hquiet⟩ := hcancel.exists_quiet hp hafter
  obtain ⟨q', hq', hfits'⟩ := hw.exists_fits hids hcourse
  obtain rfl : q = q' := Option.some.inj (hq.symm.trans hq')
  obtain ⟨more, hlater, -, hawait⟩ := hw.exists_await hids hcourse
  obtain ⟨r, hr, hquiet'⟩ := hcancel.exists_quiet hp (hafter.trans hlater)
  have houtcome : w.outcome? w₀.polls.length = q.outcome? := by rw [outcome?, hq, Option.bind_some]
  have hbegun : (rounds w₀.polls.length before).length = p.attempts := hfits.attempts_eq.symm
  have hearlier : w₁.outcome? w₀.polls.length = p.outcome? := by
    rw [outcome?, hp, Option.bind_some]
  refine ⟨fun time hmem => ?_, hquiet.calls_eq, fun outcome h => ?_, fun h outcome h' => ?_,
    ⟨⟨more, hlater⟩, ?_⟩, fun h => hfits'.calls_eq_one (houtcome ▸ h),
    fun h => hfits'.calls_eq_zero (houtcome ▸ h)⟩
  · exact hquiet.no_round time (List.mem_cons_of_mem _ (mem_notesOf.2 hmem))
  · rw [houtcome]
    exact hquiet.resolved (hearlier ▸ h)
  · have hnone : p.outcome? = none := hearlier ▸ h
    rw [hbegun]
    exact (hquiet.outcome_eq (houtcome ▸ h')).trans (congrArg (Option.getD · _) hnone)
  · obtain ⟨outcome, hend⟩ := Option.isSome_iff_exists.1 hawait
    rw [hend, hbegun, hearlier]
    rw [outcome?, hr, Option.bind_some] at hend
    exact congrArg some (hquiet'.outcome_eq hend)

/-- Nobody waits for the pier any more. -/
theorem exists_course_dark : ∃ w, (glimpse.cancel 0).Course
    [(0, .query ⟨"pier", .somewhere spot, 30⟩)] w ∧ w.outcome? 0 = some (.cancelled 1) := by
  have hpier : (glimpse.cancel 0).Brings _ _ :=
    .chore [] (.measure 0 "pier") [(100, .answer 0 false)] rfl
  have h := hpier.course.snoc (.chore [] (.answer 0 false) [(130, .answer 0 true)] rfl)
  have h := h.snoc (.rest 130 (by decide) (by decide))
  have h := h.snoc (.chore [] (.answer 0 true) [] rfl)
  exact ⟨_, h, by decide⟩

/-- Cancelled in its first round, the poll waits for the pier and begins no other round. -/
theorem stops_at_quay : ∃ w,
    (glimpse.cancel 0).Course [(0, .query ⟨"pier", .somewhere spot, 30⟩)] w ∧
      w.outcome? 0 = some (.cancelled 1) ∧
      Stops 0 [(0, .round 100), (0, .query ⟨"lamp", .nowhere, 0⟩)]
        [(0, .query ⟨"pier", .somewhere spot, 30⟩)] glimpse w := by
  obtain ⟨w, hafter, hcancelled⟩ := exists_course_dark
  have hquay : Course {} [] quay := (Brings.anchors quay.anchors).course
  exact ⟨w, hafter, hcancelled,
    hquay.stops (by decide) course_glimpse (.cancel (by decide)) hafter⟩

end Watch

end Cutscene
