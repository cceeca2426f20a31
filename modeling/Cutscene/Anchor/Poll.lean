/-!
# Polls

A poll waits until several anchors can all be measured. After a first delay it measures all of
them. If each one has a usable place, it is ready; otherwise it tries again after an interval,
up to a number of rounds, and then gives up. A poll that is cancelled starts no further round
and never becomes ready; a round that is under way is waited for.

The poll itself has no clock: it is told when it is woken and what each measurement has found.
-/

namespace Cutscene

/-- When a poll measures, and how often. The times are in milliseconds. -/
structure PollOptions where
  initialDelay : Nat := 100
  interval : Nat := 250
  /-- The greatest number of rounds, where none counts as one. -/
  maxAttempts : Nat := 12
deriving DecidableEq

/-- How a poll ended, after how many rounds. -/
inductive PollOutcome where
  | ready (attempts : Nat)
  | exhausted (attempts : Nat)
  | cancelled (attempts : Nat)
deriving DecidableEq

/-- What a poll is doing. -/
inductive PollPhase where
  /-- It waits until some time. -/
  | asleep (wakeAt : Nat)
  /-- So many measurements have not been answered yet, and those that have were all usable. -/
  | measuring (open_ : Nat) (usable : Bool)
  | over (outcome : PollOutcome)
deriving DecidableEq

/-- A poll. -/
structure Poll where
  anchors : List String
  options : PollOptions
  /-- How many rounds have been started. -/
  attempts : Nat := 0
  /-- How many more may be started. -/
  left : Nat
  cancelled : Bool := false
  /-- It is served before everything else that is to be done at the same time. -/
  urgent : Bool := false
  phase : PollPhase
deriving DecidableEq

namespace Poll

/-- A poll that starts now. Of no anchors, all are ready. -/
def start (anchors : List String) (options : PollOptions) (now : Nat)
    (urgent : Bool := false) : Poll where
  anchors := anchors
  options := options
  urgent := urgent
  left := max 1 options.maxAttempts
  phase := if anchors = [] then .over (.ready 0) else .asleep (now + options.initialDelay)

/-- How the poll ended, if it has. -/
def outcome? (p : Poll) : Option PollOutcome :=
  match p.phase with
  | .over outcome => some outcome
  | .asleep _ | .measuring .. => none

/-- The poll is ready. -/
def isReady (p : Poll) : Bool :=
  match p.phase with
  | .over (.ready _) => true
  | _ => false

/-- Starts a round, if the poll is to be woken and there is one left. -/
def wake? (p : Poll) (now : Nat) : Option Poll :=
  match p.phase, p.left with
  | .asleep wakeAt, left + 1 =>
    if wakeAt ≤ now then
      some { p with
        attempts := p.attempts + 1
        left
        phase := .measuring p.anchors.length true }
    else none
  | _, _ => none

/-- What follows a round. -/
def afterRound (p : Poll) (now : Nat) (usable : Bool) : PollPhase :=
  if p.cancelled then .over (.cancelled p.attempts)
  else if usable then .over (.ready p.attempts)
  else if p.left = 0 then .over (.exhausted p.attempts)
  else .asleep (now + p.options.interval)

/-- Takes the answer of a measurement. The last one ends the round. -/
def answer? (p : Poll) (now : Nat) (usable : Bool) : Option Poll :=
  match p.phase with
  | .measuring open_ before =>
    some { p with
      phase :=
        if open_ ≤ 1 then p.afterRound now (before && usable)
        else .measuring (open_ - 1) (before && usable) }
  | .asleep _ | .over _ => none

/-- Cancels the poll. If it is asleep, it ends. -/
def cancel (p : Poll) : Poll :=
  match p.phase with
  | .asleep _ => { p with cancelled := true, phase := .over (.cancelled p.attempts) }
  | .measuring .. | .over _ => { p with cancelled := true }

/-! ### What is left to do -/

/-- What a poll counts for in the work that is left: a round needs two things done for each
anchor, and a measuring poll may have to be woken again. -/
def potential (p : Poll) : Nat :=
  p.left * (2 * p.anchors.length + 2) +
    match p.phase with
    | .measuring .. => 1
    | .asleep _ | .over _ => 0

/-- A round uses up two things for each anchor, and one more. -/
theorem potential_wake? {p q : Poll} {now : Nat} (h : p.wake? now = some q) :
    q.potential + 2 * q.anchors.length + 1 ≤ p.potential := by
  unfold wake? at h
  split at h
  · next wakeAt left hphase hleft =>
    split at h
    · cases h
      simp only [potential, hphase, hleft, Nat.succ_mul]
      omega
    · cases h
  · cases h

/-- An answer leaves no more to be done, and less if the poll goes back to sleep. -/
theorem potential_answer? {p q : Poll} {now : Nat} {usable : Bool}
    (h : p.answer? now usable = some q) :
    q.potential ≤ p.potential ∧ ∀ t, q.phase = .asleep t → q.potential + 1 ≤ p.potential := by
  unfold answer? at h
  split at h
  · next open_ before hphase =>
    cases h
    refine ⟨?_, fun t ht => ?_⟩
    · simp only [potential, hphase]
      split <;> omega
    · simp only at ht
      simp only [potential, hphase, ht]
      omega
  · cases h
  · cases h

/-- Cancelling leaves no more to be done. -/
theorem potential_cancel (p : Poll) : p.cancel.potential ≤ p.potential := by
  unfold cancel
  split <;> simp_all [potential]

end Poll

end Cutscene
