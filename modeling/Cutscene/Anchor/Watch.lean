import Cutscene.Agenda
import Cutscene.Anchor
import Cutscene.Anchor.Poll

/-!
# Watches

A watch runs polls over anchors in time. Its time is a number of milliseconds that moves only
when something is due, or when it is told to move (`advanceTo`); what is due at one time is done
in the order in which it was put down.

Each thing that is done leaves less to be done (`work_next_lt`), so that running a watch comes
to an end.
-/

namespace Cutscene

/-- Something that a watch has to do. A poll is named by its place among the polls. -/
inductive Chore where
  | wake (poll : Nat)
  | measure (poll : Nat) (anchor : String)
  | answer (poll : Nat) (usable : Bool)
  | cancel (poll : Nat)
deriving DecidableEq

/-- Polls over anchors in time. -/
structure Watch where
  now : Nat := 0
  anchors : Anchors := ∅
  polls : List Poll := []
  agenda : Agenda Chore := []
  /-- The polls that have become ready, in order. -/
  ready : List Nat := []
deriving DecidableEq

namespace Watch

/-! ### What a watch does -/

/-- Puts a poll in its place. If it sleeps, it has to be woken; if it is ready, that is noted. -/
def put (w : Watch) (i : Nat) (poll : Poll) : Watch :=
  let w := { w with polls := w.polls.set i poll }
  match poll.phase with
  | .asleep wakeAt =>
    { w with
      agenda :=
        if poll.urgent then w.agenda.precede wakeAt (.wake i)
        else w.agenda.insert wakeAt (.wake i) }
  | .over (.ready _) => { w with ready := w.ready ++ [i] }
  | .measuring .. | .over _ => w

/-- Cancels a poll. -/
def cancel (w : Watch) (i : Nat) : Watch := { w with polls := w.polls.modify i Poll.cancel }

/-- Does something. What no longer has a point is passed over. -/
def perform (w : Watch) : Chore → Watch
  | .wake i =>
    match w.polls[i]?.bind (·.wake? w.now) with
    | some poll =>
      { w with
        polls := w.polls.set i poll
        agenda := w.agenda.insertAll w.now (poll.anchors.map (.measure i)) }
    | none => w
  | .measure i anchor =>
    let delay := (w.anchors.get? anchor).elim 0 Anchor.delay
    let (measured, anchors) := w.anchors.measure anchor
    { w with
      anchors
      agenda := w.agenda.insert (w.now + delay) (.answer i measured.usable?.isSome) }
  | .answer i usable =>
    match w.polls[i]?.bind (·.answer? w.now usable) with
    | some poll => w.put i poll
    | none => w
  | .cancel i => w.cancel i

/-- Does the next thing that is to be done, at its time. -/
def next? (w : Watch) : Option Watch :=
  match w.agenda with
  | [] => none
  | (time, chore) :: rest =>
    some ({ w with now := max w.now time, agenda := rest }.perform chore)

/-- Starts a poll, which takes the next place among the polls. -/
def start (w : Watch) (anchors : List String) (options : PollOptions)
    (urgent : Bool := false) : Watch :=
  let poll := Poll.start anchors options w.now urgent
  { w with polls := w.polls ++ [poll] }.put w.polls.length poll

/-- How a poll ended, if it has. -/
def outcome? (w : Watch) (i : Nat) : Option PollOutcome := w.polls[i]?.bind Poll.outcome?

end Watch

/-! ### Running a watch -/

/-- What a thing to be done counts for in the work that is left. -/
def Chore.weight : Chore → Nat
  | .measure .. => 2
  | .wake _ | .answer .. | .cancel _ => 1

namespace Watch

/-- The work that is left. -/
def work (w : Watch) : Nat :=
  weigh Poll.potential w.polls + w.agenda.total Chore.weight

/-- A poll that takes its place again leaves no more work, as long as going to sleep is paid for. -/
theorem work_put {w : Watch} {i : Nat} {p q : Poll} (h : w.polls[i]? = some p)
    (hle : q.potential ≤ p.potential)
    (hasleep : ∀ t, q.phase = .asleep t → q.potential + 1 ≤ p.potential) :
    (w.put i q).work ≤ w.work := by
  have hsum := weigh_set Poll.potential q h
  unfold put
  split
  · next wakeAt hphase =>
    have := hasleep wakeAt hphase
    simp only [work]
    split <;> simp only [Agenda.total_precede, Agenda.total_insert, Chore.weight] <;> omega
  · simp only [work]; omega
  · simp only [work]; omega
  · simp only [work]; omega

/-- Cancelling leaves no more work. -/
theorem work_cancel (w : Watch) (i : Nat) : (w.cancel i).work ≤ w.work := by
  have hle := weigh_modify_le Poll.potential Poll.potential_cancel w.polls i
  simp only [work, cancel]
  omega

/-- What a chore brings with it counts for less than the chore. -/
theorem work_perform_lt (w : Watch) (chore : Chore) :
    (w.perform chore).work < w.work + chore.weight := by
  unfold perform
  split
  · next i =>
    split
    · next q hq =>
      obtain ⟨p, hp, hwake⟩ := Option.bind_eq_some_iff.1 hq
      have hpotential := Poll.potential_wake? hwake
      have hsum := weigh_set Poll.potential q hp
      have hweights : weigh Chore.weight (q.anchors.map (Chore.measure i)) =
          2 * q.anchors.length := by
        rw [weigh_map]
        exact weigh_const 2 q.anchors
      simp only [work, Agenda.total_insertAll, hweights, Chore.weight]
      omega
    · simp [Chore.weight]
  · simp only [work, Agenda.total_insert, Chore.weight]
    omega
  · next i usable =>
    split
    · next q hq =>
      obtain ⟨p, hp, hanswer⟩ := Option.bind_eq_some_iff.1 hq
      obtain ⟨hle, hasleep⟩ := Poll.potential_answer? hanswer
      have := work_put hp hle hasleep
      simp only [Chore.weight]
      omega
    · simp [Chore.weight]
  · next i =>
    have := w.work_cancel i
    simp only [Chore.weight]
    omega

/-- Each thing that is done leaves less to be done. -/
theorem work_next_lt {w v : Watch} (h : w.next? = some v) : v.work < w.work := by
  unfold next? at h
  split at h
  · cases h
  · next time chore rest hagenda =>
    cases h
    have := work_perform_lt { w with now := max w.now time, agenda := rest } chore
    simp only [work, hagenda, Agenda.total_cons] at this ⊢
    omega

/-- Does what is to be done as long as a condition holds. -/
def runWhile (goesOn : Watch → Bool) (w : Watch) : Watch :=
  if goesOn w then
    match _h : w.next? with
    | some v => runWhile goesOn v
    | none => w
  else w
termination_by w.work
decreasing_by exact work_next_lt _h

/-- Something is to be done by a time. -/
def isDue (time : Nat) (w : Watch) : Bool := (w.agenda.due?).any (· ≤ time)

/-- Does all that is to be done by a time, and moves on to it. -/
def advanceTo (w : Watch) (time : Nat) : Watch :=
  let w := w.runWhile (isDue time)
  { w with now := max w.now time }

/-- Does all that is to be done by now. -/
def catchUp (w : Watch) : Watch := w.advanceTo w.now

/-- Goes on until a poll has ended. -/
def await (w : Watch) (i : Nat) : Watch := w.runWhile fun w => (w.outcome? i).isNone

end Watch

end Cutscene
