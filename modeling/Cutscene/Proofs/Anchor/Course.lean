import Cutscene.Anchor.Watch
import Cutscene.Proofs.Anchor.Standing
import Mathlib

/-!
# The Course of a Watch

What is due at a watch may be done in any order, as long as each thing is done at its time. In
between, anchors come and go, and polls are started and cancelled (`Watch.Brings`). A course of a
watch takes down what is done for each poll (`Watch.Course`).

What a watch does for one poll is a course of this poll by itself, since the polls do not
touch each other.

## Main results

* `Watch.Sound.brings`: what is to be done is in order of time, lies ahead, and belongs to polls
  that there are.
* `Watch.Course.exists_standing`: how one poll fares at a watch.
* `Watch.exists_course_runWhile`, `Watch.exists_course_advanceTo`: what a watch does by itself is a
  course.
-/

namespace Cutscene

/-! ### Chores of one poll -/

namespace Chore

/-- The poll that a chore belongs to. -/
def poll : Chore → Nat
  | wake i | measure i _ | answer i _ | cancel i => i

/-- When a poll is to be woken. -/
def alarm? (i : Nat) : Nat × Chore → Option Nat
  | (time, wake j) => if j = i then some time else none
  | (_, measure ..) | (_, answer ..) | (_, cancel _) => none

/-- What is to be measured for a poll. -/
def asked? (i : Nat) : Nat × Chore → Option (Nat × String)
  | (time, measure j anchor) => if j = i then some (time, anchor) else none
  | (_, wake _) | (_, answer ..) | (_, cancel _) => none

/-- What answer a poll is to get. -/
def awaited? (i : Nat) : Nat × Chore → Option (Nat × Bool)
  | (time, answer j usable) => if j = i then some (time, usable) else none
  | (_, wake _) | (_, measure ..) | (_, cancel _) => none

variable {i : Nat} {entry : Nat × Chore}

/-- Only a chore that wakes a poll is an alarm for it. -/
theorem eq_of_alarm? {time : Nat} (h : alarm? i entry = some time) : entry = (time, wake i) := by
  obtain ⟨t, chore⟩ := entry
  cases chore <;> simp_all [alarm?]

/-- What is done for another poll, and a cancelling, is none of these things. -/
theorem picks_eq_none (h : entry.2.poll = i → entry.2 = cancel i) :
    alarm? i entry = none ∧ asked? i entry = none ∧ awaited? i entry = none := by
  obtain ⟨time, chore⟩ := entry
  cases chore <;> simp_all [alarm?, asked?, awaited?, poll]

end Chore

namespace Poll

variable {p q : Poll} {now wakeAt : Nat}

/-- A poll that has just been started does not sleep until an earlier time. -/
theorem now_le_of_start {ids : List String} {options : PollOptions} {urgent : Bool}
    (h : (start ids options now urgent).phase = .asleep wakeAt) : now ≤ wakeAt := by
  unfold start at h
  dsimp only at h
  split at h
  · cases h
  · cases h
    exact Nat.le_add_right ..

/-- Nor does one that goes back to sleep. -/
theorem now_le_of_answer? {usable : Bool} (h : p.answer? now usable = some q)
    (hphase : q.phase = .asleep wakeAt) : now ≤ wakeAt := by
  obtain ⟨open_, before, -, rfl⟩ := answer?_eq_some_iff.1 h
  dsimp only [afterRound] at hphase
  split_ifs at hphase
  cases hphase
  exact Nat.le_add_right ..

end Poll

namespace Agenda

variable {α β : Type} {f : Nat × α → Option β} {agenda : Agenda α} {time : Nat} {item : α}

/-- Putting several things down adds each of them once. -/
theorem perm_insertAll (time : Nat) (items : List α) (agenda : Agenda α) :
    (insertAll time items agenda).Perm (items.map (time, ·) ++ agenda) := by
  induction items generalizing agenda with
  | nil => exact .refl _
  | cons item rest ih =>
    exact (ih _).trans (((perm_insert time item agenda).append_left _).trans List.perm_middle)

/-- What is to be done is what was put down, and what was to be done before. -/
theorem mem_insert {entry : Nat × α} :
    entry ∈ agenda.insert time item ↔ entry = (time, item) ∨ entry ∈ agenda :=
  (perm_insert ..).mem_iff.trans List.mem_cons

/-- The same holds where something is given precedence. -/
theorem mem_precede {entry : Nat × α} :
    entry ∈ agenda.precede time item ↔ entry = (time, item) ∨ entry ∈ agenda :=
  (perm_precede ..).mem_iff.trans List.mem_cons

/-- An agenda stays in order of time when something is given precedence. -/
theorem ordered_precede (h : Ordered agenda) : Ordered (precede time item agenda) := by
  induction agenda with
  | nil => exact List.pairwise_singleton ..
  | cons first rest ih =>
    obtain ⟨hfirst, hrest⟩ := List.pairwise_cons.1 h
    rw [precede]
    split
    · next hlt =>
      refine List.pairwise_cons.2 ⟨fun entry hentry => ?_, ih hrest⟩
      rcases mem_precede.1 hentry with rfl | hentry
      · exact hlt.le
      · exact hfirst entry hentry
    · next hle =>
      refine List.pairwise_cons.2 ⟨fun entry hentry => ?_, h⟩
      rcases List.mem_cons.1 hentry with rfl | hentry
      · exact Nat.le_of_not_lt hle
      · exact (Nat.le_of_not_lt hle).trans (hfirst entry hentry)

/-- It stays in order when several things are put down. -/
theorem ordered_insertAll {items : List α} (h : Ordered agenda) :
    Ordered (insertAll time items agenda) := by
  induction items generalizing agenda with
  | nil => exact h
  | cons item rest ih => exact ih (ordered_insert h)

/-- The first thing is the first that is to be done. -/
theorem Ordered.first_le {first : Nat × α} (h : Ordered (first :: agenda)) :
    ∀ entry ∈ first :: agenda, first.1 ≤ entry.1 :=
  List.forall_mem_cons.2 ⟨le_rfl, (List.pairwise_cons.1 h).1⟩

/-- What some of the entries of an agenda come down to, in whatever order. -/
def pick (f : Nat × α → Option β) (agenda : Agenda α) : Multiset β := agenda.filterMap f

/-- The order of an agenda does not matter for what is picked from it. -/
theorem pick_perm {agenda' : Agenda α} (h : agenda.Perm agenda') : agenda.pick f = agenda'.pick f :=
  Multiset.coe_eq_coe.2 (h.filterMap f)

/-- What is put down is picked along with what there was. -/
theorem pick_insertAll {items : List α} : (agenda.insertAll time items).pick f =
    (items.map (time, ·)).filterMap f + agenda.pick f := by
  rw [pick_perm (perm_insertAll ..), pick, List.filterMap_append]
  rfl

/-- An entry that is not picked can be left out. -/
theorem pick_cons_none {entry : Nat × α} (h : f entry = none) :
    pick f (entry :: agenda) = agenda.pick f := by
  rw [pick, List.filterMap_cons_none h]
  rfl

/-- An entry that is picked comes once more. -/
theorem pick_cons_some {entry : Nat × α} {b : β} (h : f entry = some b) :
    pick f (entry :: agenda) = b ::ₘ agenda.pick f := by
  rw [pick, List.filterMap_cons_some h]
  rfl

/-- Where no entry is picked, nothing is. -/
theorem pick_eq_zero (h : ∀ entry ∈ agenda, f entry = none) : agenda.pick f = 0 := by
  rw [pick, List.filterMap_eq_nil_iff.2 h]
  rfl

/-- What has been picked was picked from some entry. -/
theorem mem_pick {b : β} : b ∈ agenda.pick f ↔ ∃ entry ∈ agenda, f entry = some b :=
  List.mem_filterMap

end Agenda

namespace Watch

variable {w v u : Watch} {i : Nat}

/-! ### What may happen at a watch -/

/-- What is noted of a chore. -/
def note? (w : Watch) : Chore → Option PollNote
  | .wake i => (w.polls[i]?.bind (·.wake? w.now)).map fun _ => .round w.now
  | .measure _ anchor =>
    some (.query ⟨anchor, (w.anchors.measure anchor).1,
      (w.anchors.get? anchor).elim 0 Anchor.delay⟩)
  | .answer .. => none
  | .cancel _ => some .cancel

/-- What is noted of a chore, and of which poll. -/
def notes (w : Watch) (chore : Chore) : List (Nat × PollNote) :=
  ((w.note? chore).map (chore.poll, ·)).toList

/-- **What may happen at a watch next**, what is noted, and the watch then: something that is due is
done; nothing is due, and time passes; the anchors change in any way; a poll is started, is
cancelled, or is going to be cancelled. -/
inductive Brings (w : Watch) : List (Nat × PollNote) → Watch → Prop
  | rest (time : Nat) (hnow : w.now ≤ time) (hagenda : ∀ entry ∈ w.agenda, time ≤ entry.1) :
      Brings w [] { w with now := time }
  | chore (front : Agenda Chore) (chore : Chore) (back : Agenda Chore)
      (hagenda : w.agenda = front ++ (w.now, chore) :: back) :
      Brings w (w.notes chore) ({ w with agenda := front ++ back }.perform chore)
  | anchors (anchors : Anchors) : Brings w [] { w with anchors }
  | start (ids : List String) (options : PollOptions) (urgent : Bool) :
      Brings w [] (w.start ids options urgent)
  | cancel {i : Nat} (hi : i < w.polls.length) : Brings w [(i, .cancel)] (w.cancel i)
  | plan {i time : Nat} (hi : i < w.polls.length) (hnow : w.now ≤ time) :
      Brings w [] { w with agenda := w.agenda.insert time (.cancel i) }

/-- A course of a watch, with what is noted on the way. -/
inductive Course (w : Watch) : List (Nat × PollNote) → Watch → Prop
  | nil : Course w [] w
  | snoc {log more : List (Nat × PollNote)} {v u : Watch} (hcourse : Course w log v)
      (hbrings : v.Brings more u) : Course w (log ++ more) u

variable {log more : List (Nat × PollNote)}

/-- What happens next is a course. -/
theorem Brings.course (h : w.Brings log v) : w.Course log v := Course.nil.snoc h

/-- A course goes on with another one. Induction on the later one. -/
theorem Course.trans (h : w.Course log v) (h' : v.Course more u) : w.Course (log ++ more) u := by
  induction h' with
  | nil => rwa [List.append_nil]
  | snoc _ hbrings ih => rw [← List.append_assoc]; exact ih.snoc hbrings

/-! ### Soundness -/

/-- What is to be done is in order of time, lies ahead, and belongs to polls that there are. -/
structure Sound (w : Watch) : Prop where
  ordered : w.agenda.Ordered
  timely : ∀ entry ∈ w.agenda, w.now ≤ entry.1
  known : ∀ entry ∈ w.agenda, entry.2.poll < w.polls.length
  heard : ∀ i ∈ w.ready, i < w.polls.length

/-- A watch on which nothing has happened is sound. -/
theorem sound_empty : Sound {} :=
  ⟨.nil, fun _ h => (nomatch h), fun _ h => (nomatch h), fun _ h => (nomatch h)⟩

/-- What becomes of a watch when something is done for a poll. -/
structure Serves (i : Nat) (w v : Watch) : Prop where
  now_eq : v.now = w.now
  length_polls : v.polls.length = w.polls.length
  ordered : w.agenda.Ordered → v.agenda.Ordered
  mem_agenda : ∀ entry ∈ v.agenda, entry ∈ w.agenda ∨
    w.now ≤ entry.1 ∧ entry.2.poll = i ∧ entry.2 ≠ .cancel i
  mem_ready : ∀ j ∈ v.ready, j ∈ w.ready ∨ j = i

/-- A watch stays sound when something is done for one of its polls. -/
theorem Serves.sound (h : Serves i w v) (hw : w.Sound) (hi : i < w.polls.length) : v.Sound where
  ordered := h.ordered hw.ordered
  timely entry hentry := by
    rw [h.now_eq]
    exact (h.mem_agenda entry hentry).elim (hw.timely entry) And.left
  known entry hentry := by
    rw [h.length_polls]
    rcases h.mem_agenda entry hentry with hold | ⟨-, rfl, -⟩
    · exact hw.known entry hold
    · exact hi
  heard j hj := by
    rw [h.length_polls]
    rcases h.mem_ready j hj with hold | rfl
    · exact hw.heard j hold
    · exact hi

/-- Another poll may take the place of the one that something is done for. -/
theorem serves_set (w : Watch) (i : Nat) (poll : Poll) :
    Serves i w { w with polls := w.polls.set i poll } where
  now_eq := rfl
  length_polls := List.length_set
  ordered := id
  mem_agenda _ := .inl
  mem_ready _ := .inl

/-- What comes of putting a poll in its place: a poll that sleeps is to be woken, one that is ready
is noted. -/
theorem put_cases (w : Watch) (i : Nat) (poll : Poll) :
    (∃ wakeAt agenda, poll.phase = .asleep wakeAt ∧
      agenda.Perm ((wakeAt, .wake i) :: w.agenda) ∧ (w.agenda.Ordered → agenda.Ordered) ∧
      w.put i poll = { w with polls := w.polls.set i poll, agenda }) ∨
    (∃ attempts, poll.phase = .over (.ready attempts) ∧
      w.put i poll = { w with polls := w.polls.set i poll, ready := w.ready ++ [i] }) ∨
    ((∀ wakeAt, poll.phase ≠ .asleep wakeAt) ∧
      (∀ attempts, poll.phase ≠ .over (.ready attempts)) ∧
      w.put i poll = { w with polls := w.polls.set i poll }) := by
  unfold put
  split
  · next wakeAt hphase =>
    refine .inl ⟨wakeAt, _, hphase, ?_, ?_, rfl⟩ <;> dsimp only <;> split
    · exact Agenda.perm_precede ..
    · exact Agenda.perm_insert ..
    · exact Agenda.ordered_precede
    · exact Agenda.ordered_insert
  · next attempts hphase => exact .inr (.inl ⟨attempts, hphase, rfl⟩)
  · next hphase => exact .inr (.inr ⟨by simp [hphase], by simp [hphase], rfl⟩)
  · next outcome hready hphase =>
    refine .inr (.inr ⟨by simp [hphase], fun attempts h => ?_, rfl⟩)
    exact hready attempts (PollPhase.over.inj (hphase.symm.trans h))

/-- A poll that takes its place again may ask to be woken, but not for a time that is over. -/
theorem serves_put {poll : Poll}
    (hasleep : ∀ wakeAt, poll.phase = .asleep wakeAt → w.now ≤ wakeAt) :
    Serves i w (w.put i poll) := by
  have hset := serves_set w i poll
  rcases put_cases w i poll with ⟨wakeAt, agenda, hphase, hperm, hordered, heq⟩ | ⟨_, _, heq⟩ |
    ⟨_, _, heq⟩
  all_goals rw [heq]
  · refine { hset with ordered := hordered, mem_agenda := fun entry hentry => ?_ }
    rcases List.mem_cons.1 (hperm.mem_iff.1 hentry) with rfl | hold
    · exact .inr ⟨hasleep wakeAt hphase, rfl, by simp⟩
    · exact .inl hold
  · refine { hset with mem_ready := fun j hj => ?_ }
    rcases List.mem_append.1 hj with hold | hnew
    · exact .inl hold
    · exact .inr (List.mem_singleton.1 hnew)
  · exact hset

/-- A chore is done for its poll. -/
theorem serves_perform (w : Watch) (chore : Chore) : Serves chore.poll w (w.perform chore) := by
  have hsame : Serves chore.poll w w := ⟨rfl, rfl, id, fun _ => .inl, fun _ => .inl⟩
  cases chore with
  | wake i =>
    rw [perform]
    split
    · next poll _ =>
      refine { serves_set w i poll with
        ordered := Agenda.ordered_insertAll, mem_agenda := fun entry hentry => ?_ }
      rcases List.mem_append.1 ((Agenda.perm_insertAll ..).mem_iff.1 hentry) with hnew | hold
      · obtain ⟨chore, hchore, rfl⟩ := List.mem_map.1 hnew
        obtain ⟨anchor, -, rfl⟩ := List.mem_map.1 hchore
        exact .inr ⟨le_rfl, rfl, by simp⟩
      · exact .inl hold
    · exact hsame
  | measure i anchor =>
    refine { hsame with ordered := Agenda.ordered_insert, mem_agenda := fun entry hentry => ?_ }
    rcases Agenda.mem_insert.1 hentry with rfl | hold
    · exact .inr ⟨Nat.le_add_right .., rfl, by simp⟩
    · exact .inl hold
  | answer i usable =>
    rw [perform]
    split
    · next poll hpoll =>
      obtain ⟨before, -, hanswer⟩ := Option.bind_eq_some_iff.1 hpoll
      exact serves_put fun wakeAt hphase => Poll.now_le_of_answer? hanswer hphase
    · exact hsame
  | cancel i =>
    exact ⟨rfl, List.length_modify .., id, fun _ => .inl, fun _ => .inl⟩

/-- **A watch stays sound.** -/
theorem Sound.brings (hw : w.Sound) (h : w.Brings log v) : v.Sound := by
  cases h with
  | rest _ hnow hagenda => exact ⟨hw.ordered, hagenda, hw.known, hw.heard⟩
  | chore front chore back hagenda =>
    -- The chore is taken off the agenda before it is done.
    have hless : (front ++ back).Sublist w.agenda := by
      rw [hagenda]
      exact (List.sublist_cons_self ..).append_left front
    have hrest : { w with agenda := front ++ back }.Sound :=
      ⟨hw.ordered.sublist hless, fun entry h => hw.timely entry (hless.mem h),
        fun entry h => hw.known entry (hless.mem h), hw.heard⟩
    exact (serves_perform _ chore).sound hrest (hw.known (w.now, chore) (by simp [hagenda]))
  | anchors => exact ⟨hw.ordered, hw.timely, hw.known, hw.heard⟩
  | start ids options urgent =>
    have hmore (poll : Poll) : { w with polls := w.polls ++ [poll] }.Sound := by
      have hlt {j : Nat} (h : j < w.polls.length) : j < (w.polls ++ [poll]).length := by
        rw [List.length_append]
        omega
      exact ⟨hw.ordered, hw.timely, fun entry h => hlt (hw.known entry h),
        fun j h => hlt (hw.heard j h)⟩
    refine (serves_put fun wakeAt hphase => ?_).sound (hmore _) (by simp)
    exact Poll.now_le_of_start hphase
  | @cancel i hi =>
    have hserves := serves_perform w (.cancel i)
    exact hserves.sound hw hi
  | @plan i time hi hnow =>
    refine ⟨Agenda.ordered_insert hw.ordered, fun entry hentry => ?_, fun entry hentry => ?_,
      hw.heard⟩
    all_goals rcases Agenda.mem_insert.1 hentry with rfl | hold
    · exact hnow
    · exact hw.timely entry hold
    · exact hi
    · exact hw.known entry hold

/-- A watch stays sound all through a course. Induction on the course. -/
theorem Course.sound (hcourse : w.Course log v) (hw : w.Sound) : v.Sound := by
  induction hcourse with
  | nil => exact hw
  | snoc _ hbrings ih => exact ih.brings hbrings

/-! ### One poll at a watch -/

/-- What is noted of one poll. -/
def notesOf (i : Nat) (log : List (Nat × PollNote)) : List PollNote :=
  log.filterMap fun entry => if entry.1 = i then some entry.2 else none

/-- What is noted of a poll is noted in the order of the log. -/
@[simp] theorem notesOf_append (i : Nat) (log more : List (Nat × PollNote)) :
    notesOf i (log ++ more) = notesOf i log ++ notesOf i more := List.filterMap_append

/-- A note about a poll is one of its notes. -/
@[simp] theorem notesOf_self (i : Nat) (note : PollNote) : notesOf i [(i, note)] = [note] := by
  simp [notesOf]

/-- The notes about a poll are those in the log that bear its number. -/
theorem mem_notesOf {note : PollNote} : note ∈ notesOf i log ↔ (i, note) ∈ log := by
  simp [notesOf, List.mem_filterMap]

/-- How things stand with a poll at a watch. -/
def standing (w : Watch) (i : Nat) (poll : Poll) : Standing where
  now := w.now
  poll
  alarms := w.agenda.pick (Chore.alarm? i)
  asked := w.agenda.pick (Chore.asked? i)
  awaited := w.agenda.pick (Chore.awaited? i)
  calls := w.ready.count i

/-- Nothing has happened to a poll. -/
structure Spares (i : Nat) (w v : Watch) : Prop where
  getElem?_polls : v.polls[i]? = w.polls[i]?
  standing_eq : ∀ poll, v.standing i poll = w.standing i poll

/-- A poll does not mind entries for other polls, nor entries that would cancel it. -/
theorem spares_of_perm {agenda : Agenda Chore} {entry : Nat × Chore}
    (hperm : agenda.Perm (entry :: w.agenda)) (hentry : entry.2.poll = i → entry.2 = .cancel i) :
    Spares i w { w with agenda } := by
  obtain ⟨halarm, hasked, hawaited⟩ := Chore.picks_eq_none hentry
  refine ⟨rfl, fun poll => ?_⟩
  simp only [standing, Agenda.pick_perm hperm, Agenda.pick_cons_none halarm,
    Agenda.pick_cons_none hasked, Agenda.pick_cons_none hawaited]

/-- Where nothing happens to a poll twice, nothing happens to it. -/
theorem Spares.trans (h : Spares i w v) (h' : Spares i v u) : Spares i w u :=
  ⟨h'.getElem?_polls.trans h.getElem?_polls,
    fun poll => (h'.standing_eq poll).trans (h.standing_eq poll)⟩

/-- A poll does not mind what another one becomes. -/
theorem spares_set {j : Nat} (hj : j ≠ i) (w : Watch) (poll : Poll) :
    Spares i w { w with polls := w.polls.set j poll } :=
  ⟨List.getElem?_set_ne hj, fun _ => rfl⟩

/-- What follows when another poll has taken an answer. -/
theorem spares_put {j : Nat} (hj : j ≠ i) (w : Watch) (poll : Poll) :
    Spares i w (w.put j poll) := by
  have hset := spares_set hj w poll
  rcases put_cases w j poll with ⟨wakeAt, agenda, _, hperm, _, heq⟩ | ⟨_, _, heq⟩ | ⟨_, _, heq⟩
  all_goals rw [heq]
  · exact hset.trans (spares_of_perm hperm fun h => absurd h hj)
  · refine hset.trans ⟨rfl, fun _ => ?_⟩
    simp [standing, List.count_append, hj]
  · exact hset

/-- What is done for another poll. -/
theorem spares_perform {chore : Chore} (hchore : chore.poll ≠ i) (w : Watch) :
    Spares i w (w.perform chore) := by
  have hsame : Spares i w w := ⟨rfl, fun _ => rfl⟩
  cases chore with
  | wake j =>
    rw [perform]
    split
    · next poll _ =>
      refine (spares_set hchore w poll).trans ⟨rfl, fun _ => ?_⟩
      have hj : j ≠ i := hchore
      simp [standing, Agenda.pick_insertAll, List.filterMap_map, Function.comp_def, Chore.alarm?,
        Chore.asked?, Chore.awaited?, hj]
    · exact hsame
  | measure j anchor =>
    have hanchors : Spares i w { w with anchors := (w.anchors.measure anchor).2 } :=
      ⟨rfl, fun _ => rfl⟩
    exact hanchors.trans (spares_of_perm (Agenda.perm_insert ..) fun h => absurd h hchore)
  | answer j usable =>
    rw [perform]
    split
    · exact spares_put hchore w _
    · exact hsame
  | cancel j => exact ⟨List.getElem?_modify_ne _ _ hchore, fun _ => rfl⟩

/-- A chore is noted of its own poll only. -/
theorem notesOf_notes (w : Watch) (chore : Chore) :
    notesOf i (w.notes chore) = if chore.poll = i then (w.note? chore).toList else [] := by
  rw [notes, notesOf]
  cases w.note? chore <;> split <;> simp [*]

section Entries

variable {agenda : Agenda Chore} {time : Nat}

/-- An entry that wakes a poll is one alarm more. -/
theorem standing_wake (hperm : agenda.Perm ((time, .wake i) :: w.agenda)) (p : Poll) :
    { w with agenda }.standing i p =
      { w.standing i p with alarms := time ::ₘ (w.standing i p).alarms } := by
  have halarm : Chore.alarm? i (time, .wake i) = some time := if_pos rfl
  simp only [standing, Agenda.pick_perm hperm, Agenda.pick_cons_some halarm]
  rfl

/-- An entry that measures for a poll is one measurement more that is asked for. -/
theorem standing_measure {anchor : String}
    (hperm : agenda.Perm ((time, .measure i anchor) :: w.agenda)) (p : Poll) :
    { w with agenda }.standing i p =
      { w.standing i p with asked := (time, anchor) ::ₘ (w.standing i p).asked } := by
  have hasked : Chore.asked? i (time, .measure i anchor) = some (time, anchor) := if_pos rfl
  simp only [standing, Agenda.pick_perm hperm, Agenda.pick_cons_some hasked]
  rfl

/-- An entry that answers a poll is one answer more that is awaited. -/
theorem standing_answer {usable : Bool} (hperm : agenda.Perm ((time, .answer i usable) :: w.agenda))
    (p : Poll) : { w with agenda }.standing i p =
      { w.standing i p with awaited := (time, usable) ::ₘ (w.standing i p).awaited } := by
  have hawaited : Chore.awaited? i (time, .answer i usable) = some (time, usable) := if_pos rfl
  simp only [standing, Agenda.pick_perm hperm, Agenda.pick_cons_some hawaited]
  rfl

/-- Measurements that are put down for a poll are asked for at their time. -/
theorem standing_insertAll (w : Watch) (i : Nat) (p : Poll) (anchors : List String) (time : Nat) :
    { w with agenda := w.agenda.insertAll time (anchors.map (.measure i)) }.standing i p =
      { w.standing i p with
        asked := (w.standing i p).asked + anchors.map fun anchor => (time, anchor) } := by
  simp [standing, Agenda.pick_insertAll, List.filterMap_map, Function.comp_def, Chore.alarm?,
    Chore.asked?, Chore.awaited?, add_comm]

end Entries

/-- A poll that takes its place again stands as a poll by itself would. -/
theorem standing_put (w : Watch) (i : Nat) (p q : Poll) :
    (w.put i q).standing i q = (w.standing i p).put q := by
  rcases put_cases w i q with ⟨wakeAt, agenda, hphase, hperm, _, heq⟩ | ⟨_, hphase, heq⟩ |
    ⟨hawake, hunready, heq⟩
  · rw [heq, Standing.put, hphase]
    exact standing_wake hperm q
  · rw [heq, Standing.put, hphase]
    simp [standing, List.count_append]
  · rw [heq, Standing.put_eq hawake hunready]
    rfl

/-- Among the polls nothing changes but the one. -/
theorem polls_put (w : Watch) (i : Nat) (q : Poll) : (w.put i q).polls = w.polls.set i q := by
  rcases put_cases w i q with ⟨_, _, _, _, _, heq⟩ | ⟨_, _, heq⟩ | ⟨_, _, heq⟩
  all_goals rw [heq]

/-- A poll that is cancelled is cancelled in its place. -/
theorem getElem?_cancel {p : Poll} (hp : w.polls[i]? = some p) :
    (w.cancel i).polls[i]? = some p.cancel := by
  rw [cancel, List.getElem?_modify_eq, hp]
  rfl

/-- **What is done for a poll itself**, when it has been taken off the agenda. -/
theorem exists_moves {chore : Chore} {p : Poll} {agenda : Agenda Chore} (hp : w.polls[i]? = some p)
    (hi : chore.poll = i) (hperm : agenda.Perm ((w.now, chore) :: w.agenda)) :
    ∃ q, (w.perform chore).polls[i]? = some q ∧
      ({ w with agenda }.standing i p).Moves (w.note? chore).toList
        ((w.perform chore).standing i q) := by
  have hset (q : Poll) : (w.polls.set i q)[i]? = some q :=
    List.getElem?_set_self (List.getElem?_eq_some_iff.1 hp).1
  cases chore with
  | wake j =>
    obtain rfl : j = i := hi
    rw [perform, note?, hp, Option.bind_some, standing_wake hperm]
    split
    · next q hwake =>
      refine ⟨q, hset q, ?_⟩
      rw [hwake]
      have hasked := standing_insertAll { w with polls := w.polls.set j q } j q q.anchors w.now
      rw [hasked]
      exact .wake rfl hwake
    · next hwake =>
      rw [hwake]
      exact ⟨p, hp, .sleepOn rfl hwake⟩
  | measure j anchor =>
    obtain rfl : j = i := hi
    rw [standing_measure hperm]
    refine ⟨p, hp, ?_⟩
    -- The answer is put on the agenda of a watch whose anchors have changed, which does not matter
    -- here.
    have hawaited := standing_answer (w := { w with anchors := (w.anchors.measure anchor).2 })
      (Agenda.perm_insert (w.now + (w.anchors.get? anchor).elim 0 Anchor.delay)
        (.answer j (w.anchors.measure anchor).1.usable?.isSome) w.agenda) p
    exact hawaited ▸ .measure rfl _ _
  | answer j usable =>
    obtain rfl : j = i := hi
    rw [perform, hp, Option.bind_some, standing_answer hperm]
    split
    · next q hanswer =>
      refine ⟨q, by rw [polls_put, hset], ?_⟩
      rw [standing_put]
      exact .answer rfl hanswer
    · next hanswer => exact ⟨p, hp, .ignore rfl hanswer⟩
  | cancel j =>
    obtain rfl : j = i := hi
    have hnone : { w with agenda }.standing j p = w.standing j p :=
      (spares_of_perm hperm fun _ => rfl).standing_eq p
    rw [hnone]
    exact ⟨p.cancel, getElem?_cancel hp, .cancel⟩

/-- What does not touch a poll is no part of its course. -/
theorem Spares.exists_standing {p : Poll} (h : Spares i w v) (hp : w.polls[i]? = some p) :
    ∃ q, v.polls[i]? = some q ∧ (w.standing i p).Course [] (v.standing i q) :=
  ⟨p, h.getElem?_polls.trans hp, by rw [h.standing_eq p]; exact .nil⟩

/-- **What happens at a watch is a part of the course of each poll.** -/
theorem Brings.exists_standing {p : Poll} (h : w.Brings log v) (hp : w.polls[i]? = some p) :
    ∃ q, v.polls[i]? = some q ∧ (w.standing i p).Course (notesOf i log) (v.standing i q) := by
  cases h with
  | rest time hnow hagenda =>
    refine ⟨p, hp, Standing.Moves.course (.rest hnow fun alarm halarm => ?_)⟩
    obtain ⟨entry, hentry, hsome⟩ := Agenda.mem_pick.1 halarm
    obtain rfl := Chore.eq_of_alarm? hsome
    exact hagenda _ hentry
  | chore front chore back hagenda =>
    have hperm : w.agenda.Perm ((w.now, chore) :: (front ++ back)) := by
      rw [hagenda]
      exact List.perm_middle
    rw [notesOf_notes]
    -- A chore touches its own poll only, and so does its note.
    by_cases hi : chore.poll = i
    · obtain ⟨q, hq, hmoves⟩ :=
        exists_moves (w := { w with agenda := front ++ back }) hp hi hperm
      rw [if_pos hi]
      exact ⟨q, hq, hmoves.course⟩
    · have hless : Spares i { w with agenda := front ++ back } w :=
        spares_of_perm (w := { w with agenda := front ++ back }) hperm fun h => absurd h hi
      rw [if_neg hi]
      refine Spares.exists_standing ⟨?_, fun poll => ?_⟩ hp
      · exact (spares_perform hi _).getElem?_polls
      · exact ((spares_perform hi _).standing_eq poll).trans (hless.standing_eq poll).symm
  | anchors => exact ⟨p, hp, .nil⟩
  | start ids options urgent =>
    have hi : i < w.polls.length := (List.getElem?_eq_some_iff.1 hp).1
    have hmore (poll : Poll) : Spares i w { w with polls := w.polls ++ [poll] } :=
      ⟨List.getElem?_append_left hi, fun _ => rfl⟩
    exact ((hmore _).trans (spares_put hi.ne' _ _)).exists_standing hp
  | @cancel j hj =>
    by_cases hi : j = i
    · subst hi
      rw [notesOf_self]
      exact ⟨p.cancel, getElem?_cancel hp, Standing.Moves.course .cancel⟩
    · have hother : (Chore.cancel j).poll ≠ i := hi
      have hspares : Spares i w (w.cancel j) := spares_perform hother w
      have hnone : notesOf i [(j, PollNote.cancel)] = [] := by simp [notesOf, hi]
      rw [hnone]
      exact hspares.exists_standing hp
  | @plan j time hj hnow =>
    refine (spares_of_perm (Agenda.perm_insert ..) fun h => ?_).exists_standing hp
    exact congrArg Chore.cancel h

/-- **How a poll fares at a watch.** Induction on the course. -/
theorem Course.exists_standing {p : Poll} (hcourse : w.Course log v) (hp : w.polls[i]? = some p) :
    ∃ q, v.polls[i]? = some q ∧ (w.standing i p).Course (notesOf i log) (v.standing i q) := by
  induction hcourse with
  | nil => exact ⟨p, hp, .nil⟩
  | snoc _ hbrings ih =>
    obtain ⟨q, hq, hfirst⟩ := ih
    obtain ⟨r, hr, hlater⟩ := hbrings.exists_standing hq
    exact ⟨r, hr, by rw [notesOf_append]; exact hfirst.trans hlater⟩

/-- A poll that is started takes the next place, where nothing is left from before. -/
theorem Sound.start (hw : w.Sound) {ids : List String} (hids : ids ≠ []) (options : PollOptions)
    (urgent : Bool) :
    (w.start ids options urgent).polls[w.polls.length]? =
        some (Poll.start ids options w.now urgent) ∧
      (w.start ids options urgent).standing w.polls.length (Poll.start ids options w.now urgent) =
        .begin w.now (Poll.start ids options w.now urgent) := by
  -- No entry is for the new poll, since all are for polls that were there before.
  have hnone (entry : Nat × Chore) (hentry : entry ∈ w.agenda) :=
    Chore.picks_eq_none fun h => absurd h (hw.known entry hentry).ne
  have halarms := Agenda.pick_eq_zero fun entry hentry => (hnone entry hentry).1
  have hasked := Agenda.pick_eq_zero fun entry hentry => (hnone entry hentry).2.1
  have hawaited := Agenda.pick_eq_zero fun entry hentry => (hnone entry hentry).2.2
  have hcalls : w.ready.count w.polls.length = 0 :=
    List.count_eq_zero.2 fun h => (hw.heard _ h).ne rfl
  refine ⟨?_, ?_⟩
  · rw [Watch.start, polls_put]
    simp
  · rw [Watch.start, standing_put _ _ (Poll.start ids options w.now urgent)]
    have hphase : (Poll.start ids options w.now urgent).phase =
        .asleep (w.now + options.initialDelay) := if_neg hids
    simp only [standing, halarms, hasked, hawaited, hcalls, Standing.put, hphase]
    rfl

/-! ### What a watch does by itself -/

/-- As long as a poll waits for something, a watch has something to do. -/
theorem agenda_ne_nil {p : Poll} (h : (w.standing i p).alarms ≠ 0 ∨ (w.standing i p).asked ≠ 0 ∨
    (w.standing i p).awaited ≠ 0) : w.agenda ≠ [] := by
  intro hnil
  simp [standing, Agenda.pick, hnil] at h

/-- Nobody is going to cancel a poll. -/
def CancelFree (w : Watch) (i : Nat) : Prop := ∀ entry ∈ w.agenda, entry.2 ≠ .cancel i

/-- Nothing that is done puts a cancelling on the agenda. -/
theorem cancelFree_perform {chore : Chore} (hw : w.CancelFree i) :
    (w.perform chore).CancelFree i := by
  intro entry hentry hcancel
  rcases (serves_perform w chore).mem_agenda entry hentry with hold | ⟨-, hpoll, hnew⟩
  · exact hw entry hold hcancel
  · rw [← hpoll, hcancel] at hnew
    exact hnew rfl

/-- A poll is cancelled only where somebody was going to. -/
theorem eq_of_mem_notes {chore : Chore} (h : (i, .cancel) ∈ w.notes chore) : chore = .cancel i := by
  cases chore with
  | wake j =>
    obtain ⟨note, hnote, hpair⟩ := Option.map_eq_some_iff.1 (Option.mem_toList.1 h)
    obtain ⟨p, -, rfl⟩ := Option.map_eq_some_iff.1 hnote
    cases hpair
  | measure | answer | cancel => simp_all [notes, note?, Chore.poll]

/-- The next thing that is to be done is done at its time. -/
theorem Sound.exists_course_next? (hw : w.Sound) (hnext : w.next? = some v) :
    ∃ log, w.Course log v ∧ ∀ i, w.CancelFree i → (i, .cancel) ∉ log ∧ v.CancelFree i := by
  rw [next?] at hnext
  split at hnext
  · cases hnext
  · next time chore later hagenda =>
    cases hnext
    have hfirst : (time, chore) ∈ w.agenda := by simp [hagenda]
    -- Nothing is due before the first entry, so time may pass until then.
    have hdue : ∀ entry ∈ w.agenda, time ≤ entry.1 := by
      have hordered := hw.ordered
      rw [hagenda] at hordered ⊢
      exact hordered.first_le
    rw [Nat.max_eq_right (hw.timely _ hfirst)]
    have hchore : Brings { w with now := time } _
        ({ w with now := time, agenda := [] ++ later }.perform chore) :=
      .chore (w := { w with now := time }) [] chore later hagenda
    have hrest := Brings.rest time (hw.timely _ hfirst) hdue
    refine ⟨_, hrest.course.snoc hchore, fun i hfree => ⟨?_, ?_⟩⟩
    · exact fun hmem => hfree _ hfirst (eq_of_mem_notes hmem)
    · refine cancelFree_perform fun entry hentry => hfree entry ?_
      rw [hagenda]
      exact List.mem_cons_of_mem _ hentry

section Running

variable {goesOn : Watch → Bool}

/-- A run goes on with what comes next. -/
theorem runWhile_of_next? (hw : goesOn w = true) (hnext : w.next? = some v) :
    w.runWhile goesOn = v.runWhile goesOn := by
  rw [runWhile, if_pos hw]
  split
  · next v' hnext' => rw [Option.some.inj (hnext.symm.trans hnext')]
  · next hnone => rw [hnext] at hnone; cases hnone

/-- A run ends where nothing is left to be done. -/
theorem runWhile_of_nil (hnext : w.next? = none) : w.runWhile goesOn = w := by
  rw [runWhile]
  split
  · split
    · next v hnext' => rw [hnext] at hnext'; cases hnext'
    · rfl
  · rfl

/-- A run ends where it is not to go on. -/
theorem runWhile_of_false (hw : ¬ goesOn w = true) : w.runWhile goesOn = w := by
  rw [runWhile, if_neg hw]

/-- Time does not go back. -/
theorem now_le_next? (hnext : w.next? = some v) : w.now ≤ v.now := by
  rw [next?] at hnext
  split at hnext
  · cases hnext
  · cases hnext
    rw [(serves_perform _ _).now_eq]
    exact Nat.le_max_left ..

/-- Time passes while a watch runs. Induction on what is done. -/
theorem now_le_runWhile (goesOn : Watch → Bool) (w : Watch) : w.now ≤ (w.runWhile goesOn).now := by
  induction w using runWhile.induct goesOn with
  | case1 w hgoesOn v hnext ih =>
    rw [runWhile_of_next? hgoesOn hnext]
    exact (now_le_next? hnext).trans ih
  | case2 w hgoesOn hnone => rw [runWhile_of_nil hnone]
  | case3 w hgoesOn => rw [runWhile_of_false hgoesOn]

/-- Nothing comes next only where nothing is to be done. -/
theorem next?_eq_none : w.next? = none ↔ w.agenda = [] := by
  rw [next?]
  split <;> simp [*]

/-- **Running a watch is a course.** Induction on what is done. -/
theorem Sound.exists_course_runWhile (goesOn : Watch → Bool) (hw : w.Sound) :
    ∃ log, w.Course log (w.runWhile goesOn) ∧ ∀ i, w.CancelFree i → (i, .cancel) ∉ log := by
  induction w using runWhile.induct goesOn with
  | case1 w hgoesOn v hnext ih =>
    obtain ⟨log, hcourse, hfree⟩ := hw.exists_course_next? hnext
    obtain ⟨more, hlater, hfree'⟩ := ih (hcourse.sound hw)
    rw [runWhile_of_next? hgoesOn hnext]
    refine ⟨log ++ more, hcourse.trans hlater, fun i hi => ?_⟩
    rw [List.mem_append, not_or]
    exact ⟨(hfree i hi).1, hfree' i (hfree i hi).2⟩
  | case2 w hgoesOn hnone =>
    rw [runWhile_of_nil hnone]
    exact ⟨[], .nil, fun _ _ => List.not_mem_nil⟩
  | case3 w hgoesOn =>
    rw [runWhile_of_false hgoesOn]
    exact ⟨[], .nil, fun _ _ => List.not_mem_nil⟩

/-- Where a run ends, it does not go on, or nothing is left to be done. Induction on what is
done. -/
theorem runWhile_stops (goesOn : Watch → Bool) (w : Watch) :
    goesOn (w.runWhile goesOn) = false ∨ (w.runWhile goesOn).agenda = [] := by
  induction w using runWhile.induct goesOn with
  | case1 w hgoesOn v hnext ih =>
    rw [runWhile_of_next? hgoesOn hnext]
    exact ih
  | case2 w hgoesOn hnone =>
    rw [runWhile_of_nil hnone]
    exact .inr (next?_eq_none.1 hnone)
  | case3 w hgoesOn =>
    rw [runWhile_of_false hgoesOn]
    exact .inl (Bool.eq_false_of_not_eq_true hgoesOn)

/-- What is not due by a time is to be done later. -/
theorem Sound.le_of_isDue {time : Nat} (hw : w.Sound) (h : w.isDue time = false ∨ w.agenda = []) :
    ∀ entry ∈ w.agenda, time ≤ entry.1 := by
  rw [isDue] at h
  have hordered := hw.ordered
  cases hagenda : w.agenda with
  | nil => exact fun _ h => nomatch h
  | cons first rest =>
    rw [hagenda] at h hordered
    have hlater : time < first.1 := by simpa [Agenda.due?] using h
    exact fun entry hentry => hlater.le.trans (hordered.first_le entry hentry)

/-- **Moving on in time is a course.** -/
theorem Sound.exists_course_advanceTo (hw : w.Sound) (time : Nat) :
    ∃ log, w.Course log (w.advanceTo time) ∧ ∀ i, w.CancelFree i → (i, .cancel) ∉ log := by
  obtain ⟨log, hcourse, hfree⟩ := hw.exists_course_runWhile (isDue time)
  have hsound := hcourse.sound hw
  have hlater : ∀ entry ∈ (w.runWhile (isDue time)).agenda,
      max (w.runWhile (isDue time)).now time ≤ entry.1 := fun entry hentry =>
    max_le (hsound.timely entry hentry) (hsound.le_of_isDue (runWhile_stops _ w) entry hentry)
  have hcourse' := hcourse.snoc (.rest _ (Nat.le_max_left ..) hlater)
  rw [List.append_nil] at hcourse'
  exact ⟨log, hcourse', hfree⟩

end Running

end Watch

end Cutscene
