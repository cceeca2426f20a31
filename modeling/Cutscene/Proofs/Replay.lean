import Cutscene.Event
import Cutscene.Progress
import Mathlib.Data.List.Basic

/-!
# Progress Out of Events

An event that is recorded speaks of one change of progress, or of none. `Progress.replay` reads
events back: it goes through them one by one and makes the changes that they speak of.

Two lots of progress may tell the same story and differ in the times at which scenes were last seen
(`Progress.Agrees`): all else depends on no clock. Whatever is read back into both, they agree
afterwards.

## Main results

* `Progress.replay_append`: events are read back one after the other.
* `Progress.Agrees.replay`: events are read back into either of two that agree.
* `Progress.Truthful.append`: events that tell the truth one after the other.
-/

namespace Cutscene

/-- The occurrence is the outcome of a command. -/
def Occurrence.isCommand : Occurrence → Bool
  | commandDispatched .. | commandFailed .. => true
  | sceneStarted .. | sceneEnded _ | flagChanged .. | counterChanged .. => false

namespace Progress

/-- Progress after an event, as the event has it. -/
def replayEvent (p : Progress) (ev : Event) : Progress :=
  match ev.occurrence with
  | .flagChanged flag _ new => p.setFlag flag new
  | .counterChanged counter _ new => p.setCounter counter new
  | .sceneStarted scene _ _ => p.touch scene ev.metadata.time.stamp
  | .sceneEnded ended =>
    if ended.reason = .completed then p.complete ended.scene ev.metadata.time.stamp else p
  | .commandDispatched .. | .commandFailed .. => p

/-- Progress after some events. -/
def replay (p : Progress) (es : List Event) : Progress := es.foldl replayEvent p

/-- What is said of each event and the progress that the events before it have led to. -/
def Throughout (P : Progress → Occurrence → Prop) (p : Progress) (es : List Event) : Prop :=
  ∀ (i : Nat) (ev : Event), es[i]? = some ev → P (p.replay (es.take i)) ev.occurrence

/-- The value that an event says was replaced is the one that there is. -/
def Bears (p : Progress) (o : Occurrence) : Prop :=
  match o with
  | .flagChanged flag old _ => old = p.flag flag
  | .counterChanged counter old _ => old = p.counter counter
  | .sceneStarted .. | .sceneEnded _ | .commandDispatched .. | .commandFailed .. => True

/-- **Each event tells the truth** about the value that it replaced: it is the value that the
events before it have led to. -/
def Truthful (p : Progress) (es : List Event) : Prop :=
  ∀ (i : Nat) (ev : Event), es[i]? = some ev → (p.replay (es.take i)).Bears ev.occurrence

/-- The same progress, except that scenes may have been seen at other times unless the clock is
`steady`. -/
structure Agrees (steady : Prop) (p q : Progress) : Prop where
  flags_eq : p.flags = q.flags
  counters_eq : p.counters = q.counters
  completed_eq : p.completed = q.completed
  lastSeen_eq : steady → p.lastSeen = q.lastSeen

variable {steady : Prop} {p q r : Progress} {es fs : List Event}

/-- **Events are read back one after the other.** -/
theorem replay_append (p : Progress) (es fs : List Event) :
    p.replay (es ++ fs) = (p.replay es).replay fs := List.foldl_append

namespace Agrees

/-- Progress agrees with itself. -/
theorem refl (p : Progress) : Agrees steady p p := ⟨rfl, rfl, rfl, fun _ => rfl⟩

/-- Of two assumptions about the clock the stronger one says less. -/
theorem mono {steady' : Prop} (hpq : Agrees steady p q) (hs : steady' → steady) :
    Agrees steady' p q :=
  ⟨hpq.flags_eq, hpq.counters_eq, hpq.completed_eq, fun h => hpq.lastSeen_eq (hs h)⟩

/-- Agreeing goes both ways. -/
theorem symm (hpq : Agrees steady p q) : Agrees steady q p :=
  ⟨hpq.flags_eq.symm, hpq.counters_eq.symm, hpq.completed_eq.symm,
    fun hs => (hpq.lastSeen_eq hs).symm⟩

/-- What agrees with one of two that agree does so with the other. -/
theorem trans (hpq : Agrees steady p q) (hqr : Agrees steady q r) : Agrees steady p r :=
  ⟨hpq.flags_eq.trans hqr.flags_eq, hpq.counters_eq.trans hqr.counters_eq,
    hpq.completed_eq.trans hqr.completed_eq,
    fun hs => (hpq.lastSeen_eq hs).trans (hqr.lastSeen_eq hs)⟩

/-- Where progress agrees, each flag has the same value. -/
theorem flag_eq (hpq : Agrees steady p q) : p.flag = q.flag := by
  funext name
  rw [flag, flag, hpq.flags_eq]

/-- So has each counter. -/
theorem counter_eq (hpq : Agrees steady p q) : p.counter = q.counter := by
  funext name
  rw [counter, counter, hpq.counters_eq]

/-- Progress goes on to agree when a flag is set. -/
theorem setFlag (hpq : Agrees steady p q) (name : String) (value : Bool) :
    Agrees steady (p.setFlag name value) (q.setFlag name value) :=
  ⟨congrArg (fun m : NameMap Bool => m.insert name value) hpq.flags_eq, hpq.counters_eq,
    hpq.completed_eq, hpq.lastSeen_eq⟩

/-- It goes on to agree when a counter is set. -/
theorem setCounter (hpq : Agrees steady p q) (name : String) (value : Int64) :
    Agrees steady (p.setCounter name value) (q.setCounter name value) :=
  ⟨hpq.flags_eq, congrArg (fun m : NameMap Int64 => m.insert name value) hpq.counters_eq,
    hpq.completed_eq, hpq.lastSeen_eq⟩

/-- A scene may be seen at different times, unless the clock is steady. -/
theorem touch (hpq : Agrees steady p q) (scene : String) {s t : Int64} (hst : steady → s = t) :
    Agrees steady (p.touch scene s) (q.touch scene t) := by
  refine ⟨hpq.flags_eq, hpq.counters_eq, hpq.completed_eq, fun hs => ?_⟩
  rw [Progress.touch, Progress.touch, hpq.lastSeen_eq hs, hst hs]

/-- It goes on to agree when a scene is completed, at the same time if times matter. -/
theorem complete (hpq : Agrees steady p q) (scene : String) {s t : Int64}
    (hst : steady → s = t) : Agrees steady (p.complete scene s) (q.complete scene t) := by
  obtain ⟨hflags, hcounters, hcompleted, hseen⟩ := hpq.touch scene hst
  refine ⟨hflags, hcounters, ?_, hseen⟩
  rw [Progress.complete, Progress.complete, hcompleted]

/-- An event says of both the same. -/
theorem replayEvent (hpq : Agrees steady p q) (ev : Event) :
    Agrees steady (p.replayEvent ev) (q.replayEvent ev) := by
  rw [Progress.replayEvent, Progress.replayEvent]
  cases ev.occurrence with
  | flagChanged flag old new => exact hpq.setFlag flag new
  | counterChanged counter old new => exact hpq.setCounter counter new
  | sceneStarted scene version run => exact hpq.touch scene fun _ => rfl
  | sceneEnded ended =>
      dsimp only
      split
      · exact hpq.complete ended.scene fun _ => rfl
      · exact hpq
  | commandDispatched | commandFailed => exact hpq

/-- **Events are read back into either of two that agree.** Induction on the events. -/
theorem replay (hpq : Agrees steady p q) (es : List Event) :
    Agrees steady (p.replay es) (q.replay es) := by
  induction es generalizing p q with
  | nil => exact hpq
  | cons ev rest ih => exact ih (hpq.replayEvent ev)

/-- What an event says was replaced is there in both or in neither. -/
theorem bears (hpq : Agrees steady p q) {o : Occurrence} (ho : p.Bears o) : q.Bears o := by
  cases o with
  | flagChanged name old new =>
      rw [Bears, ← hpq.flag_eq]
      exact ho
  | counterChanged name old new =>
      rw [Bears, ← hpq.counter_eq]
      exact ho
  | _ => trivial

/-- Events that tell the truth about the one tell it about the other. -/
theorem truthful (hpq : Agrees steady p q) (ht : p.Truthful es) : q.Truthful es :=
  fun i ev hi => (hpq.replay _).bears (ht i ev hi)

end Agrees

namespace Throughout

variable {P : Progress → Occurrence → Prop}

/-- Of no events anything may be said. -/
theorem nil : Throughout P p [] := fun _ _ hi => by cases hi

/-- Of one event is said what is said of it at the beginning. -/
theorem singleton {ev : Event} (hev : P p ev.occurrence) : Throughout P p [ev] := by
  intro i ev' hi
  obtain ⟨hlt, rfl⟩ := List.getElem?_eq_some_iff.mp hi
  obtain rfl : i = 0 := by simpa using hlt
  exact hev

/-- What is said of events, and of later ones where the first have led, is said of all. -/
theorem append (hes : Throughout P p es) (hfs : Throughout P (p.replay es) fs) :
    Throughout P p (es ++ fs) := by
  intro i ev hi
  by_cases hlt : i < es.length
  · rw [List.getElem?_append_left hlt] at hi
    rw [List.take_append_of_le_length (Nat.le_of_lt hlt)]
    exact hes i ev hi
  · obtain ⟨j, rfl⟩ := Nat.exists_eq_add_of_le (Nat.le_of_not_lt hlt)
    rw [List.getElem?_append_right (Nat.le_add_right _ _), Nat.add_sub_cancel_left] at hi
    rw [List.take_length_add_append, replay_append]
    exact hfs j ev hi

/-- Of the first event and of those behind it. -/
theorem of_cons {ev : Event} (hes : Throughout P p (ev :: es)) :
    P p ev.occurrence ∧ Throughout P (p.replayEvent ev) es :=
  ⟨hes 0 ev rfl, fun i ev' hi => hes (i + 1) ev' hi⟩

end Throughout

namespace Truthful

/-- No events tell the truth. -/
theorem nil : p.Truthful [] := Throughout.nil

/-- One event tells the truth if it does so about the progress that there is. -/
theorem singleton {ev : Event} (hev : p.Bears ev.occurrence) : p.Truthful [ev] :=
  Throughout.singleton hev

/-- **Events that tell the truth one after the other** do so in a row. -/
theorem append (hes : p.Truthful es) (hfs : (p.replay es).Truthful fs) :
    p.Truthful (es ++ fs) :=
  Throughout.append hes hfs

end Truthful

/-- Commands leave progress alone. -/
theorem replay_of_isCommand (hes : ∀ ev ∈ es, ev.occurrence.isCommand = true) :
    p.replay es = p ∧ p.Truthful es := by
  induction es with
  | nil => exact ⟨rfl, .nil⟩
  | cons ev rest ih =>
      obtain ⟨hreplay, htruthful⟩ := ih fun ev hev => hes ev (List.mem_cons_of_mem _ hev)
      have hev := hes ev List.mem_cons_self
      have hsame : p.replay [ev] = p ∧ p.Bears ev.occurrence := by
        rw [replay, List.foldl_cons, List.foldl_nil, replayEvent]
        cases ho : ev.occurrence <;> rw [ho] at hev <;> first | exact ⟨rfl, trivial⟩ | cases hev
      rw [← List.singleton_append, replay_append, hsame.1]
      exact ⟨hreplay, (Truthful.singleton hsame.2).append (hsame.1.symm ▸ htruthful)⟩

end Progress

end Cutscene
