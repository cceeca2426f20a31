import Cutscene.Console.Program
import Cutscene.Proofs.Anchor.Course
import Cutscene.Proofs.Console.Reactions
import Cutscene.Proofs.Director.Staging
import Mathlib

/-!
# The Course of a Console

A console takes one message after the other (`Console.Course`). The messages may arrive in any
order: lines and anchors at any time, a timer at any time after it has run out.

What the director of a console does on a message is an ordinary piece of its history: a cue at most,
then it settles, and then its events are collected. The lines that the console says are what passes
between the director and the game in the meantime, and after that the events (`Console.Tells`).

## Main results

* `Console.exists_tells`: the director's part in taking a message.
* `Console.Course.exists_played`: the history of the director of a console.
* `Console.Brings.of_next?`, `Console.exists_course_advanceTo`: what time brings is brought in one
  of these orders, and so what a console does as time goes by is a course.
* `Console.exists_opening`: how the history begins.
-/

namespace Cutscene

namespace Console

variable {ω : Type} {h : Host Stage} {store : Store (StateM ω)} {w w' w'' : ω}
  {c c' c'' : Console}

/-! ### The director's part -/

section Director

variable {ids : Identities} {d f : Director Stage} {e : Director (Stage × List Exchange)}

/-- **An episode of a director at a console**, with minutes kept. What has to be said of it is put
down. -/
theorem exists_episode (hd : d.Mirrors e) {cue : Cue} {reply : Reply}
    (hp : (d.perform (Stage.host ids) store cue).run w = ((reply, f), w')) :
    ∃ (ep : Episode (Stage × List Exchange)) (g : Director (Stage × List Exchange)),
      Director.History (Stage.host ids).minuted store e w [ep] g w' ∧ f.Mirrors g ∧
      ep.cue = cue ∧ ep.reply = reply ∧
      d.stage.Adds ((Director.newMinutes ep).filterMap Exchange.output?) f.stage ∧
      outcomesOf (Director.newMinutes ep) =
        (commandsOf (Director.newMinutes ep)).map (·, true) := by
  obtain ⟨g, hg, rfl⟩ := Director.exists_perform_minuted hd e.minutes hp
  have hleads := Director.leads_perform (h := (Stage.host ids).minuted) store w
    { e with stage := (d.stage, e.minutes) } cue
  rw [hg] at hleads
  obtain ⟨more, hminutes, hadds, hdone⟩ := Stage.passes_of_leads hleads
  refine ⟨_, g, Director.History.nil.snoc (d.stage, e.minutes) cue hg, .map _ g, rfl, rfl, ?_⟩
  have hnew : Director.newMinutes ⟨{ e with stage := (d.stage, e.minutes) }, cue, reply, g⟩ =
      more := Director.newMinutes_eq hminutes
  rw [hnew]
  exact ⟨hadds, hdone⟩

end Director

/-- A round of the loop: a message, and what came of it. -/
structure Round where
  before : Console
  message : Message
  said : List Output
  after : Console

/-- **What a console says in a round is what its director does**: it tells the director what the
message comes down to, if anything, lets it settle, and collects the events; and it says what has
passed between the director and the game, and the events. All commands are done. -/
structure Tells (round : Round) (eps : List (Episode (Stage × List Exchange))) : Prop where
  cues_eq : eps.map Episode.cue =
    (round.message.cue? round.before.director).toList ++ [.settle, .takeEvents]
  events_eq : round.said.filterMap Output.event? = Director.collected eps
  snapshots_eq : round.said.filterMap Output.snapshot? =
    snapshotsOf (eps.flatMap Director.newMinutes)
  commands_eq : round.said.filterMap Output.command? =
    commandsOf (eps.flatMap Director.newMinutes)
  outcomes_eq : outcomesOf (eps.flatMap Director.newMinutes) =
    (commandsOf (eps.flatMap Director.newMinutes)).map (·, true)

section Tells

variable {ids : Identities} {e : Director (Stage × List Exchange)}

/-- What a director is told at a console, if anything, with minutes kept. -/
theorem exists_heeded {d f : Director Stage} (hd : d.Mirrors e) {cue? : Option Cue}
    (hheeds : d.Heeds (Stage.host ids) store w cue? f) :
    ∃ (eps : List (Episode (Stage × List Exchange))) (g : Director (Stage × List Exchange)),
      Director.History (Stage.host ids).minuted store e w eps g w ∧ f.Mirrors g ∧
      eps.map Episode.cue = cue?.toList ∧ Director.collected eps = [] ∧
      d.stage.Adds ((eps.flatMap Director.newMinutes).filterMap Exchange.output?) f.stage ∧
      outcomesOf (eps.flatMap Director.newMinutes) =
        (commandsOf (eps.flatMap Director.newMinutes)).map (·, true) := by
  cases hheeds with
  | nothing => exact ⟨[], e, .nil, hd, rfl, rfl, .refl _, rfl⟩
  | @cue cue reply f hload htake hp =>
      obtain ⟨ep, g, hist, hg, hcue, hreply, hadds, hdone⟩ := exists_episode hd hp
      have hevents := Director.events_of_perform (Stage.host ids) store w d htake
      rw [hp] at hevents
      refine ⟨[ep], g, hist, hg, congrArg (fun cue => [cue]) hcue, ?_, ?_, ?_⟩
      · rw [Director.collected, List.flatMap_singleton, hreply]
        exact hevents
      · rw [List.flatMap_singleton]
        exact hadds
      · rw [List.flatMap_singleton]
        exact hdone

/-- **The director's part in taking a message.** -/
theorem exists_tells {message : Message} {said : List Output}
    (hp : (c.handle (Stage.host ids) store message).run w = ((said, c'), w'))
    (houtputs : c.director.stage.outputs = #[]) (he : c.director.Mirrors e) :
    ∃ eps g, Director.History (Stage.host ids).minuted store e w eps g w' ∧
      c'.director.Mirrors g ∧ Tells ⟨c, message, said, c'⟩ eps ∧ c'.Idle ∧ c'.now = c.now ∧
      Arms (c.hear message) c.timers c' := by
  obtain ⟨⟨d, stage, asides, hheeds, hdirector, hadds, hasides⟩, harmed, htimers⟩ :=
    reacts (Stage.host ids) store w c message
  obtain ⟨yes, f, hsettle, rfl, hafter, harms⟩ := exists_handle hp
  rw [hdirector] at hsettle
  rw [harmed, htimers] at harms
  obtain ⟨eps, g, hist, hg, hcues, hcollected, hadds₁, hdone₁⟩ := exists_heeded he hheeds
  obtain ⟨ep, g₁, hist₁, hg₁, hcue, hreply, hadds₂, hdone₂⟩ :=
    exists_episode (hg.restage stage) hsettle
  have htake : (f.perform (Stage.host ids) store .takeEvents).run w' =
      ((.collected f.events, { f with events := #[] }), w') := rfl
  obtain ⟨ep₁, g₂, hist₂, hg₂, hcue₁, hreply₁, hadds₃, hdone₃⟩ := exists_episode hg₁ htake
  have hall := (hadds₁.trans hadds).trans hadds₂
  have hsaid := hall.outputs_eq
  rw [houtputs, List.nil_append] at hsaid
  -- Collecting the events adds nothing.
  have hlast : (Director.newMinutes ep₁).filterMap Exchange.output? = [] :=
    List.self_eq_append_right.mp hadds₃.outputs_eq
  have hflat : (eps ++ [ep] ++ [ep₁]).flatMap Director.newMinutes =
      eps.flatMap Director.newMinutes ++ Director.newMinutes ep ++ Director.newMinutes ep₁ := by
    rw [List.flatMap_append, List.flatMap_append, List.flatMap_singleton, List.flatMap_singleton]
  have hpending : f.pending = [] := Director.pending_of_settle hsettle
  refine ⟨eps ++ [ep] ++ [ep₁], g₂, (hist.trans hist₁).trans hist₂, ?_, ⟨?_, ?_, ?_, ?_, ?_⟩,
    ⟨?_, ?_, ?_⟩, ?_, harms⟩
  · rw [hafter]
    exact hg₂.restage _
  · rw [List.map_append, List.map_append, hcues, List.append_assoc]
    exact congrArg₂ (fun a b => _ ++ [a, b]) hcue hcue₁
  · rw [hsaid, filterMap_said (fun _ => Output.event?_of_isAside) hasides,
      filterMap_event?_output?, filterMap_event?_output?, Director.collected_concat,
      Director.collected_concat, hcollected, hreply, hreply₁]
    exact List.filterMap_some
  · rw [hsaid, filterMap_said (fun _ => Output.snapshot?_of_isAside) hasides,
      filterMap_snapshot?_output?, filterMap_snapshot?_output?, hflat, snapshotsOf_append,
      snapshotsOf_append, snapshotsOf_eq_nil hlast]
    exact congrArg (_ ++ ·) (List.filterMap_eq_nil_iff.mpr fun _ _ => rfl)
  · rw [hsaid, filterMap_said (fun _ => Output.command?_of_isAside) hasides,
      filterMap_command?_output?, filterMap_command?_output?, hflat, commandsOf_append,
      commandsOf_append, commandsOf_eq_nil hlast]
    exact congrArg (_ ++ ·) (List.filterMap_eq_nil_iff.mpr fun _ _ => rfl)
  · rw [hflat, outcomesOf_append, outcomesOf_append, commandsOf_append, commandsOf_append,
      List.map_append, List.map_append, hdone₁, hdone₂, hdone₃]
  · rw [hafter]
    exact hpending
  · rw [hafter]
  · rw [hafter]
  · rw [now, hafter]
    exact hall.now_eq

end Tells

/-! ### Messages in any order -/

/-- **What may reach a console next**, and what the console is then: a line or anchors at any time,
and each of its timers once the timer has run out. -/
inductive Brings (c : Console) : Message → Console → Prop
  | line (text : String) {stage : Stage} (hstage : c.director.stage.GoesOn stage) :
      Brings c (.line text) { c with director.stage := stage }
  | ready (anchors : List String) {stage : Stage} (hstage : c.director.stage.GoesOn stage) :
      Brings c (.ready anchors) { c with director.stage := stage }
  | timer {front back : Agenda Ticket} {due : Nat} {ticket : Ticket} {stage : Stage}
      (hstage : c.director.stage.GoesOn stage) (htimers : c.timers = front ++ (due, ticket) :: back)
      (hdue : due ≤ stage.watch.now) :
      Brings c (.timer ticket) { c with timers := front ++ back, director.stage := stage }

namespace Brings

variable {message : Message}

/-- On the way of a message nothing changes but the stage and the timers. -/
theorem exists_director (hc : c.Brings message c') :
    ∃ stage, c.director.stage.GoesOn stage ∧
      c'.director = { c.director with stage } ∧ c'.armed = c.armed := by
  cases hc with
  | line _ hstage | ready _ hstage | timer hstage => exact ⟨_, hstage, rfl, rfl⟩

/-- Whatever comes next, the two directors go on to mirror each other. -/
theorem mirrors (hc : c.Brings message c') {e : Director (Stage × List Exchange)}
    (he : c.director.Mirrors e) : c'.director.Mirrors e := by
  obtain ⟨stage, -, hdirector, -⟩ := hc.exists_director
  rw [hdirector]
  exact he.restage stage

/-- A console that is idle is so when the next message comes. -/
theorem idle (hc : c.Brings message c') (hidle : c.Idle) : c'.Idle := by
  obtain ⟨stage, hstage, hdirector, -⟩ := hc.exists_director
  refine ⟨?_, ?_, ?_⟩ <;> rw [hdirector]
  · exact hidle.pending_eq
  · exact hidle.events_eq
  · exact hstage.outputs_eq.trans hidle.outputs_eq

end Brings

/-- **The course of a console**: with the rounds `past`, one after the other, the console `c` became
`c'`, and the state `w` of the store became `w'`. Before each round anything may have happened by
itself, and any message may come next. -/
inductive Course (h : Host Stage) (store : Store (StateM ω)) (c : Console) (w : ω) :
    List Round → Console → ω → Prop
  | nil : Course h store c w [] c w
  | snoc {past : List Round} {c₁ c₂ c₃ : Console} {w₁ w₂ : ω} {message : Message}
      {said : List Output} (hcourse : Course h store c w past c₁ w₁)
      (hbrings : c₁.Brings message c₂)
      (hp : (c₂.handle h store message).run w₁ = ((said, c₃), w₂)) :
      Course h store c w (past ++ [⟨c₂, message, said, c₃⟩]) c₃ w₂

/-- A course goes on where another one has ended. -/
theorem Course.trans {past more : List Round} (hcourse : Course h store c w past c' w')
    (hlater : Course h store c' w' more c'' w'') :
    Course h store c w (past ++ more) c'' w'' := by
  induction hlater with
  | nil => rw [List.append_nil]; exact hcourse
  | snoc _ hbrings hp ih => rw [← List.append_assoc]; exact ih.snoc hbrings hp

/-- A course ends with the console that there is after its last round. -/
theorem Course.last {past : List Round} {round : Round}
    (hcourse : Course h store c w (past ++ [round]) c' w') :
    ∃ c₁ w₁, Course h store c w past c₁ w₁ ∧ c₁.Brings round.message round.before ∧
      (round.before.handle h store round.message).run w₁ = ((round.said, c'), w') ∧
      c' = round.after := by
  generalize hall : past ++ [round] = all at hcourse
  cases hcourse with
  | nil => exact absurd hall (by simp)
  | snoc hearlier hbrings hp =>
      obtain ⟨rfl, heq⟩ := List.append_inj' hall rfl
      rw [List.cons.injEq] at heq
      obtain ⟨rfl, -⟩ := heq
      exact ⟨_, _, hearlier, hbrings, hp, rfl⟩

/-- **What there is at a round**: a course that leads to it, what was done, and a course that leads
on. -/
theorem Course.round {past more : List Round} {round : Round}
    (hcourse : Course h store c w (past ++ round :: more) c' w') :
    ∃ c₁ w₁ w₂, Course h store c w past c₁ w₁ ∧ c₁.Brings round.message round.before ∧
      (round.before.handle h store round.message).run w₁ = ((round.said, round.after), w₂) ∧
      Course h store round.after w₂ more c' w' := by
  induction more using List.reverseRecOn generalizing c' w' with
  | nil =>
      obtain ⟨c₁, w₁, hearlier, hbrings, hp, rfl⟩ := hcourse.last
      exact ⟨c₁, w₁, w', hearlier, hbrings, hp, .nil⟩
  | append_singleton rest round' ih =>
      rw [← List.cons_append, ← List.append_assoc] at hcourse
      obtain ⟨c₂, w₂, hbefore, hbrings', hp', rfl⟩ := hcourse.last
      obtain ⟨c₁, w₁, w₃, hearlier, hbrings, hp, hlater⟩ := ih hbefore
      exact ⟨c₁, w₁, w₃, hearlier, hbrings, hp, hlater.snoc hbrings' hp'⟩

/-- **The history of the director of a console**, from any moment at which there is nothing to do:
each round is a part of it, and what is said is what happens there. -/
theorem Course.exists_played {ids : Identities} {past : List Round}
    (hcourse : Course (Stage.host ids) store c w past c' w') (hidle : c.Idle)
    {e : Director (Stage × List Exchange)} (he : c.director.Mirrors e) :
    ∃ played e', Director.History (Stage.host ids).minuted store e w played.flatten e' w' ∧
      c'.director.Mirrors e' ∧ c'.Idle ∧ List.Forall₂ Tells past played := by
  induction hcourse with
  | nil => exact ⟨[], e, .nil, he, hidle, .nil⟩
  | snoc _ hbrings hp ih =>
      obtain ⟨played, e₁, hist, he₁, hidle₁, htells⟩ := ih
      obtain ⟨eps, e₂, hist₂, he₂, htold, hidle₂, -, -⟩ :=
        exists_tells hp (hbrings.idle hidle₁).outputs_eq (hbrings.mirrors he₁)
      refine ⟨played ++ [eps], e₂, ?_, he₂, hidle₂, List.rel_append htells (.cons htold .nil)⟩
      rw [List.flatten_append, List.flatten_singleton]
      exact hist.trans hist₂

/-! ### What time brings -/

/-- **What time brings next** is one of the messages that may reach a console. -/
theorem Brings.of_next? {time : Nat} {message : Message}
    (hnext : c.next? time = (some message, c')) : c.Brings message c' := by
  rw [next?] at hnext
  have hnow := Watch.now_le_runWhile (fun v => v.ready.isEmpty && (v.agenda.due?).any fun t =>
    t ≤ time && (c.timers.due?.filter (· ≤ time)).all (t < ·)) c.director.stage.watch
  dsimp only at hnext
  generalize c.director.stage.watch.runWhile _ = watch at hnext hnow
  split at hnext
  · cases hnext
    exact .ready _ ⟨hnow, rfl⟩
  · next htimers _ =>
    cases hnext
    have htimers' : c.timers = [] ++ _ := htimers
    refine .timer ⟨?_, ?_⟩ htimers' ?_
    · exact hnow.trans (Nat.le_max_left _ _)
    · rfl
    · exact Nat.le_max_right _ _
  · cases hnext

/-- Where time brings nothing more, it has gone by. -/
theorem goesOn_of_next? {time : Nat} (hnext : c.next? time = (none, c')) :
    ∃ stage, c.director.stage.GoesOn stage ∧ c' = { c with director.stage := stage } := by
  rw [next?] at hnext
  have hnow := Watch.now_le_runWhile (fun v => v.ready.isEmpty && (v.agenda.due?).any fun t =>
    t ≤ time && (c.timers.due?.filter (· ≤ time)).all (t < ·)) c.director.stage.watch
  dsimp only at hnext
  generalize c.director.stage.watch.runWhile _ = watch at hnext hnow
  split at hnext
  · cases hnext
  · cases hnext
  · cases hnext
    refine ⟨{ c.director.stage with watch := watch.advanceTo time }, ⟨hnow.trans ?_, rfl⟩, rfl⟩
    exact (Watch.now_le_runWhile _ watch).trans (Nat.le_max_left _ _)

/-- **What a console does as time goes by is a course.** -/
theorem exists_course_advanceTo {time limit : Nat} {said : List Output}
    (hp : (c.advanceTo h store time limit).run w = ((said, c'), w')) :
    ∃ past c₁ stage, Course h store c w past c₁ w' ∧ c₁.director.stage.GoesOn stage ∧
      c' = { c₁ with director.stage := stage } ∧ said = past.flatMap Round.said := by
  induction limit generalizing c w said with
  | zero =>
      cases hp
      exact ⟨[], c', c'.director.stage, .nil, ⟨le_rfl, rfl⟩, rfl, rfl⟩
  | succ limit ih =>
      cases hnext : c.next? time with
      | mk message c₁ =>
          cases message with
          | none =>
              rw [advanceTo, hnext] at hp
              cases hp
              obtain ⟨stage, hstage, rfl⟩ := goesOn_of_next? hnext
              exact ⟨[], c, stage, .nil, hstage, rfl, rfl⟩
          | some message =>
              -- The first message is taken, and time goes on from there.
              have hboth : (c.advanceTo h store time (limit + 1)).run w =
                  let first := (c₁.handle h store message).run w
                  let later := (first.1.2.advanceTo h store time limit).run first.2
                  ((first.1.1 ++ later.1.1, later.1.2), later.2) := by
                rw [advanceTo, hnext]
                rfl
              obtain ⟨⟨⟨first, c₂⟩, w₁⟩, hfirst⟩ :
                  ∃ done, (c₁.handle h store message).run w = done := ⟨_, rfl⟩
              rw [hboth, hfirst] at hp
              obtain ⟨hsaid, rfl⟩ := Prod.mk.inj hp
              obtain ⟨rfl, rfl⟩ := Prod.mk.inj hsaid
              obtain ⟨past, c₃, stage, hcourse, hstage, heq, hlater⟩ := ih rfl
              have hround : Course h store c w _ c₂ w₁ :=
                Course.nil.snoc (.of_next? hnext) hfirst
              refine ⟨_, c₃, stage, hround.trans hcourse, hstage, heq, ?_⟩
              rw [List.flatMap_append, List.nil_append, List.flatMap_singleton]
              exact congrArg (first ++ ·) hlater

/-! ### The beginning -/

/-- Scenes are registered in the roster alone. -/
theorem registerScenes_eq (scenes : List Scene) (c : Console) :
    c.registerScenes scenes =
      { c with director.roster := scenes.foldl Roster.upsert c.director.roster } := by
  have hfold : ∀ d : Director Stage, scenes.foldl (fun d scene => (d.register scene).2) d =
      { d with roster := scenes.foldl Roster.upsert d.roster } := by
    induction scenes with
    | nil => exact fun _ => rfl
    | cons scene rest ih => exact fun d => ih { d with roster := d.roster.upsert scene }
  rw [registerScenes, hfold]

/-- What a console is before any input. -/
theorem prepare_eq (h : Host Stage) (store : Store (StateM ω)) (w : ω) (time : Instant)
    (settings : Settings) (report : CatalogReport) :
    (prepare h store time settings report).run w =
      ({ director := {
          stage := { time }
          roster := report.scenes.foldl Roster.upsert .empty
          progress := Director.loaded ((store.load settings.ns).run w).1
          ns := settings.ns } },
        ((store.load settings.ns).run w).2) := by
  have hprepare : (prepare h store time settings report).run w =
      (({ Console.start time with
          director := ((start time).director.perform h store (.load settings.ns)).run w
            |>.1.2 } : Console).registerScenes report.scenes,
        (((start time).director.perform h store (.load settings.ns)).run w).2) := rfl
  rw [hprepare, Director.perform_load, registerScenes_eq]
  rfl

section Beginning

variable {ids : Identities} {e : Director (Stage × List Exchange)}

/-- Nothing has been recorded, shown or told in some episodes. -/
def Silent (eps : List (Episode (Stage × List Exchange))) : Prop :=
  Director.collected eps = [] ∧ (eps.flatMap Director.newMinutes).filterMap Exchange.output? = []

/-- An episode in which nothing happens is put before others. -/
theorem Silent.cons {ep : Episode (Stage × List Exchange)}
    {eps : List (Episode (Stage × List Exchange))} (hevents : ep.reply.events = [])
    (hminutes : (Director.newMinutes ep).filterMap Exchange.output? = []) (heps : Silent eps) :
    Silent (ep :: eps) := by
  refine ⟨?_, ?_⟩
  · rw [Director.collected, List.flatMap_cons, ← Director.collected, hevents, heps.1,
      List.append_nil]
  · rw [List.flatMap_cons, List.filterMap_append, hminutes, heps.2, List.append_nil]

/-- Getting to know scenes, with minutes kept. -/
theorem exists_registered (scenes : List Scene) {d : Director Stage} (hd : d.Mirrors e) :
    ∃ (eps : List (Episode (Stage × List Exchange))) (g : Director (Stage × List Exchange)),
      Director.History (Stage.host ids).minuted store e w eps g w ∧
      ({ d with roster := scenes.foldl Roster.upsert d.roster } : Director Stage).Mirrors g ∧
      eps.map Episode.cue = scenes.map .register ∧ Silent eps := by
  induction scenes generalizing d e with
  | nil => exact ⟨[], e, .nil, hd, rfl, rfl, rfl⟩
  | cons scene rest ih =>
      have hregister : (d.perform (Stage.host ids) store (.register scene)).run w =
          ((.answer (d.roster.contains scene.id),
            { d with roster := d.roster.upsert scene }), w) := rfl
      obtain ⟨ep, g, hist, hg, hcue, hreply, hadds, -⟩ := exists_episode hd hregister
      obtain ⟨eps, g', hist', hg', hcues, hsilent⟩ := ih hg
      refine ⟨ep :: eps, g', hist.trans hist', hg', ?_, ?_⟩
      · rw [List.map_cons, List.map_cons, hcue, hcues]
      · exact hsilent.cons (by rw [hreply]; rfl) (List.self_eq_append_right.mp hadds.outputs_eq)

/-- **The beginning of the history of the director of a console**: it turns to the namespace of the
user and gets to know the scenes. -/
theorem exists_opening {time : Instant} {settings : Settings} {report : CatalogReport}
    (hprepare : (prepare (Stage.host ids) store time settings report).run w = (c, w')) :
    ∃ opening e, Director.History (Stage.host ids).minuted store { stage := ({ time }, []) } w
        opening e w' ∧ c.director.Mirrors e ∧ c.Idle ∧
      opening.map Episode.cue = .load settings.ns :: report.scenes.map .register ∧
      Silent opening := by
  rw [prepare_eq] at hprepare
  obtain ⟨rfl, rfl⟩ := Prod.mk.inj hprepare
  have hload := Director.perform_load (h := Stage.host ids) store w
    { stage := ({ time } : Stage) } settings.ns
  have hnew : Director.Mirrors ({ stage := { time } } : Director Stage)
      ({ stage := ({ time }, []) } : Director (Stage × List Exchange)) := rfl
  obtain ⟨ep, g, hist, hg, hcue, hreply, hadds, -⟩ := exists_episode hnew hload
  obtain ⟨eps, e, hist', he, hcues, hsilent⟩ := exists_registered report.scenes hg
  refine ⟨ep :: eps, e, hist.trans hist', he, ⟨rfl, rfl, rfl⟩, ?_, ?_⟩
  · rw [List.map_cons, hcue, hcues]
  · exact hsilent.cons (by rw [hreply]; rfl) (List.self_eq_append_right.mp hadds.outputs_eq)

end Beginning

end Console

/-! ### A rehearsal

Somebody watches at the gate again, this time at a console. -/

namespace Rehearsal

open Console

/-- Who watches. -/
def watchman : Settings where
  catalog := "scenes.json"
  storeDir := "records"
  ns := ⟨"ada"⟩

/-- The console before any input. -/
def gatehouse : Console :=
  ((prepare (Stage.host stage.ids) Records.store default watchman
    { scenes := [vigil] }).run ∅).1

/-- The line that starts the watch. -/
def call : Message := .line "\x7b\"op\":\"start\",\"sceneId\":\"vigil\"\x7d"

/-- What is said when the watch begins, and what there is then. -/
def begun : (List Output × Console) × Records :=
  (gatehouse.handle (Stage.host stage.ids) Records.store call).run ∅

/-- The timer of the first hour. -/
def bell : Message := .timer ⟨stage.ids.run 0, 2, 2⟩

/-- The console when the bell is heard, which is not at once. -/
def firstHour : Console := { begun.1.2 with timers := [], director.stage.watch.now := 700 }

/-- What is said when the second hour begins, and what there is then. -/
def relieved : (List Output × Console) × Records :=
  (firstHour.handle (Stage.host stage.ids) Records.store bell).run begun.2

/-- The watch so far. -/
def watch : List Round :=
  [⟨gatehouse, call, begun.1.1, begun.1.2⟩, ⟨firstHour, bell, relieved.1.1, relieved.1.2⟩]

/-- Before any input, nothing has been said and the store is empty. -/
theorem prepare_gatehouse : (prepare (Stage.host stage.ids) Records.store default watchman
    { scenes := [vigil] }).run ∅ = (gatehouse, ∅) := rfl

/-- The watch is a course: its line comes when it may, and its bell not before the hour. -/
theorem course_watch : Course (Stage.host stage.ids) Records.store gatehouse ∅ watch relieved.1.2
    relieved.2 := by
  have hcall : gatehouse.Brings call gatehouse := .line _ ⟨le_rfl, rfl⟩
  have htimers : begun.1.2.timers = [] ++ (500, ⟨stage.ids.run 0, 2, 2⟩) :: [] := by cbv
  have hnow : begun.1.2.director.stage.watch.now = 0 := by cbv
  have hlater : begun.1.2.director.stage.GoesOn firstHour.director.stage :=
    ⟨by rw [hnow]; exact Nat.zero_le _, rfl⟩
  have hbell : begun.1.2.Brings bell firstHour := .timer hlater htimers (by decide)
  exact (Course.nil.snoc hcall rfl).snoc hbell rfl

end Rehearsal

end Cutscene
