import Cutscene.Proofs.Director.Deeds
import Cutscene.Rehearsal
import Mathlib.Data.List.Induction

/-!
# Histories

A history is what comes of telling a director one thing after the other. Between two cues the
game goes on by itself, and so its state may be any other at each cue; the store is that of a
state which only the director's own requests change, and which may make it answer in any way.

The log of a history holds all events that were recorded, whether they have been collected since
or not.

## Main results

* `Director.history_episodes`: whatever `Director.performAll` does is a history.
* `Director.History.keeps`: what is kept by all that a director does, loading and saving included,
  is kept in the course of every history.
* `Director.History.induction`: what collecting, loading and every deed keep holds at the end of
  every history, together with what was collected and given out.
* `Director.History.reachable`: the run of a director is one that has advanced, and then only been
  operated on.
-/

namespace Cutscene

/-- The events that a reply hands over. -/
def Reply.events : Reply → List Event
  | collected events => events.toList
  | done | answer _ | failed _ | started _ => []

/-- Success and failure hand no events over. -/
theorem Reply.events_ofExcept (result : Except Fault Unit) :
    (Reply.ofExcept result).events = [] := by
  cases result <;> rfl

/-- What a director was told, what it answered, and what it was before and after. -/
structure Episode (σ : Type) where
  before : Director σ
  cue : Cue
  reply : Reply
  after : Director σ

/-- The events that were recorded in an episode, whether or not they were collected in it. -/
def Episode.news {σ : Type} (ep : Episode σ) : List Event :=
  (ep.reply.events ++ ep.after.events.toList).drop ep.before.events.size

namespace Director

variable {σ ω : Type} (h : Host σ) (store : Store (StateM ω))

/-- `History h store d w past e w'`: with the episodes `past`, one after the other, the director
`d` became `e`, and the state `w` of the store became `w'`. At each episode the game may be in any
state. -/
inductive History (d : Director σ) (w : ω) : List (Episode σ) → Director σ → ω → Prop
  | nil : History d w [] d w
  | snoc {past : List (Episode σ)} {e f : Director σ} {w' w'' : ω} {reply : Reply}
      (hist : History d w past e w') (stage : σ) (cue : Cue)
      (hp : ({ e with stage }.perform h store cue).run w' = ((reply, f), w'')) :
      History d w (past ++ [⟨{ e with stage }, cue, reply, f⟩]) f w''

/-- The events that have been collected in the course of some episodes. -/
def collected (past : List (Episode σ)) : List Event := past.flatMap fun ep => ep.reply.events

/-- The tickets that have been given out in the course of some episodes. -/
def given (past : List (Episode σ)) : List Ticket :=
  past.flatMap fun ep => ep.before.issued h ep.cue

/-- All events that have been recorded by the end of some episodes: those that were collected,
and then those that the director still holds. -/
def log (past : List (Episode σ)) (d : Director σ) : List Event :=
  collected past ++ d.events.toList

variable {h store}

/-- One more episode adds what is collected in it. -/
theorem collected_concat (past : List (Episode σ)) (ep : Episode σ) :
    collected (past ++ [ep]) = collected past ++ ep.reply.events := by
  rw [collected, List.flatMap_append, List.flatMap_singleton, ← collected]

/-- One more episode adds the tickets that are given out in it. -/
theorem given_concat (past : List (Episode σ)) (ep : Episode σ) :
    given h (past ++ [ep]) = given h past ++ ep.before.issued h ep.cue := by
  rw [given, List.flatMap_append, List.flatMap_singleton, ← given]

namespace History

variable {d e f : Director σ} {w w' w'' : ω} {past more : List (Episode σ)}

/-- A history goes on with another one. Induction on the later one. -/
theorem trans (hist : History h store d w past e w')
    (later : History h store e w' more f w'') :
    History h store d w (past ++ more) f w'' := by
  induction later with
  | nil => rw [List.append_nil]; exact hist
  | snoc _ stage cue hp ih => rw [← List.append_assoc]; exact ih.snoc stage cue hp

/-- Where nothing has happened, everything is as it was. -/
theorem of_nil (hist : History h store d w [] e w') : d = e ∧ w = w' := by
  generalize hnone : ([] : List (Episode σ)) = none' at hist
  cases hist with
  | nil => exact ⟨rfl, rfl⟩
  | snoc => exact absurd hnone.symm (by simp)

/-- A history ends with what there is after its last episode. -/
theorem last {ep : Episode σ} (hist : History h store d w (past ++ [ep]) e w') :
    ∃ e₁ stage w₁, History h store d w past e₁ w₁ ∧ ep.before = { e₁ with stage } ∧
      (ep.before.perform h store ep.cue).run w₁ = ((ep.reply, ep.after), w') ∧ e = ep.after := by
  generalize hall : past ++ [ep] = all at hist
  cases hist with
  | nil => exact absurd hall (by simp)
  | snoc earlier stage cue hp =>
      obtain ⟨rfl, heq⟩ := List.append_inj' hall rfl
      rw [List.cons.injEq] at heq
      obtain ⟨rfl, -⟩ := heq
      exact ⟨_, stage, _, earlier, rfl, hp, rfl⟩

/-- A history of two parts has a director between them. -/
theorem split (hist : History h store d w (past ++ more) f w'') :
    ∃ e w', History h store d w past e w' ∧ History h store e w' more f w'' := by
  induction more using List.reverseRecOn generalizing f w'' with
  | nil =>
      rw [List.append_nil] at hist
      exact ⟨f, w'', hist, .nil⟩
  | append_singleton rest ep ih =>
      rw [← List.append_assoc] at hist
      obtain ⟨e₁, stage, w₁, hearlier, hbefore, hp, rfl⟩ := hist.last
      obtain ⟨e, w', hleft, hright⟩ := ih hearlier
      have hmore := hright.snoc stage ep.cue (hbefore ▸ hp)
      rw [← hbefore] at hmore
      exact ⟨e, w', hleft, hmore⟩

/-- **What there is at an episode**: a history that leads to it, what was done, and a history that
leads on. -/
theorem episode {ep : Episode σ} (hist : History h store d w (past ++ ep :: more) f w'') :
    ∃ e stage w₁ w₂, History h store d w past e w₁ ∧ ep.before = { e with stage } ∧
      (ep.before.perform h store ep.cue).run w₁ = ((ep.reply, ep.after), w₂) ∧
      History h store e w₁ [ep] ep.after w₂ ∧ History h store ep.after w₂ more f w'' := by
  rw [List.append_cons] at hist
  obtain ⟨e, w', hleft, hright⟩ := hist.split
  obtain ⟨e₁, stage, w₁, hearlier, hbefore, hp, rfl⟩ := hleft.last
  have hone : History h store e₁ w₁ [⟨{ e₁ with stage }, ep.cue, ep.reply, ep.after⟩] ep.after w' :=
    History.nil.snoc stage ep.cue (hbefore ▸ hp)
  rw [← hbefore] at hone
  exact ⟨e₁, stage, w₁, w', hearlier, hbefore, hp, hone, hright⟩

end History

/-- What happens on a list of cues, if the game is left alone in between. -/
def episodes (h : Host σ) (store : Store (StateM ω)) (d : Director σ) (w : ω) :
    List Cue → List (Episode σ)
  | [] => []
  | cue :: rest =>
    let done := (d.perform h store cue).run w
    ⟨d, cue, done.1.1, done.1.2⟩ :: episodes h store done.1.2 done.2 rest

/-- **Whatever is done on a list of cues is a history.** -/
theorem history_episodes (cues : List Cue) (d : Director σ) (w : ω) :
    History h store d w (d.episodes h store w cues) ((d.performAll h store cues).run w).1.2
      ((d.performAll h store cues).run w).2 := by
  induction cues generalizing d w with
  | nil => exact .nil
  | cons cue rest ih =>
      have hfirst : History h store d w _ _ _ := History.nil.snoc d.stage cue rfl
      exact hfirst.trans (ih ((d.perform h store cue).run w).1.2 ((d.perform h store cue).run w).2)

/-- Telling a director several things makes a history of them, with their answers. -/
theorem history_of_performAll (cues : List Cue) (d : Director σ) (w : ω) :
    ∃ past, History h store d w past ((d.performAll h store cues).run w).1.2
        ((d.performAll h store cues).run w).2 ∧
      past.map Episode.cue = cues ∧
      past.map Episode.reply = ((d.performAll h store cues).run w).1.1 := by
  refine ⟨_, history_episodes cues d w, ?_⟩
  induction cues generalizing d w with
  | nil => exact ⟨rfl, rfl⟩
  | cons cue rest ih =>
      obtain ⟨hcues, hreplies⟩ :=
        ih ((d.perform h store cue).run w).1.2 ((d.perform h store cue).run w).2
      exact ⟨congrArg (cue :: ·) hcues, congrArg (_ :: ·) hreplies⟩

/-- **What all that a director does keeps, it keeps in the course of a history**, if loading keeps
it too. The assertion speaks of the director and of the state of the store. -/
theorem History.keeps {R : Director σ → List Ticket → Director σ → Prop} (hR : Covers h R)
    {P : Director σ → ω → Prop}
    (hstage : ∀ {d : Director σ} {w : ω} (stage : σ), P d w → P { d with stage } w)
    (hP : ∀ {d e : Director σ} {ts : List Ticket} {w : ω}, R d ts e → P d w → P e w)
    (hsave : ∀ {d : Director σ} {w : ω}, P d w →
      P ((d.flush store).run w).1.2 ((d.flush store).run w).2)
    (hcollect : ∀ {d : Director σ} {w : ω}, P d w → P { d with events := #[] } w)
    (hload : ∀ {d : Director σ} {w : ω} (ns : Namespace), P d w →
      P ((d.perform h store (.load ns)).run w).1.2 ((d.perform h store (.load ns)).run w).2)
    {d e : Director σ} {w w' : ω} {past : List (Episode σ)}
    (hist : History h store d w past e w') (h₀ : P d w) : P e w' := by
  induction hist with
  | nil => exact h₀
  | @snoc past e f w' w'' reply _ stage cue hp ih =>
      obtain rfl : (({ e with stage }.perform h store cue).run w').1.2 = f := by rw [hp]
      obtain rfl : (({ e with stage }.perform h store cue).run w').2 = w'' := by rw [hp]
      by_cases hloads : ∃ ns, cue = .load ns
      · obtain ⟨ns, rfl⟩ := hloads
        exact hload ns (hstage stage ih)
      · exact perform_keeps (P := P) h store hR hP hsave hcollect
          (fun ns hns => hloads ⟨ns, hns⟩) (hstage stage ih)

/-- Only collecting hands events over. -/
theorem events_of_perform (h : Host σ) (store : Store (StateM ω)) (w : ω) (d : Director σ)
    {cue : Cue} (htake : cue ≠ .takeEvents) :
    ((d.perform h store cue).run w).1.1.events = [] := by
  cases cue with
  | takeEvents => exact absurd rfl htake
  | start id => exact Reply.events_ofExcept (d.start h id).1
  | choose option => exact Reply.events_ofExcept (d.choose h option).1
  | load ns =>
      rw [perform_load]
      rfl
  | flush => simp only [perform, StateT.run_bind]; rfl
  | settle => simp only [perform, settle, StateT.run_bind]; rfl
  | _ => rfl

/-- What the deeds keep, loading keeps, if it is kept when progress is replaced while no scene is
played. -/
theorem load_induction {P : List Ticket → Director σ → Prop}
    (hdeed : ∀ {us : List Ticket} {d e : Director σ} {ts : List Ticket}, Deed h d ts e →
      P us d → P (us ++ ts) e)
    (hreplace : ∀ {us : List Ticket} {d : Director σ} (progress : Progress) (ns : Namespace),
      d.activeRun? = none → P us d → P us { d with progress, ns, dirty := false })
    {us : List Ticket} {d : Director σ} (h₀ : P us d) (ns : Namespace) (w : ω) :
    P us ((d.perform h store (.load ns)).run w).1.2 := by
  have hstopped := ((covers_deeds h).stop d).induction hdeed us h₀
  rw [List.append_nil] at hstopped
  rw [perform_load]
  exact hreplace _ ns (activeRun?_stop d) hstopped

/-- **What collecting, loading and every deed keep holds at the end of every history.** The
assertion speaks of the events that have been collected, the tickets that have been given out, and
the director. -/
theorem History.induction {P : List Event → List Ticket → Director σ → Prop}
    (hstage : ∀ {cs : List Event} {us : List Ticket} {d : Director σ} (stage : σ), P cs us d →
      P cs us { d with stage })
    (hcollect : ∀ {cs : List Event} {us : List Ticket} {d : Director σ}, P cs us d →
      P (cs ++ d.events.toList) us { d with events := #[] })
    (hreplace : ∀ {cs : List Event} {us : List Ticket} {d : Director σ} (progress : Progress)
      (ns : Namespace), d.activeRun? = none → P cs us d →
      P cs us { d with progress, ns, dirty := false })
    (hdeed : ∀ {cs : List Event} {us : List Ticket} {d e : Director σ} {ts : List Ticket},
      Deed h d ts e → P cs us d → P cs (us ++ ts) e)
    {d e : Director σ} {w w' : ω} {past : List (Episode σ)}
    (hist : History h store d w past e w') (h₀ : P [] [] d) :
    P (collected past) (given h past) e := by
  induction hist with
  | nil => exact h₀
  | @snoc past e f w' w'' reply _ stage cue hp ih =>
      have hbefore := hstage stage ih
      rw [collected_concat, given_concat]
      have hreply : reply = (({ e with stage }.perform h store cue).run w').1.1 := by rw [hp]
      have hafter : f = (({ e with stage }.perform h store cue).run w').1.2 := by rw [hp]
      -- Collecting and loading are no deeds. Any other cue comes down to some.
      by_cases htake : cue = .takeEvents
      · subst htake
        rw [perform_takeEvents] at hp
        cases hp
        exact (List.append_nil (given h past)).symm ▸ hcollect hbefore
      · rw [hreply, events_of_perform h store w' _ htake, List.append_nil, hafter]
        by_cases hload : ∃ ns, cue = .load ns
        · obtain ⟨ns, rfl⟩ := hload
          exact (List.append_nil (given h past)).symm ▸
            load_induction (P := P (collected past)) hdeed hreplace hbefore ns w'
        · have hdeeds := deeds_of_perform h store w' { e with stage }
            (fun ns hns => hload ⟨ns, hns⟩) htake
          exact hdeeds.induction hdeed (given h past) hbefore

/-! ### The run of a director -/

/-- What asking for a place comes down to. -/
theorem locate_eq (d : Director σ) (ticket : Ticket) (anchor : String) :
    d.locate h ticket anchor =
      let measured : Director σ := { d with stage := (h.measure anchor d.stage).2 }
      match d.run with
      | some run =>
        if run.id = ticket.run then
          let placed := run.applyGeometry ticket (h.measure anchor d.stage).1.usable?
          placed.2.elim { measured with run := some placed.1 }
            (present h { measured with run := some placed.1 })
        else measured
      | none => measured := rfl

/-- Asking for a place changes nothing but the game, and the run by what it is told. -/
theorem exists_locate (h : Host σ) (d : Director σ) (ticket : Ticket) (anchor : String) :
    ∃ stage run, d.locate h ticket anchor = { d with stage, run } ∧
      (run = d.run ∨ ∃ run' rect, d.run = some run' ∧
        run = some (run'.applyGeometry ticket rect).1) := by
  rw [locate_eq]
  split
  · next run hrun =>
    split
    · dsimp only
      cases (run.applyGeometry ticket (h.measure anchor d.stage).1.usable?).2 with
      | none => exact ⟨_, _, rfl, .inr ⟨run, _, hrun, rfl⟩⟩
      | some shown => exact ⟨_, _, rfl, .inr ⟨run, _, hrun, rfl⟩⟩
    · exact ⟨_, d.run, rfl, .inl rfl⟩
  · exact ⟨_, d.run, rfl, .inl rfl⟩

/-- Asking for places changes the game and what the run is told, and leaves none to be asked for. -/
theorem exists_resolve (h : Host σ) (d : Director σ) :
    ∃ stage run, d.resolve h = { d with stage, run, pending := [] } :=
  resolve_induction (P := fun e => ∃ stage run, e = { d with stage, run, pending := [] })
    (by
      rintro _ ticket anchor ⟨stage, run, rfl⟩
      obtain ⟨stage', run', heq, -⟩ :=
        exists_locate h { d with stage, run, pending := [] } ticket anchor
      exact ⟨stage', run', heq⟩)
    ⟨d.stage, d.run, rfl⟩

/-- When places have been asked for, none is pending. -/
theorem pending_resolve (h : Host σ) (d : Director σ) : (d.resolve h).pending = [] := by
  obtain ⟨stage, run, heq⟩ := exists_resolve h d
  rw [heq]

/-- The place that a run wants remains the same. -/
theorem highlightTicket_locate {d : Director σ} {ticket : Ticket} {anchor : String} {run : Run}
    (hrun : (d.locate h ticket anchor).run = some run) :
    ∃ run₀, d.run = some run₀ ∧ run.highlightTicket = run₀.highlightTicket := by
  obtain ⟨stage, located, heq, rfl | ⟨run₀, rect, hrun₀, rfl⟩⟩ := exists_locate h d ticket anchor
  · rw [heq] at hrun
    exact ⟨run, hrun, rfl⟩
  · rw [heq, Option.some.injEq] at hrun
    obtain ⟨highlight, state, presented, hplaced⟩ := run₀.exists_applyGeometry ticket rect
    exact ⟨run₀, hrun₀, by rw [← hrun, hplaced]⟩

/-- A deed leaves a run that can come about. -/
theorem Deed.reachable {d e : Director σ} {ts : List Ticket} (hd : Deed h d ts e)
    (hrun : ∀ run, d.run = some run → run.Reachable) :
    ∀ run, e.run = some run → run.Reachable := by
  intro run he
  cases hd with
  | manage | withdraw | writeFlag | setCounter => exact hrun run he
  | locate ticket anchor =>
      obtain ⟨stage, located, heq, rfl | ⟨run', rect, hd, rfl⟩⟩ :=
        exists_locate h d ticket anchor
      · rw [heq] at he
        exact hrun run he
      · rw [heq, Option.some.injEq] at he
        rw [← he]
        exact (hrun run' hd).applyGeometry ticket rect
  | @interrupt run' hd hactive =>
      rw [run_follow, Option.some.injEq] at he
      rw [← he]
      exact (hrun run' hd).interrupt d.progress
  | @answer run' turn hd hturn =>
      rw [run_follow, Option.some.injEq] at he
      rw [← he]
      exact (hrun run' hd).answers hturn
  | debut scene hidle =>
      rw [Director.debut, run_follow, Option.some.injEq] at he
      rw [← he]
      exact .start _ _ _ _

/-- **The run of a director is one that has advanced, and then only been operated on.** -/
theorem History.reachable {s : σ} {e : Director σ} {w w' : ω} {past : List (Episode σ)}
    (hist : History h store { stage := s } w past e w') {run : Run} (hrun : e.run = some run) :
    run.Reachable :=
  hist.induction (P := fun _ _ d => ∀ run, d.run = some run → run.Reachable)
    (fun _ hd => hd) (fun hd => hd) (fun _ _ _ hd => hd) Deed.reachable
    (fun _ h => by cases h) run hrun

end Director

/-! ### A rehearsal

A scene that is played by way of example: somebody watches at a gate, hour by hour, until it
dawns. -/

namespace Rehearsal

/-- Watches at a gate until it dawns. -/
def vigil : Scene where
  id := "vigil"
  steps := [.label "watch", .highlight "gate" false, .wait 500, .addToCounter "hours" 1,
    .branch "dawn" none (some "watch")]

/-- The game in which the scene is rehearsed. -/
def stage : Host Notes := host (.ofRandom (1 <<< 192)) true

/-- A director who has not been told anything. -/
def newcomer : Director Notes := { stage := { time := default } }

/-- The watch is taken over at once, and it dawns in the second hour of the new one. The old
watch is called on too late. -/
def night : List Cue :=
  [.register vigil, .start "vigil", .start "vigil", .resume ⟨stage.ids.run 1, 2, 2⟩,
    .setFlag "dawn" true, .takeEvents, .resume ⟨stage.ids.run 0, 2, 2⟩,
    .resume ⟨stage.ids.run 1, 2, 4⟩]

/-- What is answered. -/
def replies : List Reply := ((newcomer.performAll stage Records.store night).run ∅).1.1

/-- What comes of it. -/
def morning : Director Notes := ((newcomer.performAll stage Records.store night).run ∅).1.2

/-- The night makes a history. -/
theorem exists_night : ∃ past w, Director.History stage Records.store newcomer ∅ past morning w ∧
    past.map Episode.cue = night ∧ past.map Episode.reply = replies := by
  obtain ⟨past, hist, hcues, hreplies⟩ :=
    Director.history_of_performAll (h := stage) night newcomer (∅ : Records)
  exact ⟨past, _, hist, hcues, hreplies⟩

end Rehearsal

end Cutscene
