import Cutscene.Proofs.Brackets
import Cutscene.Proofs.Director.Geometry
import Cutscene.Proofs.Director.Twins
import Mathlib.Data.Fintype.Option
import Mathlib.Logic.Equiv.Fintype

/-!
# The Story Does Not Depend on the Game

What a game answers to commands, whether a store takes what is to be saved, and what time it is has
no influence on the story. Two histories in which a director is told the same, by games that differ
in all this, agree episode by episode (`Episode.Alike`): in the answers, in what is shown, in the
progress and in the events, but for the identifiers, the times, and whether a command was done.

In both of them the game is given the commands of the steps that are executed (`Executes`), each
once and in order.

## Main results

* `Identities.exists_renames`: distinct identifiers stand for one another.
* `Director.Outcome.exists_executes`: what is executed on a cue.
* `Director.History.commanded`: the commands of an episode are those of the steps that are executed.
* `Director.History.independent`: two histories in which the same is told agree.
-/

namespace Cutscene

open Progress (Agrees)

/-! ### Identifiers -/

/-- **Distinct identifiers stand for one another**: there are names under which the ones are the
others. -/
theorem Identities.exists_renames {ids ids' : Identities} {n : Nat} (hids : ids.Distinct n)
    (hids' : ids'.Distinct n) : ∃ ρ, ids.Renames ρ ids' n := by
  have hinjective : ∀ {ids : Identities}, ids.Distinct n → Function.Injective
      fun i : Option (Fin n) => i.elim ids.session fun k => ids.run k := by
    rintro ids ⟨hruns, hsession⟩ (_ | i) (_ | j) heq
    · rfl
    · exact absurd heq.symm (hsession j j.isLt)
    · exact absurd heq (hsession i i.isLt)
    · exact congrArg some (Fin.ext (hruns i i.isLt j j.isLt heq))
  obtain ⟨ρ, hρ⟩ := Equiv.Perm.exists_extending_pair _ _ (hinjective hids) (hinjective hids')
  exact ⟨ρ, ρ.injective, (hρ none).symm, fun k hk => (hρ (some ⟨k, hk⟩)).symm⟩

/-! ### Which steps are executed -/

namespace Director

/-- The steps that are executed on a cue: none, those of the run that goes on, or those of a new
run. -/
inductive Executes {σ : Type} (h : Host σ) (d : Director σ) (cue : Cue) : List Step → Prop
  | nothing (hturn : d.turn? h cue = none) : Executes h d cue []
  | answer {run r : Run} {p : Progress} {es : List Effect} (hrun : d.run = some run)
      (hr : run.Resumes (d.answering h cue).progress r p es)
      (hturn : d.turn? h cue = some { r.advance p with effects := es ++ (r.advance p).effects }) :
      Executes h d cue (r.script p)
  | debut (scene : Scene) (hturn : d.turn? h cue = some ((d.stop h).2.opening h scene)) :
      Executes h d cue
        ((Run.start (h.ids.run (d.stop h).2.started) scene (d.stop h).2.progress).script
          ((d.stop h).2.progress.touch scene.id (h.now (d.stop h).2.stage).1.stamp))

section Executes

variable {σ : Type} {h : Host σ} {d e : Director σ} {cue : Cue}

/-- Whatever a cue comes to, there are the steps that are executed on it, if only none. -/
theorem Outcome.exists_executes (hd : Outcome h d cue e) : ∃ steps, Executes h d cue steps := by
  cases hd with
  | answer hrun hturn hanswers =>
      obtain ⟨r, p, es, hr, rfl⟩ := hanswers.exists_resumes
      exact ⟨_, .answer hrun hr hturn⟩
  | debut scene hturn => exact ⟨_, .debut scene hturn⟩
  | stop hturn | resolve hturn | manage hturn | writeFlag hturn | setCounter hturn =>
      exact ⟨_, .nothing hturn⟩

/-- The commands of a turn are those of the steps that are executed. -/
theorem Executes.commands_eq {steps : List Step} (hsteps : Executes h d cue steps) :
    (d.turn? h cue).elim [] (commands ·.effects) = steps.filterMap Step.command? := by
  cases hsteps with
  | nothing hturn =>
      rw [hturn]
      rfl
  | answer _ hr hturn =>
      rw [hturn, Option.elim_some, commands_append, hr.commands, Run.commands_advance]
      rfl
  | debut scene hturn =>
      rw [hturn, Option.elim_some, opening, Run.commands_advance]

end Executes

end Director

/-! ### Episodes -/

section Episodes

variable {σ τ : Type}

/-- **The same is told in two episodes**, up to the names of runs. If it is to load progress, the
stores hold the same; where the games are asked for the same place, they find the same. -/
structure Episode.Matches (ρ : Uuid → Uuid) (ep : Episode (σ × List Exchange))
    (ep' : Episode (τ × List Exchange)) : Prop where
  cue_eq : ep'.cue = ep.cue.rename ρ
  loaded : ∀ ns, ep.cue = .load ns → Agrees False ep.after.progress ep'.after.progress
  finds : SameFinds (measurementsOf (Director.newMinutes ep))
    (measurementsOf (Director.newMinutes ep'))

/-- **Two episodes agree**, up to the names of runs, the times, and whether commands were done. -/
structure Episode.Alike (ρ : Uuid → Uuid) (ep : Episode (σ × List Exchange))
    (ep' : Episode (τ × List Exchange)) : Prop where
  /-- The answers are the same, except whether progress has been saved. -/
  reply : ep.cue ≠ .flush → ep.cue ≠ .settle → Reply.Alike ρ ep.reply ep'.reply
  /-- The same has been shown, in the same order. -/
  shown_eq : snapshotsOf (Director.newMinutes ep') =
    (snapshotsOf (Director.newMinutes ep)).map (Snapshot.rename ρ)
  /-- The flags, the counters and the completed scenes are the same. -/
  progress : Agrees False ep.after.progress ep'.after.progress
  state_eq : ep'.after.state = ep.after.state
  active?_eq : ep'.after.active? = ep.after.active?
  snapshot_eq : ep'.after.snapshot = ep.after.snapshot.rename ρ
  timer?_eq : ep'.after.timer? = ep.after.timer?.map (Prod.map (Ticket.rename ρ) id)
  /-- Every event would start the same scenes. -/
  peek_eq : ∀ event, ep'.after.peek event = ep.after.peek event
  /-- What has been recorded and not collected yet is alike. -/
  events : List.Forall₂ (Event.Alike ρ) ep.after.events.toList ep'.after.events.toList

end Episodes

namespace Director

/-- What is true of directors that are alike is true of the episodes that they come out of. -/
theorem Alike.episode {σ τ : Type} {ρ : Uuid → Uuid} {ep : Episode (σ × List Exchange)}
    {ep' : Episode (τ × List Exchange)}
    (hd : Alike ρ ep.before.minutes ep'.before.minutes ep.after ep'.after)
    (hreply : ep.cue ≠ .flush → ep.cue ≠ .settle → Reply.Alike ρ ep.reply ep'.reply) :
    Episode.Alike ρ ep ep' where
  reply := hreply
  shown_eq := by
    obtain ⟨more, more', hmore, hmore', hshown⟩ := hd.shown
    rw [newMinutes_eq hmore, newMinutes_eq hmore', hshown]
  progress := hd.progress
  state_eq := hd.state_eq
  active?_eq := hd.active?_eq
  snapshot_eq := hd.snapshot_eq
  timer?_eq := by
    rw [timer?, timer?, hd.state_eq, hd.ticket?_eq]
    split
    · rw [Option.map_map, Option.map_map]
      rfl
    · rfl
  peek_eq event := by rw [peek, peek, hd.eligible_eq]
  events := hd.events

variable {σ τ ω ω' : Type} {h : Host σ} {k : Host τ} {store : Store (StateM ω)}
  {store' : Store (StateM ω')} {ρ : Uuid → Uuid} {s : σ × List Exchange} {s' : τ × List Exchange}
  {past : List (Episode (σ × List Exchange))} {past' : List (Episode (τ × List Exchange))}
  {e : Director (σ × List Exchange)} {e' : Director (τ × List Exchange)} {w w₁ : ω} {w' w₁' : ω'}

/-- Lists that agree, of which the one ends with something, end with things that agree. -/
theorem exists_concat_of_forall₂ {α β : Type} {R : α → β → Prop} {as : List α} {a : α}
    {bs : List β} (h : List.Forall₂ R (as ++ [a]) bs) :
    ∃ bs' b, bs = bs' ++ [b] ∧ List.Forall₂ R as bs' ∧ R a b := by
  rcases List.eq_nil_or_concat' bs with rfl | ⟨bs', b, rfl⟩
  · exact absurd h.length_eq (by simp)
  · rw [← List.forall₂_reverse_iff, List.reverse_append, List.reverse_append] at h
    obtain ⟨hlast, hinit⟩ := List.forall₂_cons.mp h
    exact ⟨bs', b, rfl, List.forall₂_reverse_iff.mp hinit, hlast⟩

/-- **Two directors who are told the same remain alike.** Induction on the episodes. -/
theorem History.alike (hids : h.ids.Renames ρ k.ids e.started)
    (hist : History h.minuted store { stage := s } w past e w₁)
    (hist' : History k.minuted store' { stage := s' } w' past' e' w₁')
    (hpast : List.Forall₂ (Episode.Matches ρ) past past') :
    List.Forall₂ (Episode.Alike ρ) past past' ∧
      List.Forall₂ (Event.Alike ρ) (collected past) (collected past') ∧
      ∃ m m', Alike ρ m m' e e' := by
  -- The identifiers are renamed up to the end, so the bound stays as the histories get shorter.
  generalize hn : e.started = n at hids
  replace hn : e.started ≤ n := hn.le
  induction hist generalizing past' e' w₁' with
  | nil =>
      obtain rfl := List.forall₂_nil_left_iff.mp hpast
      obtain ⟨rfl, rfl⟩ := hist'.of_nil
      exact ⟨.nil, .nil, _, _, .nil s s'⟩
  | @snoc past e f w₀ w₁ reply hist stage cue hp ih =>
      obtain ⟨past', ep', rfl, hearlier, hlast⟩ := exists_concat_of_forall₂ hpast
      obtain ⟨e₀', stage', w₀', hist₀', hbefore, hp', rfl⟩ := hist'.last
      have hstarted : e.started ≤ f.started := (History.nil.snoc stage cue hp).started_le
      obtain ⟨halike, hcollected, m, m', hd⟩ := ih hist₀' hearlier (hstarted.trans hn)
      rw [hbefore, hlast.cue_eq] at hp'
      have hbegun := hd.restart stage stage'
      obtain ⟨hreply, hdone⟩ := hbegun.perform hids hp hp' hn hlast.loaded
        fun more more' hmore hmore' => by
          have hfinds := hlast.finds
          rw [newMinutes_eq hmore, newMinutes_eq (by rw [hbefore]; exact hmore')] at hfinds
          exact hfinds
      have hep : Episode.Alike ρ ⟨{ e with stage }, cue, reply, f⟩ ep' :=
        Alike.episode (by rw [hbefore]; exact hdone) hreply
      refine ⟨List.rel_append halike (.cons hep .nil), ?_, _, _, hdone⟩
      rw [collected_concat, collected_concat]
      refine List.rel_append hcollected ?_
      -- Saving may be answered differently, but gives out no events.
      by_cases hsaves : cue = .flush ∨ cue = .settle
      · have hnone : ∀ {c : Cue}, c = .flush ∨ c = .settle → c ≠ .takeEvents := by
          rintro _ (rfl | rfl) h <;> cases h
        have hevents := events_of_perform h.minuted store w₀ { e with stage } (hnone hsaves)
        have hrenamed : cue.rename ρ = .flush ∨ cue.rename ρ = .settle := by
          rcases hsaves with rfl | rfl
          · exact .inl rfl
          · exact .inr rfl
        have hevents' := events_of_perform k.minuted store' w₀' { e₀' with stage := stage' }
          (hnone hrenamed)
        rw [hp] at hevents
        rw [hp'] at hevents'
        dsimp only at hevents hevents'
        rw [hevents, hevents']
        exact .nil
      · rw [not_or] at hsaves
        exact (hreply hsaves.1 hsaves.2).events

/-- In an episode the game is given the commands of the steps that are executed, each once and in
order. -/
structure Commanded (h : Host σ) (ep : Episode (σ × List Exchange)) : Prop where
  exists_executes : ∃ steps, Executes h.minuted ep.before ep.cue steps
  commands_eq : ∀ steps, Executes h.minuted ep.before ep.cue steps →
    commandsOf (newMinutes ep) = steps.filterMap Step.command?

/-- Whatever has happened before, the game is given the commands of the steps that are executed. -/
theorem History.commanded (hist : History h.minuted store { stage := s } w past e w₁)
    {ep : Episode (σ × List Exchange)} (hmem : ep ∈ past) : Commanded h ep := by
  obtain ⟨front, back, rfl⟩ := List.append_of_mem hmem
  obtain ⟨_, _, w₀, _, -, -, hp, -, -⟩ := hist.episode
  have hout := outcome_of_perform h.minuted store w₀ ep.before ep.cue
  rw [hp] at hout
  obtain ⟨more, hminutes, hcommands, -⟩ := hout.exists_minutes
  refine ⟨hout.exists_executes, fun steps hsteps => ?_⟩
  rw [newMinutes_eq hminutes, hcommands, hsteps.commands_eq]

/-- **The game has no influence on the story.** Two directors are told the same, and load the same,
in two games that find the same. Whatever the games answer to commands, whatever the stores answer
to being given progress, and whatever time it is: episode by episode the answers, the progress and
what is shown agree, and so do all events in the end, but for the identifiers, the times, and
whether commands were done. In both games the commands that are given are those of the steps that
are executed, each once and in order. -/
theorem History.independent (hids : h.ids.Renames ρ k.ids e.started)
    (hist : History h.minuted store { stage := s } w past e w₁)
    (hist' : History k.minuted store' { stage := s' } w' past' e' w₁')
    (hpast : List.Forall₂ (Episode.Matches ρ) past past') :
    List.Forall₂ (Episode.Alike ρ) past past' ∧
      List.Forall₂ (Event.Alike ρ) (log past e) (log past' e') ∧
      (∀ ep ∈ past, Commanded h ep) ∧ ∀ ep ∈ past', Commanded k ep := by
  obtain ⟨hepisodes, hcollected, m, m', hd⟩ := hist.alike hids hist' hpast
  exact ⟨hepisodes, List.rel_append hcollected hd.events, fun _ hmem => hist.commanded hmem,
    fun _ hmem => hist'.commanded hmem⟩

end Director

namespace Rehearsal

/-- The gate is attacked, and somebody watches it. -/
def alarm : Scene where
  id := "alarm"
  steps := [.highlight "gate" false, .command (.battle "walls" "gate"), .wait 500]

/-- The alarm is raised, and what has happened is told. -/
def attack : List Cue := [.register alarm, .start "alarm", .settle, .takeEvents]

/-- Another game in which the scene is rehearsed, on another day. Nobody does as told. -/
def mutiny : Host Notes := host (.ofRandom (2 <<< 192)) false

/-- A director in that game who can see the gate, with minutes kept. -/
def captain : Director (Notes × List Exchange) :=
  { stage := ({ time := ⟨365, 0, 0⟩,
                anchors := (∅ : Anchors).insert "gate" { rect := some gate } }, []) }

/-- What happens in the one game. -/
def defended : List (Episode (Notes × List Exchange)) :=
  sentry.episodes stage.minuted Records.store ∅ attack

/-- What happens in the other one, where nothing can be saved either. -/
def surrendered : List (Episode (Notes × List Exchange)) :=
  captain.episodes mutiny.minuted Shelf.store (.failing 0) attack

end Rehearsal

/-- The story is the same where the command is done and where it fails. -/
theorem Director.independent_attack :
    ∃ ρ e e' w w', Rehearsal.stage.ids.Renames ρ Rehearsal.mutiny.ids e.started ∧
      History Rehearsal.stage.minuted Records.store Rehearsal.sentry ∅ Rehearsal.defended e w ∧
      History Rehearsal.mutiny.minuted Rehearsal.Shelf.store Rehearsal.captain (.failing 0)
        Rehearsal.surrendered e' w' ∧
      List.Forall₂ (Episode.Matches ρ) Rehearsal.defended Rehearsal.surrendered ∧
      (List.Forall₂ (Episode.Alike ρ) Rehearsal.defended Rehearsal.surrendered ∧
        List.Forall₂ (Event.Alike ρ) (log Rehearsal.defended e) (log Rehearsal.surrendered e') ∧
        (∀ ep ∈ Rehearsal.defended, Commanded Rehearsal.stage ep) ∧
        ∀ ep ∈ Rehearsal.surrendered, Commanded Rehearsal.mutiny ep) ∧
      (log Rehearsal.defended e).map (·.occurrence.name) =
        ["scenes.scene_started", "scenes.command_dispatched"] ∧
      (log Rehearsal.surrendered e').map (·.occurrence.name) =
        ["scenes.scene_started", "scenes.command_failed"] := by
  have hids : Rehearsal.stage.ids.Distinct 1 :=
    ⟨by rw [Identities.RunsDiffer]; decide, by decide⟩
  have hids' : Rehearsal.mutiny.ids.Distinct 1 :=
    ⟨by rw [Identities.RunsDiffer]; decide, by decide⟩
  obtain ⟨ρ, hρ⟩ := Identities.exists_renames hids hids'
  have hist : History Rehearsal.stage.minuted Records.store Rehearsal.sentry ∅
      Rehearsal.defended _ _ := history_episodes Rehearsal.attack Rehearsal.sentry ∅
  have hist' : History Rehearsal.mutiny.minuted Rehearsal.Shelf.store Rehearsal.captain
      (.failing 0) Rehearsal.surrendered _ _ :=
    history_episodes Rehearsal.attack Rehearsal.captain (Rehearsal.Shelf.failing 0)
  have hpast : List.Forall₂ (Episode.Matches ρ) Rehearsal.defended Rehearsal.surrendered := by
    refine .cons ⟨rfl, ?_, .refl []⟩ <| .cons ⟨rfl, ?_, .refl []⟩ <|
      .cons ⟨rfl, ?_, .refl [("gate", .somewhere Rehearsal.gate)]⟩ <|
      .cons ⟨rfl, ?_, .refl []⟩ .nil
    -- Nothing is loaded.
    all_goals
      intro ns hload
      cases hload
  exact ⟨ρ, _, _, _, _, hρ, hist, hist', hpast, History.independent hρ hist hist' hpast, rfl, rfl⟩

end Cutscene
