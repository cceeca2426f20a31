import Cutscene.Proofs.Director.Minutes

/-!
# One Game in Another

A director looks at the game only by way of its host. If one game stands for another, move by move
(`Host.Maps`), then whatever a director does in the one it does in the other, and its game goes on
standing for the other (`Director.perform_map`).

So minutes may be kept beside any game: what a director does is what it would do without them.

## Main results

* `Director.perform_map`: what is done on a cue, in either game.
* `Director.exists_perform_minuted`: minutes may be kept.
-/

namespace Cutscene

/-- The states of the game `h` stand for those of the game `k`: it is the same whether the one is
asked, or the other that the one stands for. -/
structure Host.Maps {σ τ : Type} (f : σ → τ) (h : Host σ) (k : Host τ) : Prop where
  ids_eq : k.ids = h.ids
  dispatch_eq : ∀ command s, k.dispatch command (f s) = Prod.map id f (h.dispatch command s)
  measure_eq : ∀ anchor s, k.measure anchor (f s) = Prod.map id f (h.measure anchor s)
  present_eq : ∀ snapshot s, k.present snapshot (f s) = f (h.present snapshot s)
  now_eq : ∀ s, k.now (f s) = Prod.map id f (h.now s)

/-- A game with minutes stands for the game without them. -/
theorem Host.maps_minuted {σ : Type} (h : Host σ) : Host.Maps Prod.fst h.minuted h where
  ids_eq := rfl
  dispatch_eq _ _ := rfl
  measure_eq _ _ := rfl
  present_eq _ _ := rfl
  now_eq _ := rfl

namespace Director

variable {σ τ : Type}

/-- The same director with the game that its own stands for. -/
def map (f : σ → τ) (d : Director σ) : Director τ := { d with stage := f d.stage }

variable {f : σ → τ} {h : Host σ} {k : Host τ} (hf : Host.Maps f h k) (d : Director σ)

include hf

/-- An event is recorded alike beside both games, which tell the same time. -/
theorem record_map (correlation : Uuid) (occurrence : Occurrence) :
    (d.map f).record k correlation occurrence = (d.record h correlation occurrence).map f := by
  simp only [record, time, map, hf.ids_eq, hf.now_eq, Prod.map, id]

/-- Events are correlated alike. -/
theorem correlation_map : (d.map f).correlation k = d.correlation h := by
  rw [correlation, hf.ids_eq]
  rfl

/-- A run is concluded alike. -/
theorem conclude_map (scene : String) (run : Uuid) (ending : Ending) :
    (d.map f).conclude k scene run ending = (d.conclude h scene run ending).map f := by
  simp only [conclude]
  split
  · rw [← record_map hf]
    simp only [time, map, hf.now_eq, Prod.map, id]
  · rw [← record_map hf]
    rfl

/-- An effect is carried out alike: the games take the same commands and show the same. -/
theorem carryOut_map (scene : String) (run : Uuid) (e : Effect) :
    carryOut k scene run (d.map f) e = (carryOut h scene run d e).map f := by
  cases e with
  | flagChanged | counterChanged => exact record_map hf { d with dirty := true } _ _
  | measure => rfl
  | present s => simp only [carryOut, present, map, hf.present_eq]
  | ended ending => exact conclude_map hf d scene run ending
  | dispatch command =>
      simp only [carryOut]
      rw [← record_map hf]
      simp only [map, hf.dispatch_eq, Prod.map, id]

/-- A turn is followed alike, effect by effect. -/
theorem follow_map (run : Run) (progress : Progress) (effects : List Effect) :
    (d.map f).follow k run progress effects = (d.follow h run progress effects).map f := by
  have hfold : ∀ (scene : String) (id : Uuid) (d : Director σ),
      effects.foldl (carryOut k scene id) (d.map f) =
        (effects.foldl (carryOut h scene id) d).map f := by
    intro scene id
    induction effects with
    | nil => exact fun _ => rfl
    | cons e rest ih =>
        intro d
        rw [List.foldl_cons, carryOut_map hf, ih]
        rfl
  exact hfold run.scene.id run.id { d with run := some run, progress }

/-- A turn is taken alike, if there is one. -/
theorem take_map (turn : Option Turn) :
    (d.map f).take k turn = Prod.map id (map f) (d.take h turn) := by
  cases turn with
  | none => rfl
  | some turn => exact congrArg (true, ·) (follow_map hf d _ _ _)

/-- What is played is broken off alike. -/
theorem stop_map : (d.map f).stop k = Prod.map id (map f) (d.stop h) := by
  have hactive : (d.map f).activeRun? = d.activeRun? := rfl
  rw [stop, stop, hactive]
  cases d.activeRun? with
  | none => rfl
  | some run => exact congrArg (true, ·) (follow_map hf d _ _ _)

/-- A scene opens with the same turn. -/
theorem opening_map (scene : Scene) : (d.map f).opening k scene = d.opening h scene := by
  have hnow : (k.now (d.map f).stage).1 = (h.now d.stage).1 :=
    congrArg Prod.fst (hf.now_eq d.stage)
  rw [opening, opening, hf.ids_eq, hnow]
  rfl

/-- It is announced alike. -/
theorem announce_map (scene : Scene) :
    (d.map f).announce k scene = (d.announce h scene).map f := by
  have hnow : k.now (d.map f).stage = Prod.map id f (h.now d.stage) := hf.now_eq d.stage
  rw [announce, announce, ← record_map hf, hf.ids_eq, hnow]
  rfl

/-- It is played alike. -/
theorem play_map (scene : Scene) : (d.map f).play k scene = (d.play h scene).map f := by
  rw [play_eq_debut, play_eq_debut, stop_map hf]
  dsimp only [Prod.map]
  rw [debut, opening_map hf, announce_map hf, follow_map hf]
  rfl

/-- A place is asked for alike, and the games find the same one. -/
theorem locate_map (ticket : Ticket) (anchor : String) :
    (d.map f).locate k ticket anchor = (d.locate h ticket anchor).map f := by
  have hrun : (d.map f).run = d.run := rfl
  have hstage : (d.map f).stage = f d.stage := rfl
  rw [locate_eq, locate_eq, hrun, hstage, hf.measure_eq]
  dsimp only [Prod.map, id]
  cases d.run with
  | none => rfl
  | some run =>
      dsimp only
      split
      · cases (run.applyGeometry ticket (h.measure anchor d.stage).1.usable?).2 with
        | none => rfl
        | some shown =>
            simp only [Option.elim_some, present, map, hf.present_eq]
      · rfl

/-- So are all places that are pending. -/
theorem resolve_map : (d.map f).resolve k = (d.resolve h).map f := by
  have hfold : ∀ (requests : List (Ticket × String)) (d : Director σ),
      requests.foldl (fun d request => d.locate k request.1 request.2) (d.map f) =
        (requests.foldl (fun d request => d.locate h request.1 request.2) d).map f := by
    intro requests
    induction requests with
    | nil => exact fun _ => rfl
    | cons request rest ih =>
        intro d
        have hone := locate_map hf d request.1 request.2
        exact (congrArg (fun e => rest.foldl _ e) hone).trans (ih _)
  exact hfold d.pending { d with pending := [] }

/-- A flag is set alike. -/
theorem setFlag_map (flag : String) (value : Bool) :
    (d.map f).setFlag k flag value = (d.setFlag h flag value).map f := by
  have hwritten : (d.map f).writeFlag k flag value = (d.writeFlag h flag value).map f := by
    rw [writeFlag, correlation_map hf]
    exact record_map hf { d with progress := d.progress.setFlag flag value, dirty := true } _ _
  rw [setFlag_eq, setFlag_eq, hwritten, take_map hf]
  rfl

/-- So is a counter. -/
theorem setCounter_map (counter : String) (value : Int64) :
    (d.map f).setCounter k counter value = (d.setCounter h counter value).map f := by
  have hsame : ∀ progress,
      correlation k ({ d.map f with progress, dirty := true } : Director τ) = d.correlation h :=
    fun _ => correlation_map hf d
  simp only [setCounter]
  rw [← record_map hf]
  rw [hsame]
  rfl

section Perform

variable {ω : Type} (store : Store (StateM ω)) (w : ω)

omit hf in
/-- Saving does not look at the game. -/
theorem flush_map :
    ((d.map f).flush store).run w =
      Prod.map (Prod.map id (map f)) id ((d.flush store).run w) := by
  have hdirty : (d.map f).dirty = d.dirty := rfl
  rw [flush, flush, hdirty]
  cases d.dirty with
  | false => rfl
  | true =>
      simp only [if_true, StateT.run_bind, map]
      generalize (store.save d.ns d.progress).run w = saved
      obtain ⟨answer | answer, w'⟩ := saved <;> rfl

/-- **In either game a director does the same on a cue.** -/
theorem perform_map (cue : Cue) :
    ((d.map f).perform k store cue).run w =
      Prod.map (Prod.map id (map f)) id ((d.perform h store cue).run w) := by
  cases cue with
  | load ns =>
      rw [perform_load, perform_load, stop_map hf]
      rfl
  | flush =>
      simp only [perform, StateT.run_bind]
      rw [flush_map]
      rfl
  | settle =>
      simp only [perform, settle, StateT.run_bind]
      rw [resolve_map hf, flush_map]
      rfl
  | resolve => exact congrArg (fun e => ((Reply.done, e), w)) (resolve_map hf d)
  | register | unregister | takeEvents => rfl
  | notice e =>
      have hselect : (d.map f).roster.select? e (d.map f).progress (d.map f).active? =
          d.roster.select? e d.progress d.active? := rfl
      have hnotice : (d.map f).notice k e = Prod.map id (map f) (d.notice h e) := by
        rw [notice, notice, hselect]
        cases d.roster.select? e d.progress d.active? with
        | none => rfl
        | some scene => exact congrArg (some scene.id, ·) (play_map hf d scene)
      exact congrArg (fun r => (Prod.map Reply.started id r, w)) hnotice
  | start id =>
      have hget : (d.map f).roster.get? id = d.roster.get? id := rfl
      have hstart : (d.map f).start k id = Prod.map (fun r => r) (map f) (d.start h id) := by
        rw [start, start, hget]
        cases d.roster.get? id with
        | none => rfl
        | some scene => exact congrArg (Except.ok (), ·) (play_map hf d scene)
      exact congrArg (fun r => (Prod.map Reply.ofExcept (fun e => e) r, w)) hstart
  | stop => exact congrArg (fun r => (Prod.map Reply.answer id r, w)) (stop_map hf d)
  | choose option =>
      have hrun : (d.map f).run = d.run := rfl
      have hprogress : (d.map f).progress = d.progress := rfl
      have hchoose : (d.map f).choose k option = Prod.map id (map f) (d.choose h option) := by
        rw [choose, choose, hrun, hprogress]
        cases d.run with
        | none => rfl
        | some run =>
            dsimp only
            cases run.choose d.progress option with
            | error fault => rfl
            | ok turn => exact congrArg (Except.ok (), ·) (follow_map hf d _ _ _)
      exact congrArg (fun r => (Prod.map Reply.ofExcept id r, w)) hchoose
  | acknowledge => exact congrArg (fun r => (Prod.map Reply.answer id r, w)) (take_map hf d _)
  | resume ticket =>
      exact congrArg (fun r => (Prod.map Reply.answer id r, w)) (take_map hf d _)
  | setFlag flag value => exact congrArg (fun e => ((Reply.done, e), w)) (setFlag_map hf d _ _)
  | setCounter counter value =>
      exact congrArg (fun e => ((Reply.done, e), w)) (setCounter_map hf d _ _)

end Perform

end Director

namespace Director

variable {σ τ ω : Type} {h : Host σ} {store : Store (StateM ω)}

/-- Apart from their games, the directors are the same. -/
def Mirrors (d : Director σ) (e : Director τ) : Prop := d = e.map fun _ => d.stage

namespace Mirrors

variable {d : Director σ} {e : Director τ}

/-- A director mirrors what it has been made from. -/
theorem map (f : τ → σ) (e : Director τ) : (e.map f).Mirrors e := rfl

/-- The game may go on by itself. -/
theorem restage (hd : d.Mirrors e) (stage : σ) : ({ d with stage } : Director σ).Mirrors e := by
  rw [hd]
  rfl

/-- Mirrored directors play the same run. -/
theorem run_eq (hd : d.Mirrors e) : d.run = e.run := congrArg Director.run hd

/-- They have the same progress. -/
theorem progress_eq (hd : d.Mirrors e) : d.progress = e.progress := congrArg Director.progress hd

/-- They have started as many runs. -/
theorem started_eq (hd : d.Mirrors e) : d.started = e.started := congrArg Director.started hd

/-- They have recorded as many events. -/
theorem recorded_eq (hd : d.Mirrors e) : d.recorded = e.recorded := congrArg Director.recorded hd

/-- They have the same events to hand over. -/
theorem events_eq (hd : d.Mirrors e) : d.events = e.events := congrArg Director.events hd

/-- They wait for the same timer. -/
theorem timer?_eq (hd : d.Mirrors e) : d.timer? = e.timer? := congrArg Director.timer? hd

end Mirrors

/-- **Minutes may be kept of whatever a director does.** -/
theorem exists_perform_minuted {d : Director σ} {e : Director (σ × List Exchange)}
    (he : d.Mirrors e) (minutes : List Exchange) {cue : Cue} {reply : Reply} {f : Director σ}
    {w w' : ω} (hp : (d.perform h store cue).run w = ((reply, f), w')) :
    ∃ e' : Director (σ × List Exchange),
      ({ e with stage := (d.stage, minutes) }.perform h.minuted store cue).run w =
        ((reply, e'), w') ∧ e'.map Prod.fst = f := by
  have hd : d = ({ e with stage := (d.stage, minutes) } : Director _).map Prod.fst := he
  rw [hd, perform_map h.maps_minuted] at hp
  generalize (Director.perform h.minuted store _ cue).run w = done at hp ⊢
  obtain ⟨⟨reply', e'⟩, w''⟩ := done
  obtain ⟨hdone, rfl⟩ := Prod.mk.inj hp
  obtain ⟨rfl, hmap⟩ := Prod.mk.inj hdone
  exact ⟨e', rfl, hmap⟩

end Director

end Cutscene
