import Cutscene.Proofs.Director.History
import Cutscene.Proofs.Director.Log

/-!
# Progress Out of the Log

A director writes progress while a run executes steps, and records what was written afterwards,
effect by effect. `Progress.replay` reads the log back: it goes through the events one by one and
makes the changes that they speak of. What comes out is the progress that the director has.

When a scene was last seen depends on the clock. A director reads the time once for progress and
once more for the event, and so this part can be computed from the log only if the clock stands
still in the meantime (`Host.Still`).

## Main results

* `Director.replays_follow`: the effects of a turn are recorded as what the turn wrote.
* `Director.Deed.replays`: every deed records what it changes.
* `Director.History.replay_log`: progress is what the log since the beginning says.
* `Director.History.log_eq_news`, `Director.agrees_news`: the log consists of what was recorded in
  each episode, which tells all that was written in it.
-/

namespace Cutscene

/-! ### The clock -/

/-- A director can bring the game from the one state to the other. -/
inductive Host.Leads {σ : Type} (h : Host σ) (s : σ) : σ → Prop
  | refl : Leads h s s
  | dispatch {s' : σ} (hs : Leads h s s') (command : HostCommand) :
      Leads h s (h.dispatch command s').2
  | measure {s' : σ} (hs : Leads h s s') (anchor : String) :
      Leads h s (h.measure anchor s').2
  | present {s' : σ} (hs : Leads h s s') (shown : Snapshot) : Leads h s (h.present shown s')
  | now {s' : σ} (hs : Leads h s s') : Leads h s (h.now s').2

/-- **The clock stands still** from a state on, as long as only a director has a hand in it. -/
def Host.Still {σ : Type} (h : Host σ) (s : σ) : Prop :=
  ∀ s', h.Leads s s' → (h.now s').1 = (h.now s).1

namespace Director

open Progress (Agrees Tells)

variable {σ : Type} {h : Host σ} {s : σ}

/-! ### What deeds leave of the game -/

/-- An effect leaves the game in a state that a director can bring it to. -/
theorem leads_carryOut (scene : String) (run : Uuid) {d : Director σ} (hs : h.Leads s d.stage)
    (e : Effect) : h.Leads s (carryOut h scene run d e).stage := by
  cases e with
  | flagChanged | counterChanged => exact hs.now
  | dispatch command => exact (hs.dispatch command).now
  | measure => exact hs
  | present shown => exact hs.present shown
  | ended ending =>
      rw [carryOut]
      cases hreason : ending.reason with
      | completed =>
          rw [conclude_of_completed d scene run hreason]
          exact hs.now.now
      | interrupted =>
          rw [conclude_of_interrupted d scene run hreason]
          exact hs.now

/-- So do all effects of a turn. -/
theorem leads_follow {d : Director σ} (hs : h.Leads s d.stage) (run : Run) (q : Progress)
    (es : List Effect) : h.Leads s (d.follow h run q es).stage :=
  follow_induction (P := fun e => h.Leads s e.stage) (fun e _ hd => leads_carryOut _ _ hd e) hs

/-- So does asking for a place. -/
theorem leads_locate {d : Director σ} (hs : h.Leads s d.stage) (ticket : Ticket)
    (anchor : String) : h.Leads s (d.locate h ticket anchor).stage := by
  have hmeasured := hs.measure anchor
  rw [locate_eq]
  split
  · next run hrun =>
    split
    · dsimp only
      cases (run.applyGeometry ticket (h.measure anchor d.stage).1.usable?).2 with
      | none => exact hmeasured
      | some shown => exact hmeasured.present shown
    · exact hmeasured
  · exact hmeasured

/-- Whatever a director does to the game, it does by the ways that it has. -/
theorem Deed.leads {d e : Director σ} {ts : List Ticket} (hd : Deed h d ts e)
    (hs : h.Leads s d.stage) : h.Leads s e.stage := by
  cases hd with
  | manage | withdraw => exact hs
  | locate ticket anchor => exact leads_locate hs ticket anchor
  | writeFlag | setCounter => exact hs.now
  | interrupt | answer => exact leads_follow hs _ _ _
  | debut scene hidle => exact leads_follow hs.now.now _ _ _

/-- So it is on every cue. -/
theorem leads_perform {ω : Type} (store : Store (StateM ω)) (w : ω) (d : Director σ) (cue : Cue) :
    h.Leads d.stage ((d.perform h store cue).run w).1.2.stage := by
  have hdeeds : ∀ {e : Director σ} {ts : List Ticket}, Deeds h d ts e →
      h.Leads d.stage e.stage := fun hd =>
    hd.induction (P := fun _ e => h.Leads d.stage e.stage) (fun hdeed hs => hdeed.leads hs) []
      .refl
  by_cases htake : cue = .takeEvents
  · subst htake
    exact .refl
  by_cases hload : ∃ ns, cue = .load ns
  · obtain ⟨ns, rfl⟩ := hload
    have hstop := hdeeds ((covers_deeds h).stop d)
    rw [perform_load]
    exact hstop
  · exact hdeeds (deeds_of_perform h store w d (fun ns hns => hload ⟨ns, hns⟩) htake)

/-! ### What deeds record -/

/-- What was recorded between the directors says what has become of progress. -/
def Replays (steady : Prop) (d e : Director σ) : Prop :=
  ∃ es, Logs d es e ∧ d.progress.Truthful es ∧
    Agrees steady (d.progress.replay es) e.progress

section Replays

variable {steady : Prop} {d e f : Director σ}

/-- Where nothing is recorded and nothing is written, nothing has to be told. -/
theorem Replays.of_eq (hevents : e.events = d.events) (hrecorded : e.recorded = d.recorded)
    (hprogress : e.progress = d.progress) : Replays steady d e :=
  ⟨[], .nil hevents hrecorded, .nil, by rw [hprogress]; exact .refl _⟩

/-- What is told of two deeds is told of the one after the other. -/
theorem Replays.trans (hde : Replays steady d e) (hef : Replays steady e f) :
    Replays steady d f := by
  obtain ⟨es, hes, htruthful, hagrees⟩ := hde
  obtain ⟨fs, hfs, htruthful', hagrees'⟩ := hef
  refine ⟨es ++ fs, hes.trans hfs, htruthful.append (hagrees.symm.truthful htruthful'), ?_⟩
  rw [Progress.replay_append]
  exact (hagrees.replay fs).trans hagrees'

/-- Progress is changed, and then an event recorded that says so. -/
theorem replays_record (hevents : e.events = d.events) (hrecorded : e.recorded = d.recorded)
    (correlation : Uuid) {o : Occurrence} (hbears : d.progress.Bears o)
    (hagrees : Agrees steady (d.progress.replayEvent (e.entry h correlation o)) e.progress) :
    Replays steady d (e.record h correlation o) :=
  ⟨_, (logs_record e correlation o).congr hevents.symm hrecorded.symm, .singleton hbears,
    hagrees⟩

end Replays

/-- The end of a run says whether its scene is completed. Flags and counters do not come into
it. -/
theorem exists_conclude {d : Director σ} (hs : h.Leads s d.stage) (scene : String) (run : Uuid)
    (ending : Ending) :
    ∃ ev completed lastSeen, Logs d [ev] (d.conclude h scene run ending) ∧
      (d.conclude h scene run ending).progress = { d.progress with completed, lastSeen } ∧
      (∀ p : Progress, p.Bears ev.occurrence) ∧
      ∀ flags counters, Agrees (h.Still s)
        ({ d.progress with flags, counters }.replayEvent ev)
        { flags, counters, completed, lastSeen } := by
  cases hreason : ending.reason with
  | completed =>
      rw [conclude_of_completed d scene run hreason]
      refine ⟨_, _, _, (logs_record _ _ _).congr rfl rfl, rfl, fun _ => trivial, ?_⟩
      intro flags counters
      rw [Progress.replayEvent, entry]
      dsimp only [Ending.report]
      rw [if_pos hreason]
      -- The time is read once more for the event.
      exact (Agrees.refl { d.progress with flags, counters }).complete scene fun hstill => by
        rw [hstill _ hs, hstill _ hs.now]
  | interrupted =>
      rw [conclude_of_interrupted d scene run hreason]
      refine ⟨_, _, _, (logs_record _ _ _).congr rfl rfl, rfl, fun _ => trivial, ?_⟩
      intro flags counters
      rw [Progress.replayEvent, entry]
      dsimp only [Ending.report]
      rw [if_neg (by rw [hreason]; rintro ⟨⟩)]
      exact .refl _

/-- While effects are carried out, progress holds the flags and counters of the end of the turn
already, and the events tell those that the effects so far have led to. Induction on what the
effects tell. -/
theorem exists_foldl_carryOut {p q : Progress} {es : List Effect} (htells : Tells p es q)
    (scene : String) (run : Uuid) {d : Director σ} (hs : h.Leads s d.stage)
    (hcompleted : p.completed = d.progress.completed)
    (hseen : p.lastSeen = d.progress.lastSeen) :
    ∃ evs completed lastSeen, Logs d evs (es.foldl (carryOut h scene run) d) ∧
      h.Leads s (es.foldl (carryOut h scene run) d).stage ∧
      (es.foldl (carryOut h scene run) d).progress = { d.progress with completed, lastSeen } ∧
      p.Truthful evs ∧
      Agrees (h.Still s) (p.replay evs) { q with completed, lastSeen } := by
  induction htells with
  | nil =>
      exact ⟨[], _, _, .nil rfl rfl, hs, rfl, .nil,
        ⟨rfl, rfl, hcompleted, fun _ => hseen⟩⟩
  | @flag es q _ name value ih =>
      obtain ⟨evs, completed, lastSeen, hlogs, hleads, hprogress, htruthful, hagrees⟩ := ih
      rw [List.foldl_concat]
      generalize es.foldl (carryOut h scene run) d = e at hlogs hleads hprogress ⊢
      refine ⟨_, completed, lastSeen, hlogs.trans ((logs_record _ _ _).congr rfl rfl),
        hleads.now, hprogress, htruthful.append (.singleton ?_), ?_⟩
      · exact congrArg (fun m : NameMap Bool => m.getD name false) hagrees.flags_eq.symm
      · rw [Progress.replay_append]
        exact hagrees.setFlag name value
  | @counter es q _ name value ih =>
      obtain ⟨evs, completed, lastSeen, hlogs, hleads, hprogress, htruthful, hagrees⟩ := ih
      rw [List.foldl_concat]
      generalize es.foldl (carryOut h scene run) d = e at hlogs hleads hprogress ⊢
      refine ⟨_, completed, lastSeen, hlogs.trans ((logs_record _ _ _).congr rfl rfl),
        hleads.now, hprogress, htruthful.append (.singleton ?_), ?_⟩
      · exact congrArg (fun m : NameMap Int64 => m.getD name 0) hagrees.counters_eq.symm
      · rw [Progress.replay_append]
        exact hagrees.setCounter name value
  | @silent es q _ effect hsilent ih =>
      obtain ⟨evs, completed, lastSeen, hlogs, hleads, hprogress, htruthful, hagrees⟩ := ih
      rw [List.foldl_concat]
      generalize es.foldl (carryOut h scene run) d = e at hlogs hleads hprogress ⊢
      have hleads' := leads_carryOut scene run hleads effect
      -- The end of a run is told as well, and tells that the scene is completed. All other effects
      -- that write nothing tell nothing.
      by_cases hended : ∃ ending, effect = .ended ending
      · obtain ⟨ending, rfl⟩ := hended
        obtain ⟨ev, completed', lastSeen', hev, hprogress', hbears, hagrees'⟩ :=
          exists_conclude hleads scene run ending
        refine ⟨_, completed', lastSeen', hlogs.trans hev, hleads', ?_,
          htruthful.append (.singleton (hbears _)), ?_⟩
        · rw [carryOut, hprogress', hprogress]
        · rw [Progress.replay_append]
          rw [hprogress] at hagrees'
          exact (hagrees.replayEvent ev).trans (hagrees' q.flags q.counters)
      · obtain ⟨evs', hevs', hprogress', hcommand⟩ := logs_carryOut_silent h scene run e
          hsilent fun ending heq => hended ⟨ending, heq⟩
        obtain ⟨hreplay, htruthful'⟩ :=
          Progress.replay_of_isCommand (p := p.replay evs) fun ev hev => (hcommand ev hev).1
        refine ⟨_, completed, lastSeen, hlogs.trans hevs', hleads', hprogress'.trans hprogress,
          htruthful.append htruthful', ?_⟩
        rw [Progress.replay_append, hreplay]
        exact hagrees

/-- **The effects of a turn are recorded as what the turn wrote.** -/
theorem replays_follow {d : Director σ} (hs : h.Leads s d.stage) (run : Run) {q : Progress}
    {es : List Effect} (htells : Tells d.progress es q) :
    Replays (h.Still s) d (d.follow h run q es) := by
  obtain ⟨evs, completed, lastSeen, hlogs, -, hprogress, htruthful, hagrees⟩ :=
    exists_foldl_carryOut htells run.scene.id run.id
      (d := { d with run := some run, progress := q }) hs htells.completed_eq.symm
      htells.lastSeen_eq.symm
  refine ⟨evs, hlogs.congr rfl rfl, htruthful, ?_⟩
  rw [follow, hprogress]
  exact hagrees

/-- When a scene is announced, the event tells that it was seen, and when, if the clock stands
still. -/
theorem replays_announce {d : Director σ} (hs : h.Leads s d.stage) (scene : Scene) :
    Replays (h.Still s) d (d.announce h scene) := by
  refine replays_record ?_ ?_ _ ?_ ?_
  · rfl
  · rfl
  · trivial
  · -- The time is read once more for the event.
    refine (Agrees.refl d.progress).touch scene.id fun hstill => ?_
    rw [entry, hstill _ hs, hstill _ hs.now]

/-- **Every deed records what it changes.** -/
theorem Deed.replays {d e : Director σ} {ts : List Ticket} (hd : Deed h d ts e)
    (hs : h.Leads s d.stage) : Replays (h.Still s) d e := by
  cases hd with
  | manage | withdraw => exact .of_eq rfl rfl rfl
  | locate ticket anchor =>
      obtain ⟨stage, run, heq, -⟩ := exists_locate h d ticket anchor
      rw [heq]
      exact .of_eq rfl rfl rfl
  | writeFlag flag value =>
      refine replays_record ?_ ?_ _ ?_ (.refl _) <;> rfl
  | setCounter counter value =>
      refine replays_record ?_ ?_ _ ?_ (.refl _) <;> rfl
  | @interrupt run hrun hactive => exact replays_follow hs _ (run.tells_interrupt _)
  | @answer run turn hrun hturn => exact replays_follow hs _ hturn.tells
  | debut scene hidle =>
      exact (replays_announce hs scene).trans
        (replays_follow hs.now.now _ (Run.tells_advance _ _))

/-! ### Histories -/

variable {ω : Type} {store : Store (StateM ω)} {w w' : ω}

/-- What is done on a cue is recorded, unless progress is loaded. -/
theorem replays_perform (d : Director σ) {cue : Cue} (hload : ∀ ns, cue ≠ .load ns)
    (htake : cue ≠ .takeEvents) (w : ω) :
    Replays (h.Still d.stage) d ((d.perform h store cue).run w).1.2 :=
  ((deeds_of_perform h store w d hload htake).induction
    (P := fun _ e => h.Leads d.stage e.stage ∧ Replays (h.Still d.stage) d e)
    (fun hdeed hd => ⟨hdeed.leads hd.1, hd.2.trans (hdeed.replays hd.1)⟩) []
    ⟨.refl, .of_eq rfl rfl rfl⟩).2

/-- What has been recorded in the course of a history, with the events that have been collected
since. -/
theorem History.exists_since {d e : Director σ} {past : List (Episode σ)}
    (hist : History h store d w past e w') (hload : ∀ ep ∈ past, ∀ ns, ep.cue ≠ .load ns) :
    ∃ since, log past e = d.events.toList ++ since ∧ e.recorded = d.recorded + since.length ∧
      Numbered d.recorded since ∧ d.progress.Truthful since ∧
      Agrees (∀ ep ∈ past, h.Still ep.before.stage) (d.progress.replay since) e.progress := by
  induction hist with
  | nil => exact ⟨[], (List.append_nil _).symm, rfl, .nil, .nil, .refl _⟩
  | @snoc past e f w' w'' reply _ stage cue hp ih =>
      obtain ⟨since, hlog, hrecorded, hnumbered, htruthful, hagrees⟩ :=
        ih fun ep hep => hload ep (List.mem_append_left _ hep)
      have hlast : (⟨{ e with stage }, cue, reply, f⟩ : Episode σ) ∈
          past ++ [⟨{ e with stage }, cue, reply, f⟩] := List.mem_append_right _ (.head _)
      have hagrees' := hagrees.mono fun
        (hstill : ∀ ep ∈ past ++ [⟨{ e with stage }, cue, reply, f⟩], h.Still ep.before.stage)
        ep hep => hstill ep (List.mem_append_left _ hep)
      rw [log] at hlog
      rw [log, collected_concat]
      -- Events that are collected move from the director to what has been collected.
      by_cases htake : cue = .takeEvents
      · subst htake
        rw [perform_takeEvents] at hp
        cases hp
        exact ⟨since, (List.append_nil _).trans hlog, hrecorded, hnumbered, htruthful, hagrees'⟩
      · have hreply : reply.events = [] := by
          rw [← events_of_perform h store w' { e with stage } htake, hp]
        obtain ⟨es, hes, htruthful', hnew⟩ :=
          replays_perform { e with stage } (hload _ hlast) htake w'
        rw [hp] at hes hnew
        have hnumbered' := hes.numbered
        refine ⟨since ++ es, ?_, ?_, hnumbered.append ?_,
          htruthful.append (hagrees.symm.truthful htruthful'), ?_⟩
        · rw [hreply, List.append_nil, hes.events_eq, ← List.append_assoc, hlog, List.append_assoc]
        · rw [hes.recorded_eq, List.length_append, ← Nat.add_assoc, ← hrecorded]
        · rw [← hrecorded]
          exact hnumbered'
        · rw [Progress.replay_append]
          exact (hagrees'.replay es).trans (hnew.mono fun hstill => hstill _ hlast)

/-- **Progress is what the log says.** As long as no progress is loaded, the events that have been
recorded since the beginning, with consecutive numbers, make of the progress that there was then
the progress that there is now, and each of them tells the truth about the value that it replaced.
For the times at which scenes were last seen, the clock has to stand still during each
operation. -/
theorem History.replay_log {d e : Director σ} {past : List (Episode σ)}
    (hist : History h store d w past e w') (hload : ∀ ep ∈ past, ∀ ns, ep.cue ≠ .load ns) :
    ∃ since, log past e = d.events.toList ++ since ∧ Numbered d.recorded since ∧
      d.progress.Truthful since ∧
      (d.progress.replay since).flags = e.progress.flags ∧
      (d.progress.replay since).counters = e.progress.counters ∧
      (d.progress.replay since).completed = e.progress.completed ∧
      ((∀ ep ∈ past, h.Still ep.before.stage) →
        (d.progress.replay since).lastSeen = e.progress.lastSeen) := by
  obtain ⟨since, hlog, -, hnumbered, htruthful, hagrees⟩ := hist.exists_since hload
  exact ⟨since, hlog, hnumbered, htruthful, hagrees.flags_eq, hagrees.counters_eq,
    hagrees.completed_eq, hagrees.lastSeen_eq⟩

/-! ### Episode by episode -/

/-- Loading records that the scene was broken off, if there was one. -/
theorem logs_load (d : Director σ) (ns : Namespace) (w : ω) :
    ∃ es, Logs d es ((d.perform h store (.load ns)).run w).1.2 := by
  obtain ⟨-, -, -, es, ⟨hevents, hrecorded, hnumbered⟩, -⟩ := breaksOff_stop (h := h) d
  exact ⟨es, hevents, hrecorded, hnumbered⟩

variable {ep : Episode σ}

/-- Where an episode hands nothing over, its events are those that it adds to the log. -/
theorem news_eq {es : List Event} (hreply : ep.reply.events = [])
    (hlogs : Logs ep.before es ep.after) : ep.news = es := by
  rw [Episode.news, hreply, List.nil_append, hlogs.events_eq, ← Array.length_toList,
    List.drop_left]

/-- **An episode hands over the events that there were, or adds its own to them.** -/
theorem news_cases (ep : Episode σ)
    (hp : (ep.before.perform h store ep.cue).run w = ((ep.reply, ep.after), w')) :
    (ep.cue = .takeEvents ∧ ep.reply = .collected ep.before.events ∧
        ep.after = { ep.before with events := #[] } ∧ w' = w ∧ ep.news = []) ∨
      (ep.cue ≠ .takeEvents ∧ ep.reply.events = [] ∧ Logs ep.before ep.news ep.after) := by
  obtain ⟨before, cue, reply, after⟩ := ep
  dsimp only at hp ⊢
  by_cases htake : cue = .takeEvents
  · subst htake
    rw [perform_takeEvents] at hp
    cases hp
    refine .inl ⟨rfl, rfl, rfl, rfl, ?_⟩
    rw [Episode.news, Reply.events, Array.toList_empty, List.append_nil, ← Array.length_toList,
      List.drop_length]
  · have hlogs : ∃ es, Logs before es ((before.perform h store cue).run w).1.2 := by
      by_cases hload : ∃ ns, cue = .load ns
      · obtain ⟨ns, rfl⟩ := hload
        exact logs_load before ns w
      · have hreplays : Replays (h.Still before.stage) before
            ((before.perform h store cue).run w).1.2 :=
          replays_perform before (fun ns hns => hload ⟨ns, hns⟩) htake w
        obtain ⟨es, hlogs, -⟩ := hreplays
        exact ⟨es, hlogs⟩
    have hreply := events_of_perform h store w before htake
    obtain ⟨es, hlogs⟩ := hlogs
    rw [hp] at hlogs hreply
    refine .inr ⟨htake, hreply, ?_⟩
    rw [news_eq hreply hlogs]
    exact hlogs

/-- **The log consists of what was recorded in each episode.** -/
theorem History.log_eq_news {d e : Director σ} {past : List (Episode σ)}
    (hist : History h store d w past e w') :
    log past e = d.events.toList ++ past.flatMap Episode.news := by
  induction hist with
  | nil => exact (List.append_nil _).symm
  | @snoc past e f w' w'' reply _ stage cue hp ih =>
      rw [log] at ih
      rw [log, collected_concat, List.flatMap_append, List.flatMap_singleton, ← List.append_assoc,
        ← ih]
      rcases news_cases ⟨{ e with stage }, cue, reply, f⟩ hp with
        ⟨-, hreply, hafter, -, hnews⟩ | ⟨-, hreply, hlogs⟩
      · dsimp only at hreply hafter
        rw [hnews, hreply, hafter]
        rfl
      · dsimp only at hreply
        rw [hreply, List.append_nil, hlogs.events_eq, List.append_assoc]

/-- **The events of an episode tell all that was written in it.** -/
theorem agrees_news (hload : ∀ ns, ep.cue ≠ .load ns)
    (hp : (ep.before.perform h store ep.cue).run w = ((ep.reply, ep.after), w')) :
    Agrees False (ep.before.progress.replay ep.news) ep.after.progress := by
  rcases news_cases ep hp with ⟨-, -, hafter, -, hnews⟩ | ⟨htake, -, hlogs⟩
  · rw [hnews, hafter]
    exact .refl _
  · have hreplays : Replays (h.Still ep.before.stage) ep.before
        ((ep.before.perform h store ep.cue).run w).1.2 := replays_perform ep.before hload htake w
    obtain ⟨es, hlogs', -, hagrees⟩ := hreplays
    rw [hp] at hlogs' hagrees
    rw [hlogs.unique hlogs']
    exact hagrees.mono False.elim

end Director

/-- The clock of a rehearsal stands still. -/
theorem Rehearsal.host_still (ids : Identities) (obedient : Bool) (notes : Rehearsal.Notes) :
    (Rehearsal.host ids obedient).Still notes := by
  intro notes' hleads
  change notes'.time = notes.time
  induction hleads with
  | refl => rfl
  | dispatch _ command ih => exact ih
  | measure _ anchor ih => exact ih
  | present _ shown ih => exact ih
  | now _ ih => exact ih

/-- A night at the gate, out of its log. -/
theorem Director.replay_log_night :
    ∃ past w, Director.History Rehearsal.stage Records.store Rehearsal.newcomer ∅ past
        Rehearsal.morning w ∧ past.map Episode.cue = Rehearsal.night ∧
      Rehearsal.morning.progress.counter "hours" = 2 ∧
      Rehearsal.morning.progress.isCompleted "vigil" = true ∧
      ∃ since, Director.log past Rehearsal.morning = since ∧ Numbered 0 since ∧
        Progress.empty.Truthful since ∧
        (Progress.empty.replay since).flags = Rehearsal.morning.progress.flags ∧
        (Progress.empty.replay since).counters = Rehearsal.morning.progress.counters ∧
        (Progress.empty.replay since).completed = Rehearsal.morning.progress.completed ∧
        (Progress.empty.replay since).lastSeen = Rehearsal.morning.progress.lastSeen := by
  obtain ⟨past, w, hist, hcues, -⟩ := Rehearsal.exists_night
  have hload : ∀ ep ∈ past, ∀ ns, ep.cue ≠ .load ns := by
    intro ep hep ns heq
    have hmem := List.mem_map_of_mem (f := Episode.cue) hep
    rw [hcues, heq] at hmem
    simp [Rehearsal.night] at hmem
  obtain ⟨since, hlog, hnumbered, htruthful, hflags, hcounters, hcompleted, hseen⟩ :=
    hist.replay_log hload
  exact ⟨past, w, hist, hcues, rfl, rfl, since, hlog, hnumbered, htruthful, hflags, hcounters,
    hcompleted, hseen fun ep _ => Rehearsal.host_still _ _ ep.before.stage⟩

end Cutscene
