import Cutscene.Proofs.Console.Telling
import Cutscene.Proofs.Director.Refusals
import Cutscene.Proofs.Director.Waits

/-!
# Lines That Are Refused

A line that is no request, or whose request cannot be met, is answered with the reason, and that is
all: it might as well not have been there. The reason can be told from what the director shows
(`Request.refusal?`). This is more than that the director refuses without a change, because a
console settles after each line, sets a timer if there is a wait, and says what there is to say.
Between two messages none of this has anything left to do (`Console.Ready`), provided that the store
takes every record.

## Main results

* `Console.meet_of_refusal`: a request that cannot be met leads to the reason, and to nothing else.
* `Console.ready_handle`: after each message nothing is left to be done.
* `Console.handle_of_react`: a console that only puts down what there is to say has said it then,
  and is what it was.
* `Console.handle_of_objection`: that is all that comes of a line that is refused.
* `Console.Course.without_line`: the course of a console without a line that is refused.
-/

namespace Cutscene

/-- The store takes every record. -/
def Store.TakesAll {ω : Type} (store : Store (StateM ω)) : Prop :=
  ∀ (ns : Namespace) (p : Progress) (w : ω), ((store.save ns p).run w).1 = .ok ()

/-- Under an id that is not there nothing is looked up. -/
theorem Roster.get?_of_contains_false {roster : Roster} {id : String}
    (hid : roster.contains id = false) : roster.get? id = none := by
  rw [contains, Std.ExtTreeMap.contains_eq_isSome_getElem?, Option.isSome_eq_false_iff,
    Option.isNone_iff_eq_none] at hid
  rw [get?, hid, Option.bind_none]

/-- A stage that goes on twice goes on. -/
theorem Stage.GoesOn.trans {s s' s'' : Stage} (hs : s.GoesOn s') (hs' : s'.GoesOn s'') :
    s.GoesOn s'' :=
  ⟨hs.now_le.trans hs'.now_le, hs'.outputs_eq.trans hs.outputs_eq⟩

/-! ### Reasons -/

/-- Why a request cannot be met, as far as can be told from what a director shows. -/
def Request.refusal? (d : Director Stage) : Request → Option Fault
  | start scene => if d.roster.contains scene then none else some (.sceneNotFound scene)
  | choose option => d.refusal? option
  | acknowledge =>
    if d.state = .waiting .acknowledgement then none
    else some (.validation "nothing awaits an acknowledgement")
  | resume none => if d.timer?.isSome then none else some (.validation "no wait is pending")
  | resume (some ticket) =>
    if d.timer?.map Prod.fst = some ticket then none
    else some (.validation "stale resume ticket")
  | event _ | peek _ | setFlag .. | setCounter .. | stop | registerAnchor .. | unregisterAnchor _
  | waitForAnchors .. => none

/-- Why a line cannot be met, unless it is blank. -/
def Director.objection? (d : Director Stage) (text : String) : Option String :=
  if Blank.trim text = "" then none
  else match Request.ofLine? (Blank.trim text) with
    | some request => (request.refusal? d).map Fault.message
    | none => some "invalid request"

namespace Console

variable {ω : Type} {h : Host Stage} {store : Store (StateM ω)} {w w' : ω} {c c' : Console}

/-- A request that the director refuses with a fault is answered with the fault. -/
theorem settled_of_error {fault : Fault} {done : Except Fault Unit × Director Stage}
    (herror : done.1 = .error fault) (hsame : done.2 = c.director) :
    c.settled done = c.report fault := by
  obtain ⟨result, director⟩ := done
  obtain rfl : result = .error fault := herror
  obtain rfl : director = c.director := hsame
  rfl

/-- One that it refuses without a fault is answered with a fault of the console's own. -/
theorem accepted_of_false {refusal : String} {done : Bool × Director Stage}
    (hfalse : done.1 = false) (hsame : done.2 = c.director) :
    c.accepted refusal done = c.report (.validation refusal) := by
  obtain ⟨result, director⟩ := done
  obtain rfl : result = false := hfalse
  obtain rfl : director = c.director := hsame
  rfl

/-- Only the ticket of the wait ends it, and any other one is told to be stale. -/
theorem accepted_stale {ticket : Ticket}
    (hstale : c.director.timer?.map Prod.fst ≠ some ticket) :
    c.accepted "stale resume ticket" (c.director.resume h ticket) =
      c.report (.validation "stale resume ticket") := by
  have hrefused : c.director.resume h ticket = (false, c.director) :=
    Director.resume_of_timer?_ne fun ms hwait => hstale (by rw [hwait]; rfl)
  rw [hrefused]
  rfl

/-- **A request that cannot be met leads to the reason**, and to nothing else. -/
theorem meet_of_refusal (hrun : ∀ run, c.director.run = some run → run.Coherent)
    {request : Request} {fault : Fault} (hrefusal : request.refusal? c.director = some fault) :
    c.meet h request = c.report fault := by
  cases request with
  | start scene =>
      obtain ⟨hunknown, hfault⟩ := Option.ite_none_left_eq_some.mp hrefusal
      cases hfault
      have hget := Roster.get?_of_contains_false (Bool.eq_false_iff.mpr hunknown)
      rw [meet, Director.start, hget]
      rfl
  | choose option =>
      -- What is told of a director who performs a cue holds with any store.
      have hreply : Reply.ofExcept (c.director.choose h option).1 = .failed fault :=
        (Director.reply_choose_iff Records.store hrun ∅ option fault).mpr hrefusal
      have herror : (c.director.choose h option).1 = .error fault := by
        cases hresult : (c.director.choose h option).1 with
        | ok => rw [hresult] at hreply; cases hreply
        | error fault' => rw [hresult] at hreply; cases hreply; rfl
      exact settled_of_error herror (Director.eq_of_choose_error herror)
  | acknowledge =>
      obtain ⟨hstate, hfault⟩ := Option.ite_none_left_eq_some.mp hrefusal
      cases hfault
      have hfalse : (c.director.acknowledge h).1 = false := Reply.answer.inj
        ((Director.reply_acknowledge_iff Records.store c.director ∅).mpr hstate)
      exact accepted_of_false hfalse (Director.eq_of_take_false hfalse)
  | resume ticket =>
      cases ticket with
      | none =>
          obtain ⟨hnone, hfault⟩ := Option.ite_none_left_eq_some.mp hrefusal
          cases hfault
          have hwait : c.director.timer? = none := by simpa using hnone
          rw [meet, hwait]
          rfl
      | some ticket =>
          obtain ⟨hstale, hfault⟩ := Option.ite_none_left_eq_some.mp hrefusal
          cases hfault
          exact accepted_stale hstale
  | event | peek | setFlag | setCounter | stop | registerAnchor | unregisterAnchor
  | waitForAnchors => cases hrefusal

/-- **A line that cannot be met leads to the reason**, and to nothing else. -/
theorem react_of_objection (hrun : ∀ run, c.director.run = some run → run.Coherent)
    {text reason : String} (hreason : c.director.objection? text = some reason) :
    c.react h (.line text) = c.say (.error reason) := by
  rw [Director.objection?] at hreason
  rw [react, meetLine]
  split at hreason
  · cases hreason
  · next hblank =>
    rw [if_neg hblank]
    cases hrequest : Request.ofLine? (Blank.trim text) with
    | none =>
        rw [hrequest] at hreason
        obtain rfl := Option.some.inj hreason
        rfl
    | some request =>
        rw [hrequest] at hreason
        obtain ⟨fault, hrefusal, rfl⟩ := Option.map_eq_some_iff.mp hreason
        exact meet_of_refusal hrun hrefusal

/-- A blank line leads to nothing. -/
theorem react_of_blank {text : String} (hblank : Blank.trim text = "") :
    c.react h (.line text) = c := by
  rw [react, meetLine]
  exact if_pos hblank

/-! ### Between two messages -/

/-- **Nothing is left to be done**: nothing to be said, no place to be asked for, nothing to be
saved, and no timer to be set. -/
structure Ready (c : Console) : Prop where
  idle : c.Idle
  dirty_eq : c.director.dirty = false
  armed_eq : ∀ ticket ms, c.director.timer? = some (ticket, ms) → c.armed = some ticket

/-- A store that takes every record leaves nothing to be saved. -/
theorem flush_of_takesAll (hstore : store.TakesAll) (d : Director Stage) (w : ω) :
    ∃ w', (d.flush store).run w = ((true, { d with dirty := false }), w') := by
  rw [Director.flush]
  cases hdirty : d.dirty with
  | false =>
      refine ⟨w, ?_⟩
      obtain ⟨stage, roster, progress, ns, dirty, run, started, pending, recorded, events⟩ := d
      obtain rfl : dirty = false := hdirty
      rfl
  | true =>
      have hsave := hstore d.ns d.progress w
      simp only [if_true, StateT.run_bind]
      generalize (store.save d.ns d.progress).run w = saved at hsave
      obtain ⟨answer, w'⟩ := saved
      obtain rfl : answer = .ok () := hsave
      exact ⟨w', rfl⟩

/-- **After each message nothing is left to be done.** -/
theorem ready_handle {message : Message} {said : List Output} (hstore : store.TakesAll)
    (hp : (c.handle h store message).run w = ((said, c'), w')) : c'.Ready := by
  obtain ⟨yes, d, hsettle, -, hafter, harms⟩ := exists_handle hp
  obtain ⟨w₁, hflush⟩ := flush_of_takesAll hstore ((c.react h message).director.resolve h) w
  have hpending : d.pending = [] := Director.pending_of_settle hsettle
  have hclean : d.dirty = false := by
    simp only [Director.perform, Director.settle, StateT.run_bind, hflush] at hsettle
    obtain ⟨hdone, -⟩ := Prod.mk.inj hsettle
    obtain ⟨-, rfl⟩ := Prod.mk.inj hdone
    rfl
  refine ⟨⟨?_, ?_, ?_⟩, ?_, fun ticket ms hwait => ?_⟩
  · rw [hafter]
    exact hpending
  · rw [hafter]
  · rw [hafter]
  · rw [hafter]
    exact hclean
  · cases harms with
    | kept harmed _ hkept => exact harmed.trans (hkept ticket ms hwait)
    | set hset _ harmed _ =>
        obtain ⟨rfl, -⟩ := Prod.mk.inj (Option.some.inj (hset.symm.trans hwait))
        exact harmed

namespace Ready

/-- What goes on by itself leaves nothing to be done. -/
theorem brings (hc : c.Ready) {message : Message} (hbrings : c.Brings message c') :
    c'.Ready := by
  obtain ⟨stage, -, hdirector, harmed⟩ := hbrings.exists_director
  refine ⟨hbrings.idle hc.idle, ?_, fun ticket ms hwait => ?_⟩
  · rw [hdirector]
    exact hc.dirty_eq
  · rw [harmed]
    rw [hdirector] at hwait
    exact hc.armed_eq ticket ms hwait

/-- Then settling does nothing, whatever has been put down. -/
theorem settle (hc : c.Ready) (stage : Stage) (w : ω) :
    (({ c.director with stage } : Director Stage).settle h store).run w =
      ((true, { c.director with stage }), w) := by
  have hresolve : ({ c.director with stage } : Director Stage).resolve h =
      { c.director with stage } := by
    rw [Director.resolve, hc.idle.pending_eq, List.foldl_nil, ← hc.idle.pending_eq]
  rw [Director.settle, hresolve, Director.flush, hc.dirty_eq]
  rfl

/-- Then no timer is set. -/
theorem arm (hc : c.Ready) (stage : Stage) :
    ({ c with director.stage := stage } : Console).arm = { c with director.stage := stage } := by
  rw [Console.arm]
  split
  · next ticket ms hwait => exact if_pos (hc.armed_eq ticket ms hwait)
  · rfl

end Ready

/-- **A console that only puts down what there is to say** has said it then, and is what it was. -/
theorem handle_of_react {message : Message} (hc : c.Ready) (outputs : Array Output)
    (hreact : c.react h message = { c with director.stage.outputs := outputs }) :
    (c.handle h store message).run w = ((outputs.toList, c), w) := by
  have hhandle : (c.handle h store message).run w =
      ({ c.react h message with
          director := (((c.react h message).director.settle h store).run w).1.2 }.arm.drain,
        (((c.react h message).director.settle h store).run w).2) := rfl
  rw [hhandle, hreact, hc.settle]
  dsimp only
  rw [hc.arm]
  obtain ⟨⟨-, hevents, houtputs⟩, -, -⟩ := hc
  obtain ⟨⟨⟨time, watch, outputs'⟩, roster, progress, ns, dirty, run, started, pending, recorded,
    events⟩, armed, timers⟩ := c
  obtain rfl : events = #[] := hevents
  obtain rfl : outputs' = #[] := houtputs
  rw [drain]
  simp only [Director.takeEvents, Array.toList_empty, List.map_nil, List.append_nil]

/-- **A line that cannot be met is answered with the reason**, and leaves everything as it is. -/
theorem handle_of_objection (hc : c.Ready)
    (hrun : ∀ run, c.director.run = some run → run.Coherent) {text reason : String}
    (hreason : c.director.objection? text = some reason) :
    (c.handle h store (.line text)).run w = (([.error reason], c), w) := by
  refine handle_of_react hc #[.error reason] ?_
  rw [react_of_objection hrun hreason, say, Stage.say, hc.idle.outputs_eq]
  rfl

/-- A blank line is not answered, and leaves everything as it is. -/
theorem handle_of_blank (hc : c.Ready) {text : String} (hblank : Blank.trim text = "") :
    (c.handle h store (.line text)).run w = (([], c), w) := by
  refine handle_of_react hc #[] ?_
  rw [react_of_blank hblank, ← hc.idle.outputs_eq]

/-! ### Leaving a line out -/

variable {stage : Stage} {text : String} {past more : List Round} {round : Round}

/-- On the way of a line only the stage changes. -/
theorem Brings.exists_stage (hbrings : c.Brings (.line text) c') :
    ∃ stage, c.director.stage.GoesOn stage ∧ c' = { c with director.stage := stage } := by
  cases hbrings with
  | line _ hstage => exact ⟨_, hstage, rfl⟩

/-- What may come after the stage has gone on may come at once. -/
theorem Brings.of_goesOn {message : Message} (hstage : c.director.stage.GoesOn stage)
    (hbrings : ({ c with director.stage := stage } : Console).Brings message c') :
    c.Brings message c' := by
  cases hbrings with
  | line text hlater => exact .line text (hstage.trans hlater)
  | ready anchors hlater => exact .ready anchors (hstage.trans hlater)
  | timer hlater htimers hdue => exact .timer (hstage.trans hlater) htimers hdue

/-- A course without rounds leads nowhere. -/
theorem Course.of_nil (hcourse : Course h store c w [] c' w') : c = c' ∧ w = w' := by
  generalize hnone : ([] : List Round) = none' at hcourse
  cases hcourse with
  | nil => exact ⟨rfl, rfl⟩
  | snoc => exact absurd hnone.symm (by simp)

/-- **The course of a console without one of its rounds**: every other round is the same, and so
are in the end the state of the store and the console, except that its stage may have gone on. -/
def Spares (h : Host Stage) (store : Store (StateM ω)) (c : Console) (w : ω)
    (past more : List Round) (c' : Console) (w' : ω) : Prop :=
  ∃ c'', Course h store c w (past ++ more) c'' w' ∧
    c''.director.stage.GoesOn c'.director.stage ∧
    c' = { c'' with director.stage := c'.director.stage }

/-- **A line that leaves everything as it is can be left out.** -/
theorem Course.spares {said : List Output}
    (hcourse : Course h store c w (past ++ round :: more) c' w')
    (hmessage : round.message = .line text)
    (hnothing : ∀ c₁ w₁, Course h store c w past c₁ w₁ → c₁.Brings round.message round.before →
      (round.before.handle h store round.message).run w₁ = ((said, round.before), w₁)) :
    told (past ++ round :: more) = told past ++ said ++ told more ∧
      Spares h store c w past more c' w' := by
  obtain ⟨c₁, w₁, w₂, hearlier, hbrings, hp, hlater⟩ := hcourse.round
  have hsame := hp.symm.trans (hnothing c₁ w₁ hearlier hbrings)
  obtain ⟨hdone, rfl⟩ := Prod.mk.inj hsame
  obtain ⟨hsaid, hafter⟩ := Prod.mk.inj hdone
  refine ⟨?_, ?_⟩
  · rw [told, List.flatMap_append, List.flatMap_cons, hsaid, ← List.append_assoc]
    rfl
  rw [hmessage] at hbrings
  obtain ⟨stage, hstage, hbefore⟩ := hbrings.exists_stage
  rw [hafter, hbefore] at hlater
  cases more with
  | nil =>
      obtain ⟨rfl, rfl⟩ := hlater.of_nil
      refine ⟨c₁, ?_, hstage, rfl⟩
      rw [List.append_nil]
      exact hearlier
  | cons next rest =>
      rw [← List.nil_append (next :: rest)] at hlater
      obtain ⟨c₂, w₂, w₃, hnone, hbrings', hp', hrest⟩ := hlater.round
      obtain ⟨rfl, rfl⟩ := hnone.of_nil
      have hnext : Course h store c₁ w₂ [next] next.after w₃ :=
        Course.nil.snoc (.of_goesOn hstage hbrings') hp'
      exact ⟨c', hearlier.trans (hnext.trans hrest), ⟨le_rfl, rfl⟩, rfl⟩

section Prepared

variable {ids : Identities} {w₀ : ω} {time : Instant} {settings : Settings}
  {report : CatalogReport}

/-- Between two messages nothing is left to be done. -/
theorem Course.ready (hcourse : Course h store c w past c' w') (hstore : store.TakesAll)
    (hc : c.Ready) : c'.Ready := by
  cases hcourse with
  | nil => exact hc
  | snoc _ _ hp => exact ready_handle hstore hp

/-- What is shown at a console can be relied on. -/
theorem Course.coherent
    (hprepare : (prepare (Stage.host ids) store time settings report).run w₀ = (c, w))
    (hcourse : Course (Stage.host ids) store c w past c' w') :
    ∀ run, c'.director.run = some run → run.Coherent := by
  obtain ⟨opening, e, hopening, he, hidle, -, -⟩ := exists_opening hprepare
  obtain ⟨played, e', hist, he', -, -⟩ := hcourse.exists_played hidle he
  intro run hrun
  rw [he'.run_eq] at hrun
  exact ((hopening.trans hist).reachable hrun).coherent

/-- A console that has been prepared has nothing left to do. -/
theorem ready_prepare
    (hprepare : (prepare (Stage.host ids) store time settings report).run w₀ = (c, w)) :
    c.Ready := by
  obtain ⟨opening, e, hopening, he, hidle, -, -⟩ := exists_opening hprepare
  rw [prepare_eq] at hprepare
  obtain ⟨rfl, -⟩ := Prod.mk.inj hprepare
  exact ⟨hidle, rfl, nofun⟩

/-- **A line that is refused might as well not have been there**, whatever has reached the console
before it and whatever comes after. The store takes every record. If the line is no request, or its
request cannot be met, it is answered with the reason and with nothing else; if it is blank, it is
not answered at all. Without it the course of the console is the same: in each other round the same
is said, with the same identifiers at the same times, and in the end there are the same director,
the same timers and the same records. And whatever a line is, the console takes it and is ready for
the next one. -/
theorem Course.without_line
    (hprepare : (prepare (Stage.host ids) store time settings report).run w₀ = (c, w))
    (hstore : store.TakesAll)
    (hcourse : Course (Stage.host ids) store c w (past ++ round :: more) c' w')
    (hmessage : round.message = .line text) :
    (∀ reason, round.before.director.objection? text = some reason →
      told (past ++ round :: more) = told past ++ [.error reason] ++ told more ∧
        Spares (Stage.host ids) store c w past more c' w') ∧
    (Blank.trim text = "" →
      told (past ++ round :: more) = told past ++ [] ++ told more ∧
        Spares (Stage.host ids) store c w past more c' w') ∧
    ∀ (later : String) {stage : Stage}, c'.director.stage.GoesOn stage →
      ∃ said c'' w'', c''.Ready ∧ Course (Stage.host ids) store c w (past ++ round :: more ++
        [⟨{ c' with director.stage := stage }, .line later, said, c''⟩]) c'' w'' := by
  have hready : ∀ {past : List Round} {c₁ : Console} {w₁ : ω},
      Course (Stage.host ids) store c w past c₁ w₁ → c₁.Ready := fun hearlier =>
    hearlier.ready hstore (ready_prepare hprepare)
  refine ⟨fun reason hreason => hcourse.spares hmessage fun c₁ w₁ hearlier hbrings => ?_,
    fun hblank => hcourse.spares hmessage fun c₁ w₁ hearlier hbrings => ?_,
    fun later stage hstage => ?_⟩
  · have hrun : ∀ run, round.before.director.run = some run → run.Coherent := by
      obtain ⟨stage, -, hdirector, -⟩ := hbrings.exists_director
      rw [hdirector]
      exact hearlier.coherent hprepare
    rw [hmessage]
    exact handle_of_objection ((hready hearlier).brings hbrings) hrun hreason
  · rw [hmessage]
    exact handle_of_blank ((hready hearlier).brings hbrings) hblank
  · have hnext := hcourse.snoc (.line later hstage) rfl
    exact ⟨_, _, _, hready hnext, hnext⟩

end Prepared

end Console

/-! ### A rehearsal

In the first hour of the watch somebody chooses although there is nothing to choose from.
-/

namespace Rehearsal

open Console

/-- The line that chooses. -/
def heckle : Message := .line "\x7b\"op\":\"choose\",\"index\":0\x7d"

/-- The console when the line is heard. -/
def interrupted : Console := { begun.1.2 with director.stage.watch.now := 300 }

/-- What is said of the line, and what there is then. -/
def answered : (List Output × Console) × Records :=
  (interrupted.handle (Stage.host stage.ids) Records.store heckle).run begun.2

/-- The console when the bell is heard after all. -/
def undisturbed : Console := { answered.1.2 with timers := [], director.stage.watch.now := 700 }

/-- What is said when the second hour begins, and what there is then. -/
def resumed : (List Output × Console) × Records :=
  (undisturbed.handle (Stage.host stage.ids) Records.store bell).run answered.2

/-- The line. -/
def heckling : Round := ⟨interrupted, heckle, answered.1.1, answered.1.2⟩

/-- What is before the line. -/
def quiet : List Round := [⟨gatehouse, call, begun.1.1, begun.1.2⟩]

/-- What is after it. -/
def resumption : List Round := [⟨undisturbed, bell, resumed.1.1, resumed.1.2⟩]

/-- There is nothing to choose from when the line is heard. -/
theorem objection_heckle : interrupted.director.objection? "\x7b\"op\":\"choose\",\"index\":0\x7d" =
    some "validation error: no choice is pending" := by
  have hline : Request.ofLine? (Blank.trim "\x7b\"op\":\"choose\",\"index\":0\x7d") =
      some (.choose 0) := by cbv
  have hrefusal : interrupted.director.refusal? 0 =
      some (.validation "no choice is pending") := by cbv
  rw [Director.objection?, if_neg (by decide), hline]
  dsimp only
  rw [Request.refusal?, hrefusal]
  rfl

/-- The first round is the call. -/
theorem course_quiet :
    Course (Stage.host stage.ids) Records.store gatehouse ∅ quiet begun.1.2 begun.2 := by
  have hcall : gatehouse.Brings call gatehouse := .line _ ⟨le_rfl, rfl⟩
  exact Course.nil.snoc hcall rfl

/-- The line is heard while the watch goes on. -/
theorem brings_heckle : begun.1.2.Brings heckle interrupted := by
  have hbegun : begun.1.2.director.stage.watch.now = 0 := by cbv
  exact .line _ ⟨by rw [hbegun]; exact Nat.zero_le _, rfl⟩

/-- The line leaves everything as it is. -/
theorem answered_eq :
    answered = (([.error "validation error: no choice is pending"], interrupted), begun.2) := by
  have hready : begun.1.2.Ready :=
    course_quiet.ready (fun _ _ _ => rfl) (ready_prepare prepare_gatehouse)
  have hrun : ∀ run, begun.1.2.director.run = some run → run.Coherent :=
    course_quiet.coherent prepare_gatehouse
  rw [answered, heckle]
  exact handle_of_objection (hready.brings brings_heckle) hrun objection_heckle

/-- The line is heard between two others. -/
theorem course_heckled : Course (Stage.host stage.ids) Records.store gatehouse ∅
    (quiet ++ heckling :: resumption) resumed.1.2 resumed.2 := by
  have hafter : answered.1.2 = interrupted := by rw [answered_eq]
  have htimers : answered.1.2.timers = [] ++ (500, ⟨stage.ids.run 0, 2, 2⟩) :: [] := by
    rw [hafter]
    cbv
  have hlater : answered.1.2.director.stage.GoesOn undisturbed.director.stage :=
    ⟨by rw [hafter]; decide, rfl⟩
  have hbell : answered.1.2.Brings bell undisturbed := .timer hlater htimers (by decide)
  exact (course_quiet.snoc brings_heckle rfl).snoc hbell rfl

/-- The line is answered, and the watch goes on as if there had been no line. -/
theorem without_line_heckled :
    told (quiet ++ heckling :: resumption) =
      told quiet ++ [.error "validation error: no choice is pending"] ++ told resumption ∧
    Spares (Stage.host stage.ids) Records.store gatehouse ∅ quiet resumption resumed.1.2
      resumed.2 :=
  (Course.without_line prepare_gatehouse (fun _ _ _ => rfl) course_heckled rfl).1 _
    objection_heckle

end Rehearsal

end Cutscene
