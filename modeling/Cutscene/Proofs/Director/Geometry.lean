import Cutscene.Proofs.Director.Minutes
import Cutscene.Proofs.Director.Tickets

/-!
# Where a Highlight Is

The place of a highlight is asked for when its step is executed, and found out later, when the
director is told to. By then the highlight may have been taken down, another one may have been put
up, the scene may have ended, or the same step may have been executed again. The requests that wait
to be met all belong to the active run (`Director.Awaits`), and what is found counts for the one
highlight whose ticket the request bears.

What is measured is taken from the minutes (`Host.minuted`). What a measurement finds is up to the
game, which may answer differently each time.

## Main results

* `Director.pending_follow`: which places are to be asked for after a turn.
* `Director.Outcome.awaits`: every cue keeps the requests in order.
* `Director.Outcome.sought`: how a cue bears on the place of the highlight.
* `Director.History.located`: the place of a highlight is neither lost nor out of date.
-/

namespace Cutscene

namespace Director

variable {σ : Type} {h : Host σ}

/-! ### What is to be asked for -/

/-- An effect that does not end the run makes the requests that it is. -/
theorem pending_carryOut (scene : String) (run : Uuid) (d : Director σ) {e : Effect}
    (he : ∀ ending, e ≠ .ended ending) :
    (carryOut h scene run d e).pending = d.pending ++ requests [e] := by
  cases e with
  | measure ticket anchor => rfl
  | ended ending => exact absurd rfl (he ending)
  | flagChanged | counterChanged | dispatch | present => exact (List.append_nil _).symm

/-- The end of a run withdraws its requests. -/
theorem pending_carryOut_ended (scene : String) (run : Uuid) (d : Director σ) (ending : Ending) :
    (carryOut h scene run d (.ended ending)).pending = d.pending.filter (·.1.run ≠ run) := by
  rw [carryOut, conclude]
  split <;> rfl

/-- So do several such effects, one after the other. -/
theorem pending_foldl_carryOut (scene : String) (run : Uuid) {es : List Effect}
    (hes : ∀ ending, .ended ending ∉ es) (d : Director σ) :
    (es.foldl (carryOut h scene run) d).pending = d.pending ++ requests es := by
  induction es generalizing d with
  | nil => exact (List.append_nil _).symm
  | cons e rest ih =>
      have he : ∀ ending, e ≠ .ended ending := by
        rintro ending rfl
        exact hes ending List.mem_cons_self
      rw [List.foldl_cons, ih fun ending hmem => hes ending (List.mem_cons_of_mem _ hmem),
        pending_carryOut scene run d he, List.append_assoc, ← requests_append]
      rfl

/-- Effects that show something, and do no more, ask for no place. -/
theorem requests_shown {es : List Effect} (hes : ∀ e ∈ es, ∃ s, e = .present s) :
    requests es = [] :=
  List.filterMap_eq_nil_iff.mpr fun e he => by
    obtain ⟨s, rfl⟩ := hes e he
    rfl

/-- **Which places are to be asked for after a turn**: as long as the run is active, those that it
asks for are added; when it has ended, all of its own are withdrawn. -/
theorem pending_follow (d : Director σ) (q : Progress) {run : Run} {es : List Effect}
    (hcloses : run.Closes es) :
    (run.state.isActive = true ∧ (d.follow h run q es).pending = d.pending ++ requests es) ∨
    (run.state.isActive = false ∧ ((∀ request ∈ d.pending, request.1.run = run.id) →
      (∀ request ∈ requests es, request.1.run = run.id) →
      (d.follow h run q es).pending = [])) := by
  cases hcloses with
  | active hstate hes => exact .inl ⟨hstate, pending_foldl_carryOut _ _ hes _⟩
  | @ended body shown ending hstate hbody hshown =>
      refine .inr ⟨by rw [hstate]; rfl, fun hown hasked => ?_⟩
      have hnot : ∀ ending', .ended ending' ∉ shown := fun ending' hmem => by
        obtain ⟨s, hs⟩ := hshown _ hmem
        cases hs
      rw [follow, List.foldl_append, List.foldl_cons, pending_foldl_carryOut _ _ hnot,
        pending_carryOut_ended, pending_foldl_carryOut _ _ hbody, requests_shown hshown,
        List.append_nil, List.filter_eq_nil_iff]
      intro request hmem
      rcases List.mem_append.mp hmem with hmem | hmem
      · simp [hown request hmem]
      · have hrun := hasked request (by
          rw [requests_append]
          exact List.mem_append_left _ hmem)
        simp [hrun]

/-! ### Requests in order -/

/-- **The requests that wait to be met** are those of the active run, no two under one ticket, and
the run keeps the ticket of the highlight that it shows. -/
structure Awaits (d : Director σ) : Prop where
  idle : d.activeRun? = none → d.pending = []
  own : ∀ run, d.activeRun? = some run → ∀ request ∈ d.pending,
    request.1.run = run.id ∧ request.1.number ≤ run.tickets
  nodup : (d.pending.map Prod.fst).Nodup
  points : ∀ run, d.run = some run → run.Points

/-- A run that has not ended is the active one. -/
theorem activeRun?_eq_some {d : Director σ} {run : Run} (hrun : d.run = some run)
    (hactive : run.state.isActive = true) : d.activeRun? = some run := by
  rw [activeRun?, hrun, Option.filter_some, if_pos hactive]

namespace Awaits

variable {d e : Director σ}

/-- A director who has done nothing has nothing to ask for. -/
theorem nil (stage : σ) : Awaits { stage } where
  idle _ := rfl
  own _ _ _ hmem := by cases hmem
  nodup := .nil
  points _ hrun := by cases hrun

/-- The requests depend on the run only. -/
theorem congr (hd : d.Awaits) (hrun : e.run = d.run) (hpending : e.pending = d.pending) :
    e.Awaits where
  idle hidle := by
    rw [activeRun?, hrun] at hidle
    rw [hpending]
    exact hd.idle hidle
  own := by
    rw [activeRun?, hrun, hpending]
    exact hd.own
  nodup := by rw [hpending]; exact hd.nodup
  points := by rw [hrun]; exact hd.points

/-- A director without requests. -/
theorem of_nil (hpending : e.pending = []) (hpoints : ∀ run, e.run = some run → run.Points) :
    e.Awaits where
  idle _ := hpending
  own _ _ _ hmem := by
    rw [hpending] at hmem
    cases hmem
  nodup := by rw [hpending]; exact .nil
  points := hpoints

/-- A turn of a run adds requests behind those that the run has made, or withdraws all. -/
theorem follow {run : Run} {q : Progress} {es : List Effect} {id : Uuid} {n : Nat}
    (hown : ∀ request ∈ d.pending, request.1.run = id ∧ request.1.number ≤ n)
    (hnodup : (d.pending.map Prod.fst).Nodup) (hcloses : run.Closes es)
    (hnumbers : Run.Numbers id n run es) (hpoints : run.Points) :
    (d.follow h run q es).Awaits := by
  obtain rfl := hnumbers.id_eq
  have hrun := run_follow (h := h) d run q es
  have hpoints' : ∀ run', (d.follow h run q es).run = some run' → run'.Points := by
    intro run' hrun'
    rw [hrun, Option.some.injEq] at hrun'
    exact hrun' ▸ hpoints
  have hasked : ∀ request ∈ requests es,
      request.1.run = run.id ∧ n < request.1.number ∧ request.1.number ≤ run.tickets := by
    intro request hmem
    have hmem' : request.1 ∈ asked es ++ run.ticket?.toList := by
      rw [← map_fst_requests]
      exact List.mem_append_left _ (List.mem_map_of_mem hmem)
    exact ⟨hnumbers.consecutive.run_eq _ hmem', hnumbers.consecutive.mem_bounds hmem'⟩
  rcases pending_follow (h := h) d q hcloses with ⟨hactive, hpending⟩ | ⟨hended, hpending⟩
  · refine ⟨fun hidle => ?_, fun run' hrun' request hmem => ?_, ?_, hpoints'⟩
    · rw [activeRun?_eq_some hrun hactive] at hidle
      cases hidle
    · rw [activeRun?_eq_some hrun hactive, Option.some.injEq] at hrun'
      subst hrun'
      rw [hpending] at hmem
      rcases List.mem_append.mp hmem with hmem | hmem
      · exact ⟨(hown request hmem).1,
          Nat.le_trans (hown request hmem).2 hnumbers.consecutive.le_count⟩
      · exact ⟨(hasked request hmem).1, (hasked request hmem).2.2⟩
    · rw [hpending, List.map_append, map_fst_requests]
      refine hnodup.append (List.nodup_append.mp hnumbers.consecutive.nodup).1 fun t ht ht' => ?_
      -- What was asked for before bears a smaller number.
      obtain ⟨request, hmem, rfl⟩ := List.mem_map.mp ht
      rw [← map_fst_requests] at ht'
      obtain ⟨request', hmem', heq⟩ := List.mem_map.mp ht'
      have hold := (hown request hmem).2
      have hnew := (hasked request' hmem').2.1
      rw [heq] at hnew
      omega
  · exact .of_nil (hpending (fun request hmem => (hown request hmem).1)
      fun request hmem => (hasked request hmem).1) hpoints'

/-- Breaking off the scene that is played withdraws all requests. -/
theorem stop (hd : d.Awaits) :
    (d.stop h).2.pending = [] ∧ ∀ run, (d.stop h).2.run = some run → run.Points := by
  have hidle : (d.stop h).2.activeRun? = none := activeRun?_stop d
  rw [Director.stop] at hidle ⊢
  cases hactive : d.activeRun? with
  | none => exact ⟨hd.idle hactive, hd.points⟩
  | some run =>
      rw [hactive] at hidle
      obtain ⟨hrun, hstate⟩ := Option.filter_eq_some_iff.mp hactive
      have hdone : (d.follow h (run.interrupt d.progress).1 d.progress
          (run.interrupt d.progress).2).Awaits :=
        .follow (hd.own run hactive) hd.nodup (Run.closes_interrupt hstate _)
          (Run.numbers_interrupt hstate _) ((hd.points run hrun).interrupt _)
      exact ⟨hdone.idle hidle, hdone.points⟩

/-- Asking for places leaves none to be asked for. -/
theorem resolve (hd : d.Awaits) : (d.resolve h).Awaits := by
  refine .of_nil (pending_resolve h d) ?_
  refine resolve_induction (P := fun e => ∀ run, e.run = some run → run.Points)
    (fun {e} ticket anchor he run hrun => ?_) hd.points
  obtain ⟨stage, located, heq, rfl | ⟨run', rect, hrun', rfl⟩⟩ := exists_locate h e ticket anchor
  · rw [heq] at hrun
    exact he run hrun
  · rw [heq, Option.some.injEq] at hrun
    exact hrun ▸ (he run' hrun').applyGeometry ticket rect

end Awaits

/-- **Every cue keeps the requests in order.** -/
theorem Outcome.awaits {d e : Director σ} {cue : Cue} (hd : Outcome h d cue e) (h₀ : d.Awaits) :
    e.Awaits := by
  cases hd with
  | @answer run turn hrun hturn hanswers =>
      have hactive := activeRun?_eq_some hrun hanswers.isActive
      refine .follow ?_ ?_ hanswers.closes hanswers.numbers ((h₀.points run hrun).answers hanswers)
      · rw [pending_answering]
        exact h₀.own run hactive
      · rw [pending_answering]
        exact h₀.nodup
  | debut scene hturn =>
      have hpending : ((d.stop h).2.announce h scene).pending = [] := (h₀.stop (h := h)).1
      refine .follow (fun request hmem => ?_) ?_ (Run.closes_advance rfl _)
        (Run.numbers_advance_start _ scene _ _)
        (Run.Lasting.points.advance [] (.of_none rfl rfl))
      · rw [hpending] at hmem
        cases hmem
      · rw [hpending]
        exact .nil
  | stop hturn hcue progress ns dirty =>
      obtain ⟨hpending, hpoints⟩ := h₀.stop (h := h)
      exact .of_nil hpending hpoints
  | resolve hturn hcue dirty => exact h₀.resolve.congr rfl rfl
  | manage | writeFlag | setCounter => exact h₀.congr rfl rfl

/-- **Requests are in order in the course of every history.** Induction on the history. -/
theorem History.awaits {ω : Type} {store : Store (StateM ω)} {s : σ} {e : Director σ} {w w' : ω}
    {past : List (Episode σ)} (hist : History h store { stage := s } w past e w') : e.Awaits := by
  induction hist with
  | nil => exact .nil s
  | @snoc past e f w' w'' reply _ stage cue hp ih =>
      have hout := outcome_of_perform h store w' { e with stage } cue
      rw [hp] at hout
      exact hout.awaits (ih.congr rfl rfl)

/-! ### Requests that are met -/

variable {d e : Director (σ × List Exchange)} {ticket : Ticket} {highlight : Highlight}

/-- **The request for the place of the highlight is met by its own measurement**, whatever else is
measured before and after. -/
theorem exists_resolve_wanted (h₀ : d.Awaits) {run : Run} (hrun : d.run = some run)
    (hticket : run.highlightTicket = some ticket) (hshown : run.snapshot.highlight = some highlight)
    {i : Nat} {anchor : String} (hrequest : d.pending[i]? = some (ticket, anchor)) :
    ∃ found more run', (d.resolve h.minuted).minutes = d.minutes ++ more ∧
      (measurementsOf more)[i]? = some (anchor, found) ∧
      (d.resolve h.minuted).run = some run' ∧ run'.highlightTicket = some ticket ∧
      run'.snapshot.highlight = some { highlight with rect := found.usable? } := by
  obtain ⟨founds, more, hlength, hminutes, -, hmeasured, -, hplaced⟩ :=
    exists_minutes_resolve (h := h) d
  have hi : i < founds.length := hlength ▸ (List.getElem?_eq_some_iff.mp hrequest).1
  have hplace : (ticket, founds[i].usable?) ∈
      (d.pending.map Prod.fst).zip (founds.map Measurement.usable?) := by
    refine List.mem_of_getElem? (i := i) (List.getElem?_zip_eq_some.mpr ⟨?_, ?_⟩)
    · rw [List.getElem?_map, hrequest]
      rfl
    · rw [List.getElem?_map, List.getElem?_eq_getElem hi]
      rfl
  obtain ⟨front, back, hsplit⟩ := List.append_of_mem hplace
  have hother : ∀ other ∈ front ++ back, other.1 ≠ ticket := by
    have hnodup : (((d.pending.map Prod.fst).zip (founds.map Measurement.usable?)).map
        Prod.fst).Nodup := by
      rw [List.map_fst_zip (by rw [List.length_map, List.length_map, hlength])]
      exact h₀.nodup
    rw [hsplit, List.map_append, List.map_cons, List.nodup_middle, List.nodup_cons,
      ← List.map_append] at hnodup
    exact fun other hmem hsame => hnodup.1 (List.mem_map.mpr ⟨other, hmem, hsame⟩)
  obtain ⟨hhighlight, hticket'⟩ := Run.placeAll_wanted hticket
    ((h₀.points run hrun).counted ticket hticket).1 hshown founds[i].usable? hother
  refine ⟨founds[i], more, _, hminutes, ?_, by rw [hplaced, hrun, hsplit]; rfl, hticket',
    hhighlight⟩
  rw [hmeasured]
  refine List.getElem?_zip_eq_some.mpr ⟨?_, List.getElem?_eq_getElem hi⟩
  rw [List.getElem?_map, hrequest]
  rfl

/-- Where the place of the highlight is not to be asked for, asking for places leaves the run as it
is. -/
theorem run_resolve_unwanted
    (hunwanted : ∀ run, d.run = some run → ∀ request ∈ d.pending,
      run.highlightTicket ≠ some request.1) : (d.resolve h.minuted).run = d.run := by
  obtain ⟨founds, more, hlength, -, -, -, -, hplaced⟩ := exists_minutes_resolve (h := h) d
  rw [hplaced]
  cases hrun : d.run with
  | none => rfl
  | some run =>
      rw [Option.map_some, Run.placeAll_unwanted fun place hmem => ?_]
      obtain ⟨request, hrequest, heq⟩ := List.mem_map.mp (List.of_mem_zip hmem).1
      rw [← heq]
      exact hunwanted run hrun request hrequest

/-! ### How it has come to a highlight -/

/-- What has become of the request for a place in the course of some episodes, up to a director, and
the place that is known of it. -/
inductive Fate (ticket : Ticket) (anchor : String) (later : List (Episode (σ × List Exchange)))
    (e : Director (σ × List Exchange)) : Option Rect → Prop
  /-- No places have been asked for, and the request waits to be met. -/
  | waits (hlater : ∀ ep ∈ later, ep.cue.resolves = false)
      (hpending : (ticket, anchor) ∈ e.pending) : Fate ticket anchor later e none
  /-- The request was met when places were first asked for, and it is not made again. -/
  | met {between after : List (Episode (σ × List Exchange))} {ep : Episode (σ × List Exchange)}
      {i : Nat} {found : Measurement} (hlater : later = between ++ ep :: after)
      (hbetween : ∀ ep' ∈ between, ep'.cue.resolves = false) (hcue : ep.cue.resolves = true)
      (hrequest : ep.before.pending[i]? = some (ticket, anchor))
      (hfound : (measurementsOf (newMinutes ep))[i]? = some (anchor, found))
      (hpending : ∀ request ∈ e.pending, request.1 ≠ ticket) :
      Fate ticket anchor later e found.usable?

/-- How it has come to a highlight. In the turn of some episode its step was executed, under the
ticket that it bears. Since then it has been the same run, with the same highlight. What is known of
its place is what has become of the request that was made in that turn. -/
inductive Sought (h : Host σ) (past : List (Episode (σ × List Exchange)))
    (e : Director (σ × List Exchange)) (ticket : Ticket) (highlight : Highlight) : Prop
  | since {earlier later : List (Episode (σ × List Exchange))} {ep : Episode (σ × List Exchange)}
      {turn : Turn} (hpast : past = earlier ++ ep :: later)
      (hturn : ep.before.turn? h.minuted ep.cue = some turn)
      (hasked : (ticket, highlight.anchor) ∈ requests turn.effects)
      (hsame : ∀ ep' ∈ ep :: later, ep'.after.started = e.started ∧
        ∃ run, ep'.after.run = some run ∧ run.highlightTicket = some ticket)
      (hfate : Fate ticket highlight.anchor later e highlight.rect)

section Episodes

variable {past later : List (Episode (σ × List Exchange))} {ep : Episode (σ × List Exchange)}
  {anchor : String} {rect : Option Rect}

namespace Fate

/-- The fate of a request depends only on what is pending. -/
theorem congr (hf : Fate ticket anchor later d rect) (hpending : e.pending = d.pending) :
    Fate ticket anchor later e rect := by
  cases hf with
  | waits hlater hrequest => exact .waits hlater (by rw [hpending]; exact hrequest)
  | met hlater hbetween hcue hrequest hfound hothers =>
      exact .met hlater hbetween hcue hrequest hfound (by rw [hpending]; exact hothers)

/-- No places are asked for. -/
theorem keep (hf : Fate ticket anchor later ep.before rect) (hcue : ep.cue.resolves = false)
    (hold : ∀ request ∈ ep.before.pending, request ∈ ep.after.pending)
    (hnew : ∀ request ∈ ep.after.pending, request.1 = ticket → request ∈ ep.before.pending) :
    Fate ticket anchor (later ++ [ep]) ep.after rect := by
  cases hf with
  | waits hlater hrequest =>
      refine .waits (fun ep' hmem => ?_) (hold _ hrequest)
      rcases List.mem_append.mp hmem with hmem | hmem
      · exact hlater ep' hmem
      · rw [List.mem_singleton.mp hmem]
        exact hcue
  | met hlater hbetween hcue' hrequest hfound hothers =>
      rw [hlater, List.append_assoc]
      exact .met rfl hbetween hcue' hrequest hfound
        fun request hmem hsame => hothers request (hnew request hmem hsame) hsame

/-- Places are asked for, but not this one: it has been met before. -/
theorem keep_met (hf : Fate ticket anchor later ep.before rect)
    (hmet : (ticket, anchor) ∉ ep.before.pending) (hpending : ep.after.pending = []) :
    Fate ticket anchor (later ++ [ep]) ep.after rect := by
  cases hf with
  | waits _ hrequest => exact absurd hrequest hmet
  | met hlater hbetween hcue hrequest hfound _ =>
      rw [hlater, List.append_assoc]
      refine .met rfl hbetween hcue hrequest hfound fun request hmem => ?_
      rw [hpending] at hmem
      cases hmem

/-- The request is met. -/
theorem meet (hf : Fate ticket anchor later ep.before rect) (hcue : ep.cue.resolves = true)
    {i : Nat} {found : Measurement} (hrequest : ep.before.pending[i]? = some (ticket, anchor))
    (hfound : (measurementsOf (newMinutes ep))[i]? = some (anchor, found))
    (hpending : ep.after.pending = []) :
    Fate ticket anchor (later ++ [ep]) ep.after found.usable? := by
  cases hf with
  | waits hlater _ =>
      refine .met rfl hlater hcue hrequest hfound fun request hmem => ?_
      rw [hpending] at hmem
      cases hmem
  | met _ _ _ _ _ hothers => exact absurd rfl (hothers _ (List.mem_of_getElem? hrequest))

/-- The request waits to be met, unless it has been met. -/
theorem waits_or_met (hf : Fate ticket anchor later e rect) :
    (ticket, anchor) ∈ e.pending ∨ ∀ request ∈ e.pending, request.1 ≠ ticket := by
  cases hf with
  | waits _ hrequest => exact .inl hrequest
  | met _ _ _ _ _ hothers => exact .inr hothers

/-- A place that is known is measurable. -/
theorem measurable (hf : Fate ticket anchor later e rect) {place : Rect}
    (hplace : rect = some place) : place.Measurable := by
  cases hf with
  | waits => cases hplace
  | met => exact Measurement.measurable_of_usable? hplace

end Fate

namespace Sought

/-- So does how it has come to a highlight, as long as no other run has been started. -/
theorem congr (hs : Sought h past d ticket highlight) (hstarted : e.started = d.started)
    (hpending : e.pending = d.pending) : Sought h past e ticket highlight := by
  obtain ⟨hpast, hturn, hasked, hsame, hfate⟩ := hs
  exact ⟨hpast, hturn, hasked, by rw [hstarted]; exact hsame, hfate.congr hpending⟩

/-- The highlight remains in the course of an episode, and its place may become known. -/
theorem extend (ep : Episode (σ × List Exchange))
    (hs : Sought h past ep.before ticket highlight) {highlight' : Highlight}
    (hanchor : highlight'.anchor = highlight.anchor)
    (hstarted : ep.after.started = ep.before.started)
    (hrun : ∃ run, ep.after.run = some run ∧ run.highlightTicket = some ticket)
    (hfate : ∀ later, Fate ticket highlight.anchor later ep.before highlight.rect →
      Fate ticket highlight.anchor (later ++ [ep]) ep.after highlight'.rect) :
    Sought h (past ++ [ep]) ep.after ticket highlight' := by
  obtain ⟨hpast, hturn, hasked, hsame, hfate₀⟩ := hs
  rw [hpast, List.append_assoc]
  refine ⟨rfl, hturn, by rw [hanchor]; exact hasked, fun ep' hmem => ?_, ?_⟩
  · rcases List.mem_append.mp (List.cons_append ▸ hmem) with hmem | hmem
    · rw [hstarted]
      exact hsame ep' hmem
    · rw [List.mem_singleton.mp hmem]
      exact ⟨rfl, hrun⟩
  · rw [hanchor]
    exact hfate _ hfate₀

/-- The request of a highlight waits to be met, or it is not made again. -/
theorem waits_or_met (hs : Sought h past e ticket highlight) :
    (ticket, highlight.anchor) ∈ e.pending ∨ ∀ request ∈ e.pending, request.1 ≠ ticket := by
  obtain ⟨-, -, -, -, hfate⟩ := hs
  exact hfate.waits_or_met

/-- A place that a highlight has is measurable. -/
theorem measurable (hs : Sought h past e ticket highlight) {place : Rect}
    (hplace : highlight.rect = some place) : place.Measurable := by
  obtain ⟨-, -, -, -, hfate⟩ := hs
  exact hfate.measurable hplace

end Sought

end Episodes

/-- It is known of every highlight that a director shows how it has come to it. -/
def Traces (h : Host σ) (past : List (Episode (σ × List Exchange)))
    (e : Director (σ × List Exchange)) : Prop :=
  ∀ run, e.run = some run → ∀ ticket, run.highlightTicket = some ticket →
    ∀ highlight, run.snapshot.highlight = some highlight → Sought h past e ticket highlight

section Traces

variable {past : List (Episode (σ × List Exchange))} {cue : Cue} {reply : Reply}

/-- A cue on which the run is left alone, and the requests remain. -/
theorem Traces.same (ht : Traces h past d) (hcue : cue.resolves = false) (hrun : e.run = d.run)
    (hstarted : e.started = d.started) (hpending : e.pending = d.pending) :
    Traces h (past ++ [⟨d, cue, reply, e⟩]) e := by
  intro run hrun' ticket hticket highlight hshown
  have hs := ht run (hrun ▸ hrun') ticket hticket highlight hshown
  refine hs.extend ⟨d, cue, reply, e⟩ rfl hstarted ⟨run, hrun', hticket⟩
    fun later hf => hf.keep hcue ?_ ?_
  · dsimp only
    rw [hpending]
    exact fun _ hmem => hmem
  · dsimp only
    rw [hpending]
    exact fun _ hmem _ => hmem

/-- A turn of the run makes a request for the place of a new highlight, or leaves the one alone
that there is. -/
theorem Traces.answer (ht : Traces h past d) (h₀ : d.Awaits) {run : Run} {turn : Turn}
    (hrun : d.run = some run) (hturn : d.turn? h.minuted cue = some turn)
    (hanswers : run.Answers (d.answering h.minuted cue).progress turn)
    (hcue : cue.resolves = false) :
    Traces h (past ++ [⟨d, cue, reply, (d.answering h.minuted cue).follow h.minuted turn.run
        turn.progress turn.effects⟩])
      ((d.answering h.minuted cue).follow h.minuted turn.run turn.progress turn.effects) := by
  intro run' hrun' ticket hticket highlight hshown
  have hrun'' := hrun'
  rw [run_follow, Option.some.injEq] at hrun''
  subst hrun''
  have hpoints := (h₀.points run hrun).answers hanswers
  have hactive := hpoints.isActive (Option.isSome_of_eq_some hshown)
  have hpending : ((d.answering h.minuted cue).follow h.minuted turn.run turn.progress
      turn.effects).pending = d.pending ++ requests turn.effects := by
    rcases pending_follow (h := h.minuted) (d.answering h.minuted cue) turn.progress
      hanswers.closes with ⟨-, hpending⟩ | ⟨hended, -⟩
    · rw [hpending, pending_answering]
    · rw [hactive] at hended
      cases hended
  have hstarted : ((d.answering h.minuted cue).follow h.minuted turn.run turn.progress
      turn.effects).started = d.started := by
    rw [started_follow, started_answering]
  generalize (d.answering h.minuted cue).follow h.minuted turn.run turn.progress turn.effects = e
    at *
  cases hanswers.aims with
  | kept hticket₀ hshown₀ =>
      have hs := ht run hrun ticket (hticket₀ ▸ hticket) highlight (hshown₀ ▸ hshown)
      refine hs.extend ⟨d, cue, reply, e⟩ rfl hstarted ⟨_, hrun', hticket⟩
        fun later hf => hf.keep hcue ?_ ?_
      · dsimp only
        rw [hpending]
        exact fun _ hmem => List.mem_append_left _ hmem
      · dsimp only
        rw [hpending]
        intro request hmem hsame
        refine (List.mem_append.mp hmem).resolve_right fun hmem => ?_
        -- The new requests bear greater numbers.
        have hasked : request.1 ∈ asked turn.effects ++ turn.run.ticket?.toList := by
          rw [← map_fst_requests]
          exact List.mem_append_left _ (List.mem_map_of_mem hmem)
        have hnew := (hanswers.numbers.consecutive.mem_bounds hasked).1
        have hold := ((h₀.points run hrun).counted ticket (hticket₀ ▸ hticket)).2
        rw [hsame] at hnew
        omega
  | @fresh ticket' highlight' hrequest hticket' hshown' hrect =>
      rw [hticket, Option.some.injEq] at hticket'
      rw [hshown, Option.some.injEq] at hshown'
      subst hticket' hshown'
      refine ⟨rfl, hturn, hrequest, fun ep hmem => ?_, ?_⟩
      · rw [List.mem_singleton.mp hmem]
        exact ⟨rfl, _, hrun', hticket⟩
      · rw [hrect]
        refine .waits (fun ep hmem => by cases hmem) ?_
        rw [hpending]
        exact List.mem_append_right _ hrequest
  | gone hticket' =>
      rw [hticket] at hticket'
      cases hticket'

/-- The first turn of a run makes a request for the place of its highlight. -/
theorem Traces.debut (scene : Scene)
    (hturn : d.turn? h.minuted cue = some ((d.stop h.minuted).2.opening h.minuted scene)) :
    Traces h (past ++ [⟨d, cue, reply, (d.stop h.minuted).2.debut h.minuted scene⟩])
      ((d.stop h.minuted).2.debut h.minuted scene) := by
  intro run hrun ticket hticket highlight hshown
  have hrun' := hrun
  rw [Director.debut, run_follow, Option.some.injEq] at hrun'
  subst hrun'
  have hpoints : ((d.stop h.minuted).2.opening h.minuted scene).run.Points :=
    Run.Lasting.points.advance [] (.of_none rfl rfl)
  have hactive := hpoints.isActive (Option.isSome_of_eq_some hshown)
  have haims := Run.aims_advance_start (h.ids.run (d.stop h.minuted).2.started) scene
    (d.stop h.minuted).2.progress ((d.stop h.minuted).2.progress.touch scene.id
      (h.minuted.now (d.stop h.minuted).2.stage).1.stamp)
  cases haims with
  | kept hticket' | gone hticket' => rw [opening] at hticket; cases hticket.symm.trans hticket'
  | @fresh ticket' highlight' hrequest hticket' hshown' hrect =>
      obtain rfl : ticket = ticket' := Option.some.inj (hticket.symm.trans hticket')
      obtain rfl : highlight = highlight' := Option.some.inj (hshown.symm.trans hshown')
      refine ⟨rfl, hturn, hrequest, fun ep hmem => ?_, ?_⟩
      · rw [List.mem_singleton.mp hmem]
        exact ⟨rfl, _, hrun, hticket⟩
      · rw [hrect]
        refine .waits (fun ep hmem => by cases hmem) ?_
        rcases pending_follow (h := h.minuted) ((d.stop h.minuted).2.announce h.minuted scene)
          ((d.stop h.minuted).2.opening h.minuted scene).progress
          (Run.closes_advance (r := Run.start _ scene _) rfl _) with
          ⟨-, hpending⟩ | ⟨hended, -⟩
        · exact hpending ▸ List.mem_append_right _ hrequest
        · cases hactive.symm.trans hended

/-- Where the scene that is played is broken off, no highlight remains. -/
theorem Traces.stop (ht : Traces h past d) (hcue : cue.resolves = false)
    (progress : Progress) (ns : Namespace) (dirty : Bool) :
    Traces h
      (past ++ [⟨d, cue, reply, { (d.stop h.minuted).2 with progress, ns, dirty }⟩])
      { (d.stop h.minuted).2 with progress, ns, dirty } := by
  cases hactive : d.activeRun? with
  | none =>
      have hsame : (d.stop h.minuted).2 = d := by rw [Director.stop, hactive]
      rw [hsame]
      exact ht.same hcue rfl rfl rfl
  | some run =>
      obtain ⟨hrun, hstate⟩ := Option.filter_eq_some_iff.mp hactive
      intro run' hrun' ticket hticket
      have hstopped : (d.stop h.minuted).2.run = some (run.interrupt d.progress).1 := by
        rw [Director.stop, hactive]
        exact run_follow _ _ _ _
      obtain rfl : (run.interrupt d.progress).1 = run' :=
        Option.some.inj (hstopped.symm.trans hrun')
      rw [(Run.highlight_interrupt hstate d.progress).1] at hticket
      cases hticket

/-- **Where places are asked for, the place of the highlight becomes known**, unless it is known
already. -/
theorem Traces.resolve (ht : Traces h past d) (h₀ : d.Awaits) (hcue : cue.resolves = true)
    (dirty : Bool) :
    Traces h (past ++ [⟨d, cue, reply, { d.resolve h.minuted with dirty }⟩])
      { d.resolve h.minuted with dirty } := by
  intro run' hrun' ticket hticket highlight hshown
  have hstarted : (d.resolve h.minuted).started = d.started := by
    obtain ⟨stage, run, heq⟩ := exists_resolve h.minuted d
    rw [heq]
  have hpending := pending_resolve h.minuted d
  by_cases hwanted : ∃ request ∈ d.pending, ∃ run, d.run = some run ∧
      run.highlightTicket = some request.1
  · obtain ⟨⟨wanted, anchor⟩, hmem, run, hrun, hticket₀⟩ := hwanted
    obtain ⟨highlight₀, hshown₀⟩ := (h₀.points run hrun).exists_highlight hticket₀
    obtain ⟨i, hrequest⟩ := List.mem_iff_getElem?.mp hmem
    obtain ⟨found, more, run'', hminutes, hfound, hrun'', hticket'', hshown''⟩ :=
      exists_resolve_wanted (h := h) h₀ hrun hticket₀ hshown₀ hrequest
    obtain rfl : run'' = run' := Option.some.inj (hrun''.symm.trans hrun')
    obtain rfl : wanted = ticket := Option.some.inj (hticket''.symm.trans hticket)
    obtain rfl : { highlight₀ with rect := found.usable? } = highlight :=
      Option.some.inj (hshown''.symm.trans hshown)
    have hs := ht run hrun wanted hticket₀ highlight₀ hshown₀
    -- What is asked for under the ticket is what is highlighted.
    have hanchor : anchor = highlight₀.anchor := by
      rcases hs.waits_or_met with hwaits | hmet
      · exact congrArg Prod.snd (List.inj_on_of_nodup_map h₀.nodup hmem hwaits rfl)
      · exact absurd rfl (hmet _ hmem)
    subst hanchor
    refine hs.extend ⟨d, cue, reply, _⟩ rfl hstarted ⟨_, hrun', hticket⟩
      fun later hf => hf.meet hcue hrequest ?_ hpending
    have hnew : newMinutes ⟨d, cue, reply, { d.resolve h.minuted with dirty }⟩ = more :=
      newMinutes_eq hminutes
    rw [hnew]
    exact hfound
  · have hsame : (d.resolve h.minuted).run = d.run :=
      run_resolve_unwanted fun run hrun request hmem hticket' =>
        hwanted ⟨request, hmem, run, hrun, hticket'⟩
    have hrun : d.run = some run' := hsame.symm.trans hrun'
    refine (ht run' hrun ticket hticket highlight hshown).extend ⟨d, cue, reply, _⟩ rfl
      hstarted ⟨_, hrun', hticket⟩ fun later hf => hf.keep_met (fun hmem => ?_) hpending
    exact hwanted ⟨_, hmem, run', hrun, hticket⟩

/-- **On every cue it is known how it has come to the highlight.** -/
theorem Outcome.traces (hd : Outcome h.minuted d cue e) (h₀ : d.Awaits) (ht : Traces h past d) :
    Traces h (past ++ [⟨d, cue, reply, e⟩]) e := by
  cases hd with
  | answer hrun hturn hanswers => exact ht.answer h₀ hrun hturn hanswers (resolves_of_turn hturn)
  | debut scene hturn => exact .debut scene hturn
  | stop _ hcue progress ns dirty => exact ht.stop hcue progress ns dirty
  | resolve _ hcue dirty => exact ht.resolve h₀ hcue dirty
  | manage _ hcue | writeFlag _ hcue | setCounter _ hcue => exact ht.same hcue rfl rfl rfl

end Traces

/-! ### Histories -/

section History

variable {ω : Type} {store : Store (StateM ω)} {w w' : ω} {s : σ × List Exchange}
  {past : List (Episode (σ × List Exchange))}

/-- It is known of every highlight how it has come to it. Induction on the history. -/
theorem History.traces (hist : History h.minuted store { stage := s } w past e w') :
    Traces h past e := by
  induction hist with
  | nil => exact fun _ hrun => by cases hrun
  | @snoc past e f w' w'' reply hist stage cue hp ih =>
      have hout := outcome_of_perform h.minuted store w' { e with stage } cue
      rw [hp] at hout
      exact hout.traces (hist.awaits.congr rfl rfl)
        fun run hrun ticket hticket highlight hshown =>
          (ih run hrun ticket hticket highlight hshown).congr rfl rfl

/-- **The place of a highlight is neither lost nor out of date.** -/
structure Located (h : Host σ) (past : List (Episode (σ × List Exchange)))
    (e : Director (σ × List Exchange)) : Prop where
  /-- All places that are to be asked for are wanted by the active run. -/
  pending : ∀ request ∈ e.pending, ∃ run, e.activeRun? = some run ∧ request.1.run = run.id
  /-- The highlight that is shown has been put up by the step of the active run that its ticket
  names, and its place is what has become of the request that was made then. -/
  sought : ∀ highlight, e.snapshot.highlight = some highlight →
    ∃ run ticket, e.activeRun? = some run ∧ run.highlightTicket = some ticket ∧
      ticket.run = run.id ∧ run.scene.steps[ticket.step]? = some highlight.step ∧
      Sought h past e ticket highlight
  /-- A place that is shown is finite and has an extent. -/
  measurable : ∀ highlight, e.snapshot.highlight = some highlight →
    ∀ rect, highlight.rect = some rect → rect.Measurable
  /-- When places are asked for, each of them is measured once, and none is left to be. -/
  resolved : ∀ ep ∈ past, ep.cue.resolves = true → ep.after.pending = [] ∧
    (measurementsOf (newMinutes ep)).map Prod.fst = ep.before.pending.map Prod.snd
  /-- If the place of the highlight is among them, the highlight then has the place that its own
  measurement has found, if any. -/
  own : ∀ ep ∈ past, ep.cue.resolves = true →
    ∀ (run : Run) (i : Nat) (ticket : Ticket) (anchor : String),
    ep.before.run = some run → run.highlightTicket = some ticket →
    ep.before.pending[i]? = some (ticket, anchor) →
    ∃ (highlight : Highlight) (found : Measurement),
      ep.before.snapshot.highlight = some highlight ∧ highlight.anchor = anchor ∧
      (measurementsOf (newMinutes ep))[i]? = some (anchor, found) ∧
      ep.after.snapshot.highlight = some { highlight with rect := found.usable? }
  /-- Nothing is measured at any other time. -/
  unmeasured : ∀ ep ∈ past, ep.cue.resolves = false → measurementsOf (newMinutes ep) = []

/-- What there is to see is what the run shows. -/
theorem snapshot_of_run {d : Director σ} {run : Run} (hrun : d.run = some run) :
    d.snapshot = run.snapshot := by
  rw [snapshot, hrun, Option.elim_some]

/-- What a run shows it shows as the active one. -/
theorem Awaits.exists_ticket {d : Director σ} (h₀ : d.Awaits) {highlight : Highlight}
    (hshown : d.snapshot.highlight = some highlight) :
    ∃ run ticket, d.run = some run ∧ d.activeRun? = some run ∧
      run.snapshot.highlight = some highlight ∧ run.highlightTicket = some ticket := by
  cases hrun : d.run with
  | none =>
      rw [snapshot, hrun] at hshown
      cases hshown
  | some run =>
      rw [snapshot_of_run hrun] at hshown
      obtain ⟨ticket, hticket⟩ := (h₀.points run hrun).exists_ticket hshown
      exact ⟨run, ticket, rfl, activeRun?_eq_some hrun ((h₀.points run hrun).isActive
        (Option.isSome_of_eq_some hshown)), hshown, hticket⟩

/-- What asking for places leads to at an episode of a history. -/
theorem History.resolve_episode (hist : History h.minuted store { stage := s } w past e w')
    {ep : Episode (σ × List Exchange)} (hmem : ep ∈ past) (hcue : ep.cue.resolves = true) :
    ep.before.Awaits ∧ (∃ past', Traces h past' ep.before) ∧
      ∃ dirty, ep.after = { ep.before.resolve h.minuted with dirty } := by
  obtain ⟨front, back, rfl⟩ := List.append_of_mem hmem
  obtain ⟨e₁, stage, w₁, w₂, hpast, hbefore, hp, -, -⟩ := hist.episode
  have hout := outcome_of_perform h.minuted store w₁ ep.before ep.cue
  rw [hp] at hout
  refine ⟨hbefore ▸ hpast.awaits.congr rfl rfl, ⟨front, ?_⟩, ?_⟩
  · rw [hbefore]
    exact fun run hrun ticket hticket highlight hshown =>
      (hpast.traces run hrun ticket hticket highlight hshown).congr rfl rfl
  · generalize ep.after = f at hout
    cases hout with
    | resolve _ _ dirty => exact ⟨dirty, rfl⟩
    | answer _ hturn => rw [resolves_of_turn hturn] at hcue; cases hcue
    | debut _ hturn => rw [resolves_of_turn hturn] at hcue; cases hcue
    | stop _ hno | manage _ hno | writeFlag _ hno | setCounter _ hno =>
        rw [hno] at hcue
        cases hcue

/-- **The place of a highlight is neither lost nor out of date**, whatever a director is told and
whatever measurements find. Only the active run has places to be asked for. The highlight that is
shown has been put up by a step of the active run, in some episode; as long as no places have been
asked for since, the request waits to be met; afterwards, the highlight has the place that was found
when places were first asked for after that episode, for its own anchor, if that place is
measurable. -/
theorem History.located (hist : History h.minuted store { stage := s } w past e w') :
    Located h past e where
  pending request hmem := by
    have h₀ := hist.awaits
    cases hactive : e.activeRun? with
    | none =>
        rw [h₀.idle hactive] at hmem
        cases hmem
    | some run => exact ⟨run, rfl, (h₀.own run hactive request hmem).1⟩
  sought highlight hshown := by
    obtain ⟨run, ticket, hrun, hactive, hshown', hticket⟩ := hist.awaits.exists_ticket hshown
    have hpoints := hist.awaits.points run hrun
    exact ⟨run, ticket, hactive, hticket, (hpoints.counted ticket hticket).1,
      hpoints.step ticket hticket highlight hshown',
      hist.traces run hrun ticket hticket highlight hshown'⟩
  measurable highlight hshown rect hrect := by
    obtain ⟨run, ticket, hrun, -, hshown', hticket⟩ := hist.awaits.exists_ticket hshown
    exact (hist.traces run hrun ticket hticket highlight hshown').measurable hrect
  resolved ep hmem hcue := by
    obtain ⟨-, -, dirty, hafter⟩ := hist.resolve_episode hmem hcue
    obtain ⟨founds, more, hlength, hminutes, -, hmeasured, -, -⟩ :=
      exists_minutes_resolve (h := h) ep.before
    have hminutes' : ep.after.minutes = ep.before.minutes ++ more := by
      rw [hafter]
      exact hminutes
    rw [newMinutes_eq hminutes', hmeasured, List.map_fst_zip (by rw [List.length_map, hlength]),
      hafter]
    exact ⟨pending_resolve h.minuted ep.before, rfl⟩
  own ep hmem hcue run i ticket anchor hrun hticket hrequest := by
    obtain ⟨h₀, ⟨past', ht⟩, dirty, hafter⟩ := hist.resolve_episode hmem hcue
    obtain ⟨highlight, hshown⟩ := (h₀.points run hrun).exists_highlight hticket
    obtain ⟨found, more, run', hminutes, hfound, hrun', -, hshown'⟩ :=
      exists_resolve_wanted (h := h) h₀ hrun hticket hshown hrequest
    have hminutes' : ep.after.minutes = ep.before.minutes ++ more := by
      rw [hafter]
      exact hminutes
    have hrun'' : ep.after.run = some run' := by
      rw [hafter]
      exact hrun'
    refine ⟨highlight, found, by rw [snapshot_of_run hrun]; exact hshown, ?_,
      by rw [newMinutes_eq hminutes']; exact hfound,
      by rw [snapshot_of_run hrun'']; exact hshown'⟩
    have hwanted := List.mem_of_getElem? hrequest
    -- The request is still there, so that it cannot have been met before.
    rcases (ht run hrun ticket hticket highlight hshown).waits_or_met with hwaits | hmet
    · exact congrArg Prod.snd (List.inj_on_of_nodup_map h₀.nodup hwaits hwanted rfl)
    · exact absurd rfl (hmet _ hwanted)
  unmeasured ep hmem hcue := by
    obtain ⟨front, back, rfl⟩ := List.append_of_mem hmem
    obtain ⟨e₁, stage, w₁, w₂, -, -, hp, -, -⟩ := hist.episode
    have hout := outcome_of_perform h.minuted store w₁ ep.before ep.cue
    rw [hp] at hout
    obtain ⟨more, hminutes, -, hmeasured⟩ := hout.exists_minutes
    rw [newMinutes_eq hminutes]
    exact hmeasured hcue

end History

end Director

namespace Rehearsal

/-- A gate that can be seen. -/
def gate : Rect := ⟨⟨0⟩, ⟨0⟩, ⟨0x4000000000000000⟩, ⟨0x4000000000000000⟩⟩

/-- A watch that is taken over at once, before anybody has looked where the gate is. -/
def lookout : List Cue := [.register vigil, .start "vigil", .start "vigil", .settle]

/-- A director who can see the gate, with minutes kept. -/
def sentry : Director (Notes × List Exchange) :=
  { stage := ({ time := default, anchors := (∅ : Anchors).insert "gate" { rect := some gate } },
      []) }

/-- What comes of the watch. -/
def posted : Director (Notes × List Exchange) :=
  ((sentry.performAll stage.minuted Records.store lookout).run ∅).1.2

end Rehearsal

/-- At the end the gate is where it has been seen, and it has been looked for once. -/
theorem Director.located_posted :
    ∃ past w, Director.History Rehearsal.stage.minuted Records.store Rehearsal.sentry ∅ past
        Rehearsal.posted w ∧ past.map Episode.cue = Rehearsal.lookout ∧
      Located Rehearsal.stage past Rehearsal.posted ∧
      Rehearsal.posted.snapshot.highlight = some ⟨"gate", false, some Rehearsal.gate⟩ ∧
      measurementsOf Rehearsal.posted.minutes = [("gate", .somewhere Rehearsal.gate)] := by
  have hist : History Rehearsal.stage.minuted Records.store Rehearsal.sentry ∅ _
      Rehearsal.posted _ := history_episodes Rehearsal.lookout Rehearsal.sentry ∅
  exact ⟨_, _, hist, rfl, History.located hist, rfl, rfl⟩

end Cutscene
