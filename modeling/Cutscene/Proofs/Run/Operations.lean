import Cutscene.Proofs.Run.Effects
import Mathlib.Data.List.Induction

/-!
# Operations on a Run

What a host can do to a run, as data (`Run.Operation`), so that a theorem can speak of any
sequence of operations. Every operation is given the progress at which it is performed, and
answers with a turn, with nothing, or with a fault (`Run.operate?`). One that does not answer with
a turn is rejected.

## Main results

* `Run.leads_operate`: an operation advances the run, answers it, breaks it off, notes a place, or
  is rejected and leaves the run and the progress as they are.
* `Run.operateAll_induction`: what every operation keeps holds after all of them.
* `Run.course_operateAll`: a run that is operated on takes a course.
-/

namespace Cutscene

namespace Run

/-- An operation on a run, with its arguments. -/
inductive Operation where
  | advance
  | choose (option : Nat)
  | acknowledge
  | resumeTimer (ticket : Ticket)
  | notifyFlag
  | interrupt
  | applyGeometry (ticket : Ticket) (rect : Option Rect)
deriving DecidableEq

/-- What an operation answers. A snapshot that noting a place has led to counts as handed over. -/
def operate? (r : Run) (p : Progress) : Operation → Except Fault (Option Turn)
  | .advance => .ok (some (r.advance p))
  | .choose option => (r.choose p option).map some
  | .acknowledge => .ok (r.acknowledge? p)
  | .resumeTimer ticket => .ok (r.resumeTimer? p ticket)
  | .notifyFlag => .ok (r.notifyFlag? p)
  | .interrupt =>
    let (r, effects) := r.interrupt p
    .ok (some { run := r, progress := p, effects })
  | .applyGeometry ticket rect =>
    let (r, shown) := r.applyGeometry ticket rect
    .ok (some { run := r, progress := p, effects := (shown.map Effect.present).toList })

/-- What an operation leads to. A rejected one leads to nothing. -/
def operate (r : Run) (p : Progress) (op : Operation) : Turn :=
  match r.operate? p op with
  | .ok (some turn) => turn
  | .ok none | .error _ => { run := r, progress := p }

/-- Operates on a run again and again, each time at some progress. The effects of all operations
stand one after the other. -/
def operateAll (r : Run) (calls : List (Progress × Operation)) : Run × List Effect :=
  calls.foldl
    (fun (r, effects) (p, op) =>
      ((r.operate p op).run, effects ++ (r.operate p op).effects))
    (r, [])

/-- The last operation is performed where the others have led. -/
theorem operateAll_concat (r : Run) (calls : List (Progress × Operation)) (p : Progress)
    (op : Operation) :
    r.operateAll (calls ++ [(p, op)]) =
      (((r.operateAll calls).1.operate p op).run,
        (r.operateAll calls).2 ++ ((r.operateAll calls).1.operate p op).effects) := by
  rw [operateAll, List.foldl_append]
  rfl

/-- What every operation keeps holds after all of them. -/
theorem operateAll_induction {P : Run → List Effect → Prop} {r : Run}
    (calls : List (Progress × Operation)) (h₀ : P r [])
    (hP : ∀ (q : Run) (es : List Effect) (p : Progress) (op : Operation), (p, op) ∈ calls →
      P q es → P (q.operate p op).run (es ++ (q.operate p op).effects)) :
    P (r.operateAll calls).1 (r.operateAll calls).2 := by
  induction calls using List.reverseRecOn with
  | nil => exact h₀
  | append_singleton calls call ih =>
      rw [operateAll_concat]
      exact hP _ _ _ _ (List.mem_append_right _ List.mem_cons_self)
        (ih fun q es p op hmem => hP q es p op (List.mem_append_left _ hmem))

/-- What an operation can lead to. -/
inductive Leads (r : Run) (p : Progress) : Operation → Turn → Prop
  | advance : Leads r p .advance (r.advance p)
  | answer {op : Operation} {turn : Turn} (h : r.Answers p turn) : Leads r p op turn
  | interrupt : Leads r p .interrupt
      { run := (r.interrupt p).1, progress := p, effects := (r.interrupt p).2 }
  | applyGeometry (ticket : Ticket) (rect : Option Rect) :
      Leads r p (.applyGeometry ticket rect)
        { run := (r.applyGeometry ticket rect).1
          progress := p
          effects := ((r.applyGeometry ticket rect).2.map Effect.present).toList }
  | rejected (op : Operation) : Leads r p op { run := r, progress := p }

/-- **Where an operation leads.** -/
theorem leads_operate (r : Run) (p : Progress) (op : Operation) :
    r.Leads p op (r.operate p op) := by
  cases op with
  | advance => exact .advance
  | interrupt => exact .interrupt
  | applyGeometry ticket rect => exact .applyGeometry ticket rect
  | choose option =>
      rw [operate, operate?]
      cases h : r.choose p option with
      | ok turn => exact .answer (.choose option h)
      | error fault => exact .rejected _
  | acknowledge =>
      rw [operate, operate?]
      cases h : r.acknowledge? p with
      | some turn => exact .answer (.acknowledge h)
      | none => exact .rejected _
  | resumeTimer ticket =>
      rw [operate, operate?]
      cases h : r.resumeTimer? p ticket with
      | some turn => exact .answer (.resumeTimer ticket h)
      | none => exact .rejected _
  | notifyFlag =>
      rw [operate, operate?]
      cases h : r.notifyFlag? p with
      | some turn => exact .answer (.notifyFlag h)
      | none => exact .rejected _

/-- A run that is operated on takes a course. -/
theorem course_operateAll (r : Run) (calls : List (Progress × Operation)) :
    Course r (r.operateAll calls).2 (r.operateAll calls).1 := by
  refine operateAll_induction calls (P := fun q es => Course r es q) .nil fun q es p op _ h => ?_
  have hleads := q.leads_operate p op
  generalize q.operate p op = turn at hleads ⊢
  cases hleads with
  | advance => exact h.advance p
  | answer hturn => exact h.answer hturn
  | interrupt => exact h.interrupt p
  | applyGeometry ticket rect => exact h.applyGeometry ticket rect
  | rejected =>
      rw [List.append_nil]
      exact h

end Run

end Cutscene
