import Cutscene.Store
import Mathlib.Logic.Function.Basic

/-!
# Stores That Mirror Records

A store keeps one record for each namespace, and whoever calls it cannot tell how. A store mirrors
records (`Store.Mirrors`) if it gives the answers that they give, and moves on as they do. So two
stores that mirror the same records give the same answers, whatever is asked of them in whatever
order (`Store.Mirrors.handleAll`), and a load gives what was last saved under its namespace
(`Store.Call.getElem?_answers`).

The store in memory is the plainest of them.

## Main results

* `Store.Mirrors.handleAll`: stores that mirror records give the answers that the records give.
* `Records.mirrors`: the store in memory mirrors its records.
-/

namespace Cutscene

/-! ### Calls -/

namespace Store

/-- Something that is asked of a store. -/
inductive Call where
  | load (ns : Namespace)
  | save (ns : Namespace) (p : Progress)

/-- What a store answers. -/
inductive Answer where
  | loaded (found : Except Fault (Option Progress))
  | saved (done : Except Fault Unit)

section Handle

variable {m : Type → Type} [Monad m] (store : Store m)

/-- Does what is asked. -/
def handle : Call → m Answer
  | .load ns => return .loaded (← store.load ns)
  | .save ns p => return .saved (← store.save ns p)

/-- Does what is asked, one call after the other, and collects the answers. -/
def handleAll : List Call → m (List Answer)
  | [] => return []
  | call :: rest => do
    let answer ← store.handle call
    let answers ← handleAll rest
    return answer :: answers

end Handle

namespace Call

/-- The namespace that a call is about. -/
def ns : Call → Namespace
  | load ns | save ns _ => ns

/-- What records answer. -/
def answer (records : Namespace → Option Progress) : Call → Answer
  | load ns => .loaded (.ok (records ns))
  | save .. => .saved (.ok ())

/-- What becomes of records. -/
def update (records : Namespace → Option Progress) : Call → Namespace → Option Progress
  | load _ => records
  | save ns p => Function.update records ns (some p)

/-- What records answer, one call after the other. -/
def answers (records : Namespace → Option Progress) : List Call → List Answer
  | [] => []
  | call :: rest => call.answer records :: answers (call.update records) rest

/-- The progress that a call saves under a namespace. -/
def saved? (ns : Namespace) : Call → Option Progress
  | save other p => if other = ns then some p else none
  | load _ => none

/-- The progress that was last saved under a namespace. -/
def lastSaved (calls : List Call) (ns : Namespace) : Option Progress :=
  calls.reverse.findSome? (saved? ns)

/-- After a call there is under each namespace what the call has saved there, or else what was there
before. -/
theorem update_apply (records : Namespace → Option Progress) (call : Call) (ns : Namespace) :
    call.update records ns = (call.saved? ns).or (records ns) := by
  cases call with
  | load other => rfl
  | save other p =>
      rw [update, saved?, Function.update_apply]
      by_cases hns : other = ns
      · rw [if_pos hns, if_pos hns.symm, Option.some_or]
      · rw [if_neg hns, if_neg (Ne.symm hns), Option.none_or]

/-- Behind some calls, records answer with what was saved last. Induction on the calls, with the
records that they have led to. -/
theorem getElem?_answers (records : Namespace → Option Progress) (before : List Call) (call : Call)
    (after : List Call) :
    (answers records (before ++ call :: after))[before.length]? =
      some (call.answer fun ns => (lastSaved before ns).or (records ns)) := by
  induction before generalizing records with
  | nil => rfl
  | cons first before ih =>
      have hlast : (fun ns => (lastSaved before ns).or (first.update records ns)) =
          fun ns => (lastSaved (first :: before) ns).or (records ns) := by
        funext ns
        rw [update_apply, ← Option.or_assoc, lastSaved, lastSaved, List.reverse_cons,
          List.findSome?_append, List.findSome?_singleton]
      rw [List.cons_append, answers, List.length_cons, List.getElem?_cons_succ, ih, hlast]

end Call

/-! ### Stores that mirror records -/

variable {ω : Type}

/-- **A store that mirrors records** gives the answers that they give, and moves on as they do, in
all namespaces that it has room for. -/
structure Mirrors (store : Store (StateM ω)) (fits : Namespace → Prop)
    (mirrors : ω → (Namespace → Option Progress) → Prop) : Prop where
  load : ∀ {w : ω} {records : Namespace → Option Progress} {ns : Namespace}, fits ns →
    mirrors w records → ((store.load ns).run w).1 = .ok (records ns) ∧
      mirrors ((store.load ns).run w).2 records
  save : ∀ {w : ω} {records : Namespace → Option Progress} {ns : Namespace} (p : Progress),
    fits ns → mirrors w records → ((store.save ns p).run w).1 = .ok () ∧
      mirrors ((store.save ns p).run w).2 (Function.update records ns (some p))

namespace Mirrors

variable {store : Store (StateM ω)} {fits : Namespace → Prop}
  {mirrors : ω → (Namespace → Option Progress) → Prop}

/-- A store that mirrors records answers a call as they do, and mirrors what becomes of them. -/
theorem handle (hstore : store.Mirrors fits mirrors) {w : ω}
    {records : Namespace → Option Progress} (call : Call) (hfits : fits call.ns)
    (hw : mirrors w records) :
    ((store.handle call).run w).1 = call.answer records ∧
      mirrors ((store.handle call).run w).2 (call.update records) := by
  cases call with
  | load ns =>
      obtain ⟨hanswer, hmirrors⟩ := hstore.load hfits hw
      exact ⟨congrArg Answer.loaded hanswer, hmirrors⟩
  | save ns p =>
      obtain ⟨hanswer, hmirrors⟩ := hstore.save p hfits hw
      exact ⟨congrArg Answer.saved hanswer, hmirrors⟩

/-- **Stores that mirror records give the answers that the records give.** -/
theorem handleAll (hstore : store.Mirrors fits mirrors) {w : ω}
    {records : Namespace → Option Progress} {calls : List Call}
    (hfits : ∀ call ∈ calls, fits call.ns) (hw : mirrors w records) :
    ((store.handleAll calls).run w).1 = Call.answers records calls := by
  induction calls generalizing w records with
  | nil => rfl
  | cons call calls ih =>
      obtain ⟨hanswer, hmirrors⟩ := hstore.handle call (hfits call List.mem_cons_self) hw
      have hlater := ih (fun other hother => hfits other (List.mem_cons_of_mem _ hother)) hmirrors
      exact congrArg₂ List.cons hanswer hlater

end Mirrors

end Store

/-! ### In memory -/

namespace NameMap

variable {α : Type} (map : NameMap α) (name : String)

/-- What was inserted stands under its name, and nothing else has changed. -/
theorem getElem?_insert (value : α) (other : String) :
    (map.insert name value)[other]? = if other = name then some value else map[other]? := by
  rw [Std.ExtTreeMap.getElem?_insert]
  by_cases hother : other = name
  · rw [if_pos hother, if_pos (by rw [hother]; exact Std.ReflCmp.compare_self)]
  · rw [if_neg hother, if_neg fun heq => hother (Std.LawfulEqCmp.eq_of_compare heq).symm]

/-- Nothing stands under a name that was erased, and nothing else has changed. -/
theorem getElem?_erase (other : String) :
    (map.erase name)[other]? = if other = name then none else map[other]? := by
  rw [Std.ExtTreeMap.getElem?_erase]
  by_cases hother : other = name
  · rw [if_pos hother, if_pos (by rw [hother]; exact Std.ReflCmp.compare_self)]
  · rw [if_neg hother, if_neg fun heq => hother (Std.LawfulEqCmp.eq_of_compare heq).symm]

end NameMap

/-- A record in memory takes the place of that of its namespace, and of no other. -/
theorem Records.getElem?_insert (records : Records) (ns : Namespace) (p : Progress) :
    (fun other : Namespace => (records.insert ns.key p)[other.key]?) =
      Function.update (fun other : Namespace => records[other.key]?) ns (some p) := by
  funext other
  have hkey : other.key = ns.key ↔ other = ns :=
    ⟨fun hkey => by cases other; cases ns; cases hkey; rfl, congrArg Namespace.key⟩
  rw [NameMap.getElem?_insert, Function.update_apply, if_congr hkey rfl rfl]

/-- **The store in memory mirrors its records.** -/
theorem Records.mirrors : Records.store.Mirrors (fun _ => True)
    fun w records => records = fun ns => w[ns.key]? where
  load _ hw := by
    subst hw
    exact ⟨rfl, rfl⟩
  save {w records ns} p _ hw := by
    subst hw
    exact ⟨rfl, (Records.getElem?_insert w ns p).symm⟩

end Cutscene
