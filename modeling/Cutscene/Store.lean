import Cutscene.Fault
import Cutscene.Namespace
import Cutscene.Progress

/-!
# Stores

A store keeps one progress record for each namespace. What a store does besides answering is
told by the monad in which it answers: a store on a disk changes the disk, a store in memory
changes a map.
-/

namespace Cutscene

/-- Where progress is kept. -/
structure Store (m : Type → Type) where
  /-- The record of a namespace, if there is one. -/
  load : Namespace → m (Except Fault (Option Progress))
  /-- Makes the progress the record of a namespace. -/
  save : Namespace → Progress → m (Except Fault Unit)

/-! ### Memory -/

/-- Records in memory, under the keys of their namespaces. -/
abbrev Records := NameMap Progress

namespace Records

/-- The store that keeps its records in memory. It never fails. -/
def store : Store (StateM Records) where
  load ns := do return .ok ((← get).get? ns.key)
  save ns p := do
    modify fun records => records.insert ns.key p
    return .ok ()

end Records

end Cutscene
