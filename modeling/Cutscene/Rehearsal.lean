import Cutscene.Director
import Cutscene.Store.FileStore
import Cutscene.Store.Folder

/-!
# Rehearsals

A game that is not there. It shows nothing and does nothing, but takes down what it would have
shown and what it was told to do. With it goes a shelf, a store that can be made to fail.
-/

namespace Cutscene

namespace Rehearsal

/-- The notes of a game that is not there. -/
structure Notes where
  time : Instant
  anchors : Anchors := ∅
  shown : Array Snapshot := #[]
  commands : Array HostCommand := #[]

/-- The refusal of a command. -/
def refusal (command : HostCommand) : Fault := .dispatch ("host rejected " ++ command.kind)

/-- The game that is not there, whether or not it does what it is told. -/
def host (ids : Identities) (obedient : Bool) : Host Notes where
  ids := ids
  dispatch command notes :=
    (if obedient then .ok () else .error (refusal command),
      { notes with commands := notes.commands.push command })
  measure name notes :=
    let (measured, anchors) := notes.anchors.measure name
    (measured, { notes with anchors })
  present snapshot notes := { notes with shown := notes.shown.push snapshot }
  now notes := (notes.time, notes)

/-- A store for rehearsals. -/
inductive Shelf where
  /-- Has one record for all namespaces and takes down how it was used. -/
  | recording (record : Option Progress) (loads : Array Namespace)
    (saves : Array (Namespace × Progress))
  /-- Never has a record and takes every one. -/
  | empty
  /-- Always fails. -/
  | failing (attempts : Nat)
  /-- Is a memory that refuses so many records first. -/
  | memory (records : Records) (refusals : Nat)
  /-- Is a directory on a disk. -/
  | disk (files : FileStore) (folder : Folder)

namespace Shelf

/-- The fault of a shelf that fails. -/
def unavailable : Fault := .persistence "storage unavailable"

/-- Looks for a record. -/
def load (ns : Namespace) : Shelf → Except Fault (Option Progress) × Shelf
  | recording record loads saves => (.ok record, recording record (loads.push ns) saves)
  | empty => (.ok none, empty)
  | failing attempts => (.error unavailable, failing attempts)
  | memory records refusals => (.ok (records.get? ns.key), memory records refusals)
  | disk files folder =>
    ((files.load ns folder).mapError StoreFault.toFault, disk files folder)

/-- Takes a record. -/
def save (ns : Namespace) (p : Progress) : Shelf → Except Fault Unit × Shelf
  | recording _ loads saves => (.ok (), recording (some p) loads (saves.push (ns, p)))
  | empty => (.ok (), empty)
  | failing attempts => (.error unavailable, failing (attempts + 1))
  | memory records 0 => (.ok (), memory (records.insert ns.key p) 0)
  | memory records (refusals + 1) => (.error unavailable, memory records refusals)
  | disk files folder =>
    let (result, folder) := files.save ns p folder
    (result.mapError StoreFault.toFault, disk files folder)

/-- The store that a shelf is. -/
def store : Store (StateM Shelf) where
  load ns := modifyGet (load ns)
  save ns p := modifyGet (save ns p)

end Shelf

end Rehearsal

end Cutscene
