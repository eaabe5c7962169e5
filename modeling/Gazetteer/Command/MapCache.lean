import Gazetteer.Command.Project
import Gazetteer.ProjectMap

/-!
# The cached map

The map of a project is reused while the gate says that the tree is unchanged. Otherwise it is built
from one walk and stored together with the fingerprint of that walk.
-/

namespace Gazetteer.Command

open Cache
open Disk (Change IoError)
open Session (Run)

/-- A map and how it was obtained. -/
structure MapSnapshot where
  map : ProjectMap
  cacheHit : Bool
  staleReasons : List StaleReason
  /-- Why a map that was built could not be stored. -/
  storeError : Option IoError
deriving DecidableEq

namespace MapSnapshot

/-- Stores a map and then the fingerprint of the tree that it was built from. -/
def store (root : Disk.Route) (map : ProjectMap) (f : Cache.Fingerprint) (now : UInt64) :
    Change Unit := do
  Artifact.save root .map map.encode now
  discard (Gate.recordFingerprint root f now)

/-- The stored map, if the gate says that it is fresh and it can be read. -/
def stored? (d : Disk) (root : Disk.Route) (status : Cache.Status) : Option ProjectMap :=
  if status.isFresh then Artifact.load? d root .map ProjectMap.decoder else none

/-- The map of the tree as it is. -/
def build (r : Area.Resolver) (tree : Cache.Snapshot) : ProjectMap :=
  .build r (Scan.paths tree.files)

/-- Builds the map of a project and stores it; `reasons` say why. -/
def rebuild (project : Project) (reasons : List StaleReason) (now : UInt64) : Run MapSnapshot := do
  let gate := Gate.ofProject project.root
  let tree := gate.snapshot (← Session.currentDisk) project.root
  let map := build (← Session.resolver project.config) tree
  match ← Session.attempt (store project.root map tree.fingerprint now) with
  | .ok () => return ⟨map, false, reasons, none⟩
  | .error e =>
    Session.warn (.mapNotWritten e)
    return ⟨map, false, reasons, some e⟩

/-- The map of a project: the stored one if it is fresh and need not be rebuilt, else a new one. -/
def loadOrBuild (project : Project) (force : Bool) (now : UInt64) : Run MapSnapshot := do
  let gate := Gate.ofProject project.root
  let d ← Session.currentDisk
  let status := gate.check d project.root
  match if force then none else stored? d project.root status with
  | some map =>
    discard (Session.attempt (Gate.markChecked project.root now))
    return ⟨map, true, [], none⟩
  | none => rebuild project status.reasons now

end MapSnapshot
end Gazetteer.Command
