import Gazetteer.Cache.Artifact
import Gazetteer.Cache.Meta
import Gazetteer.Scan.Walk

/-!
# The cache gate

Decides whether stored artifacts can be used for a project. The gate keeps nothing itself: each
question reads the metadata and walks the tree again.
-/

namespace Gazetteer.Cache

open Disk (Change IoError Route)

/-- The settings file, from the root of the project. -/
def settingsFile : String := ".atlas/config.json"

inductive HookError where
  | disk (e : IoError)
  | refused (reason : String)
deriving DecidableEq, Repr

/-- The words for an error of the disk. -/
def ioMessage (e : IoError) : String := "IO error: " ++ e.message

/-- An error with its cause. -/
def HookError.message : HookError → String
  | .disk e => ioMessage e ++ ": " ++ e.message
  | .refused reason => reason

/-- Something else that is cached and has to be cleared with the artifacts. -/
structure Hook where
  name : String
  clear : Route → EStateM HookError Disk Unit

/-- The hook that removes the artifacts of a project. -/
def Hook.ofArtifacts (root : Route) : Hook where
  name := "artifact-store"
  clear _ := fun d =>
    match Artifact.removeAll root d with
    | .ok _ d => .ok () d
    | .error e d => .error (.disk e) d

structure Gate where
  /-- The settings file whose time goes into the fingerprint, from the root of the project. -/
  settings : Option String
  depth : Nat
  hooks : List Hook

/-- Files of one walk, with the fingerprint of exactly those files. -/
structure Snapshot where
  files : List Scan.SourceFile
  fingerprint : Fingerprint
deriving DecidableEq, Repr

/-- What came of an invalidation: whether the metadata could be reset, and how each hook answered.
-/
structure Invalidation where
  reset : Except IoError Unit
  answers : List (String × Except HookError Unit)

namespace Gate

def default : Gate := ⟨some settingsFile, Scan.maxDepth, []⟩

/-- The gate of a project, which clears its artifacts. -/
def ofProject (root : Route) : Gate := { default with hooks := [.ofArtifacts root] }

variable (g : Gate)

def hookNames : List String := g.hooks.map Hook.name

/-- The time of the settings file, if it is there. -/
def settingsTime (d : Disk) (root : Route) : Option UInt64 :=
  g.settings.bind fun file => (d.modified (root.join file)).toOption

/-- One walk through the tree. -/
def snapshot (d : Disk) (root : Route) : Snapshot :=
  let files := Scan.files d root g.depth
  ⟨files, .ofTimes (files.map Scan.SourceFile.modified) (g.settingsTime d root)⟩

def fingerprint (d : Disk) (root : Route) : Fingerprint := (g.snapshot d root).fingerprint

/-- The metadata as stored. -/
def stored (d : Disk) (root : Route) : Disk.Record Meta :=
  d.readRecord Meta.decoder (metaRoute root)

def check (d : Disk) (root : Route) : Status :=
  let current := g.fingerprint d root
  ⟨staleReasons (stored d root) current, current, (stored d root).found?⟩

def isValid (d : Disk) (root : Route) : Bool := (g.check d root).isFresh

/-- Stores that artifacts were built from the tree with a fingerprint. The time of creation is that
of the first run since the record was reset. -/
def recordFingerprint (root : Route) (f : Fingerprint) (now : UInt64) : Change Meta := do
  let createdAt := (stored (← get) root).found?.bind Meta.createdAt
  let m : Meta :=
    ⟨some toolVersion, some schemaVersion, some (createdAt.getD now), some now, some f⟩
  Change.writeRecord (metaRoute root) m.encode now
  return m

/-- Stores that artifacts were built from the tree as it is. -/
def record (root : Route) (now : UInt64) : Change Meta := do
  recordFingerprint root (g.fingerprint (← get) root) now

/-- Sets the time of the last check in a record, if there is one. -/
def markChecked (root : Route) (now : UInt64) : Change Unit := do
  match stored (← get) root with
  | .found m => Change.writeRecord (metaRoute root) { m with lastCheck := some now }.encode now
  | .missing | .corrupt => return ()

/-- Runs a change that may fail and goes on in any case. -/
def attempt (change : EStateM ε Disk α) : StateM Disk (Except ε α) := fun d =>
  match change d with
  | .ok a d => (.ok a, d)
  | .error e d => (.error e, d)

/-- Asks hooks in turn to clear what they keep. -/
def clearAll (root : Route) : List Hook → StateM Disk (List (String × Except HookError Unit))
  | [] => pure []
  | hook :: hooks => do
    let answer ← attempt (hook.clear root)
    return (hook.name, answer) :: (← clearAll root hooks)

/-- Resets the metadata to the empty record and asks every hook to clear what it keeps. Failures are
reported and stop nothing. -/
def invalidate (root : Route) (now : UInt64) : StateM Disk Invalidation := do
  let reset ← attempt (Change.writeRecord (metaRoute root) Meta.empty.encode now)
  return ⟨reset, ← clearAll root g.hooks⟩

end Gate
end Gazetteer.Cache
