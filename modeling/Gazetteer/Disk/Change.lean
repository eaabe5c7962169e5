import Gazetteer.Disk.Basic

/-!
# Changes to a disk

Making folders, writing, renaming and removing files. An operation that fails leaves the disk as it
was, except that a write can be torn and that folders made on the way stay. What comes to a folder
or leaves it changes the time of the folder.
-/

namespace Gazetteer.Disk

/-- The disk where folders changed at a time. -/
def dated (d : Disk) (time : Int) (folders : List (List String)) : Disk :=
  { d with folderTimes := folders.foldl (fun times p => times.insert p time) d.folderTimes }

/-- The disk after folders have changed together. -/
def stamped (d : Disk) (folders : List (List String)) : Disk :=
  { d.dated (d.clock.headD 0) folders with
    clock := if d.clock.length ≤ 1 then d.clock else d.clock.tail }

/-- The disk with a new folder. -/
def founded (d : Disk) (place : List String) : Disk :=
  (d.put place .folder).stamped [place.dropLast, place]

/-- The disk with a file at a place, new or in place of what the file there held under all its
names. -/
def written (d : Disk) (place : List String) (file : Node) : Disk :=
  if d.node? place = none then (d.put place file).stamped [place.dropLast]
  else if d.IsSole place then d.put place file
  else
    { d with
      nodes := d.nodes.mapValues fun p node =>
        if p = place || d.isTwin place p then file else node }

/-- The disk with a node at another place than before. Names of one file stay where they are. -/
def moved (d : Disk) (source target : List String) (node : Node) : Disk :=
  if source = target || d.isTwin source target then d
  else
    let gone := (d.erase source).put target node
    let numbers := match d.numbers.find? source with
      | some number => gone.numbers.insert target number
      | none => gone.numbers
    { gone with numbers }.stamped [source.dropLast, target.dropLast]

/-- The disk without what stands at a place. -/
def removed (d : Disk) (place : List String) : Disk := (d.erase place).stamped [place.dropLast]

/-- A computation that changes a disk and may fail. -/
abbrev Change := EStateM IoError Disk

namespace Change

/-- A question to the disk. -/
def ask (f : Disk → Except IoError α) : Change α := fun d =>
  match f d with
  | .ok a => .ok a d
  | .error e => .error e d

/-- The fault that befalls the next operation. -/
def nextFault : Change (Option Fault) := fun d =>
  match d.faults with
  | [] => .ok none d
  | fault :: faults => .ok fault { d with faults := faults }

/-- Fails if the disk refuses the next operation. -/
def admitted : Change Unit := do
  if (← nextFault).isSome then throw .noSpace

/-- Makes a folder where nothing stands. -/
def makeFolder (r : Route) : Change Unit := do
  admitted
  let place ← ask fun d => d.locate r
  if (← get).node? place = none then modify fun d => d.founded place else throw .occupied

/-- Makes the folder at the end of a route, given last step first, and those above it. -/
def makeFoldersUpTo : List Step → Change Unit
  | [] => pure ()
  | step :: above => do
    if step.isIdle then makeFoldersUpTo above
    else
      let r := (step :: above).reverse
      try makeFolder r
      catch
        | .notFound => do
          makeFoldersUpTo above
          try makeFolder r
          catch e => if (← get).isFolder r then pure () else throw e
        | e => if (← get).isFolder r then pure () else throw e

/-- Makes the folder at the end of a route and those above it, where they do not stand yet. -/
def makeFolders (r : Route) : Change Unit := makeFoldersUpTo r.reverse

/-- Writes a text over what a file holds, or into a new file. -/
def writeFile (r : Route) (text : String) (now : UInt64) : Change Unit := do
  let fault ← nextFault
  if fault = some .refusal then throw .noSpace
  let place ← ask fun d => d.writable r
  let time : Int := now.toNat * 1000000
  match fault with
  | some (.tear kept) =>
    modify fun d => d.written place (.file (.text (.ofList (text.toList.take kept))) time)
    throw .noSpace
  | _ => modify fun d => d.written place (.file (.text text) time)

/-- Moves a file to another place, over a file that stands there. -/
def rename (source target : Route) : Change Unit := do
  admitted
  let source ← ask fun d => d.locate source
  let target ← ask fun d => d.locate target
  match (← get).node? source with
  | none => throw .notFound
  | some node =>
    if (← get).node? target = some .folder then throw .isAFolder
    modify fun d => d.moved source target node

/-- Removes a file or a link. -/
def removeFile (r : Route) : Change Unit := do
  admitted
  let place ← ask fun d => d.locate r
  match (← get).node? place with
  | none => throw .notFound
  | some .folder => throw .isAFolder
  | some _ => modify fun d => d.removed place

end Change
end Gazetteer.Disk
