import Gazetteer.CommandLine.Run
import Std.Time.DateTime.Timestamp

/-!
# The program

Copies what a call can see of the file system to a disk, runs the call on it, and writes the files
that the call has changed. Several names of one file are copied as files of their own.
-/

namespace Gazetteer.Program

open CommandLine

def nanoseconds (t : IO.FS.SystemTime) : Int := t.sec * 1000000000 + t.nsec.toNat

def textOf (place : List String) : String := (Disk.Route.ofNames place).text

def placeOf (path : String) : List String :=
  (Text.splitOn '/' path.toList).filterMap fun segment =>
    if segment = [] then none else some (.ofList segment)

/-- What a file holds, where it can be read. -/
def readContent (place : List String) : IO Disk.Content := do
  try
    let bytes ← IO.FS.readBinFile (textOf place)
    match String.fromUTF8? bytes with
    | some s => return .text s
    | none => return .bytes bytes.toList
  catch _ => return .locked

/-- The place that a path leads to through links, if something stands there. -/
def realPlace? (path : String) : IO (Option (List String)) := do
  try
    let here ← IO.currentDir
    if ← (here / path).pathExists then
      return some (placeOf (← IO.FS.realPath (here / path)).toString)
    else return none
  catch _ => return none

/-- Whether a call reads what a file of a project holds. -/
def isRead (place : List String) : Bool := ".atlas" ∈ place

/-- Copies what stands at a place itself, a file with its content only if that is read. What has
been copied before is not copied again without its content. -/
def copyPlace (d : Disk) (place : List String) (reads : Bool) : IO Disk := do
  if !reads && (d.node? place).isSome then return d
  try
    let here ← IO.currentDir
    let info ← (here / textOf place).symlinkMetadata
    match info.type with
    | .dir => return (d.put place .folder).dated (nanoseconds info.modified) [place]
    | .symlink =>
      let target := (← realPlace? (textOf place)).map textOf
      return d.put place (.link (target.getD (textOf place)))
    | _ =>
      let content ← if reads then readContent place else pure (Disk.Content.text "")
      return d.put place (.file content (nanoseconds info.modified))
  catch _ => return d

/-- Copies the folders and links on the way along a path, and what stands at its end. -/
def copyWay (d : Disk) (route : Disk.Route) (reads : Bool) : IO Disk := do
  let mut d := d
  for n in List.range (route.length + 1) do
    let way : Disk.Route := route.take n
    if let some place ← realPlace? way.text then
      d ← copyPlace d place reads
      if let some (.down name) := route[n]? then d ← copyPlace d (place ++ [name]) reads
  return d

/-- Copies the ignore files of a folder. -/
def copyIgnoreFiles (d : Disk) (folder : List String) : IO Disk := do
  let mut d ← copyPlace d folder false
  for name in [".ignore", ".gitignore"] do
    d ← copyWay d (.ofNames (folder ++ [name])) true
  d ← copyWay d (Scan.FolderRules.gitRoute folder) true
  if let some tree := Scan.FolderRules.workTree? d folder then
    d ← copyWay d (tree.child "commondir") true
  if let some git := Scan.FolderRules.gitFolder? d folder then
    d ← copyWay d (Scan.FolderRules.excludeRoute git) true
  return d

/-- Copies a folder with what stands in it, down to a depth. -/
def copyTree (d : Disk) (place : List String) : Nat → IO Disk
  | 0 => return d
  | depth + 1 => do
    let d ← copyPlace d place (isRead place)
    if d.node? place ≠ some .folder || Scan.isDenied (place.getLastD "") then return d
    try
      let here ← IO.currentDir
      let mut d ← copyIgnoreFiles d place
      for entry in ← (here / textOf place).readDir do
        if entry.fileName ∉ [".git", ".ignore", ".gitignore"] then
          d ← copyTree d (place ++ [entry.fileName]) depth
      return d
    catch _ => return d

/-- Copies a project with the way to it and the ignore files above it. -/
def copyProject (d : Disk) (route : Disk.Route) : IO Disk := do
  let mut d ← copyWay d route false
  if let some root ← realPlace? route.text then
    for n in List.range (root.length + 1) do
      d ← copyIgnoreFiles d (root.take n)
    d ← copyTree d root (Scan.maxDepth + 2)
  return d

/-- Writes what a call has changed back to the file system. -/
def writeBack (before after : Disk) : IO Unit := do
  for (place, node) in after.nodes.entries do
    if before.node? place ≠ some node then
      match node with
      | .folder => IO.FS.createDirAll (textOf place)
      | .file (.text s) _ => IO.FS.writeFile (textOf place) s
      | _ => pure ()
  for (place, _) in before.nodes.entries do
    if (after.node? place).isNone then IO.FS.removeFile (textOf place)

end Gazetteer.Program

open Gazetteer CommandLine Program in
def main (arguments : List String) : IO UInt32 := do
  let start ← IO.monoMsNow
  let stdout ← IO.getStdout
  let stderr ← IO.getStderr
  let here := Disk.Route.ofNames (placeOf (← IO.currentDir).toString)
  let now ← Std.Time.Timestamp.now
  let clock := [(now.toNanosecondsSinceUnixEpoch.val : Int)]
  let mut disk := { Disk.empty with workingFolder := here, clock }
  let mut input := ""
  if let .ok invocation := parse arguments then
    disk ← copyProject disk (disk.resolve invocation.root)
    let (file?, readsInput) := requestSource invocation
    if let some file := file? then disk ← copyWay disk (disk.resolve file) true
    if readsInput then input ← (← IO.getStdin).readToEnd
    if let .command request file _ := invocation.verb then
      let surroundings : Surroundings := ⟨input, 0, 0⟩
      if let .ok text := requestText request file surroundings disk then
        if let some project := namedProject? text then
          disk ← copyProject disk (disk.resolve project)
  let elapsed := (← IO.monoMsNow) - start
  let surroundings : Surroundings :=
    ⟨input, .ofNat now.toMillisecondsSinceUnixEpoch.val.toNat, .ofNat elapsed⟩
  let (output, after) := run arguments surroundings disk
  try writeBack disk after
  catch e => stderr.putStrLn (toString e)
  for line in output.complaints do
    stderr.putStrLn line
  stdout.putStr output.printed
  stdout.flush
  return .ofNat output.code
