import Gazetteer.Command.MapCache
import Gazetteer.Command.Output
import Gazetteer.Lookup.Target

/-!
# Answering requests

Each action opens the project, does its work and answers with an outcome. Misuse becomes an error
response; nothing that the disk does to the cache is an error. There is no answer where a rule of a
declared area stops the program.
-/

namespace Gazetteer.Command

open Cache (Gate StaleReason)
open Session (Run)

/-- What an action has to say. -/
structure Outcome where
  status : Status
  message : Option String
  data : Json
  notes : List Note
  facts : Facts
deriving DecidableEq

namespace Outcome

def ofData (data : Json) : Outcome := ⟨.ok, none, data, [], .none⟩

def notFound (hint : Hint.Recovery) : Outcome :=
  ⟨.notFound, some hint.headline, hint.encode, [], .none⟩

def addNotes (o : Outcome) (notes : List Note) : Outcome := { o with notes := o.notes ++ notes }

/-- The remark that a map was rebuilt and why. -/
def rebuiltNote (reasons : List StaleReason) : Note :=
  ⟨.cache, "Map rebuilt: " ++ ", ".intercalate (reasons.map StaleReason.describe) ++ "."⟩

def storeErrorNote (e : Disk.IoError) : Note := ⟨.warn, (Warning.mapNotWritten e).message⟩

/-- The outcome with the facts and remarks that every action on a map shares. -/
def withSnapshot (o : Outcome) (project : Project) (s : MapSnapshot) : Outcome :=
  let rebuilt := if s.cacheHit || s.staleReasons.isEmpty then [] else [rebuiltNote s.staleReasons]
  let notes := project.notes ++ (s.storeError.map storeErrorNote).toList ++ rebuilt
  let facts : Facts :=
    { o.facts with
      root := some project.root.text, configPath := project.configPath, cacheHit := some s.cacheHit,
      staleReasons := s.staleReasons, fileCount := some s.map.files.length }
  { o.addNotes notes with facts := facts }

end Outcome

namespace Handler

variable (env : Environment) (options : Options)

def loadMap (project : Project) (force : Bool) : CommandM MapSnapshot :=
  liftM (MapSnapshot.loadOrBuild project force env.now)

def map (payload : Json) : CommandM Outcome := do
  let p ← decodePayload MapPayload.decoder payload
  let project ← openProject env p.project
  let s ← loadMap env project p.force
  let served := if s.cacheHit then [⟨.cache, "Served from .atlas/cache/map.json."⟩] else []
  let empty :=
    if s.map.files.isEmpty then
      [⟨.info, "No source files found; check --root and .gitignore."⟩]
    else []
  return ((Outcome.ofData s.map.encode).addNotes (served ++ empty)).withSnapshot project s

def areas (payload : Json) : CommandM Outcome := do
  let p ← decodePayload ProjectPayload.decoder payload
  let project ← openProject env p.project
  let s ← loadMap env project false
  return (Outcome.ofData (AreasOutput.encode ⟨s.map.areas⟩)).withSnapshot project s

/-- The area that a text refers to, with its files. -/
def area (payload : Json) : CommandM Outcome := do
  let p ← decodePayload areaPayload payload
  let input ← requireTarget p.target "area"
  let project ← openProject env p.project
  let s ← loadMap env project false
  let r ← liftM (Session.resolver project.config)
  let id := r.resolveReference input s.map.filePaths
  let outcome := match s.map.area? id with
    | some info =>
      let from? := if input = id then none else some input
      Outcome.ofData (AreaOutput.encode ⟨info, from?, s.map.areaFiles id⟩)
    | none => Outcome.notFound ((formatter env options).missingArea input s.map.areaCounts)
  return outcome.withSnapshot project s

def missingFile (query : String) (s : MapSnapshot) : Outcome :=
  .notFound ((formatter env options).missingFile query s.map.filePaths)

def find (payload : Json) : CommandM Outcome := do
  let p ← decodePayload findPayload payload
  let query ← requireTarget p.target "query"
  let project ← openProject env p.project
  let s ← loadMap env project false
  let outcome := match Lookup.bestTarget? query s.map.filePaths with
    | some m => Outcome.ofData (FindOutput.encode ⟨query, m.path, m.tier.rank⟩)
    | none => missingFile env options query s
  return outcome.withSnapshot project s

/-- One file with what imports it and what it imports, if an import graph is stored. -/
def describe (payload : Json) : CommandM Outcome := do
  let p ← decodePayload describePayload payload
  let query ← requireTarget p.target "file"
  let project ← openProject env p.project
  let s ← loadMap env project false
  let d ← liftM Session.currentDisk
  let entry? := (Lookup.bestTarget? query s.map.filePaths).bind fun m => s.map.entry? m.path
  let outcome := match entry? with
    | some e =>
      let graph := (Cache.Artifact.load? d project.root .graph Cache.Graph.decoder).getD .empty
      Outcome.ofData (DescribeOutput.encode
        ⟨e.path, e.category, e.areas, e.description, graph.dependenciesOf e.path,
          graph.dependentsOf e.path⟩)
    | none => missingFile env options query s
  return outcome.withSnapshot project s

def cacheStatus (payload : Json) : CommandM Outcome := do
  let p ← decodePayload ProjectPayload.decoder payload
  let project ← openProject env p.project
  let status := (Gate.ofProject project.root).check (← liftM Session.currentDisk) project.root
  let stored := status.stored.getD .empty
  let outcome := Outcome.ofData (CacheStatusOutput.encode
    ⟨status.isFresh, status.reasons, (Cache.folder project.root).text, status.current.text,
      stored.fingerprint.map Cache.Fingerprint.text, stored.schemaVersion, stored.lastCheck⟩)
  let stale :=
    if status.isFresh then [] else [⟨.cache, "The next map-backed command rebuilds the cache."⟩]
  let facts : Facts :=
    { Facts.none with
      root := some project.root.text, configPath := project.configPath,
      fileCount := some status.current.fileCount.toNat, staleReasons := status.reasons }
  return { outcome.addNotes (stale ++ project.notes) with facts := facts }

def cacheClear (payload : Json) : CommandM Outcome := do
  let p ← decodePayload ProjectPayload.decoder payload
  let project ← openProject env p.project
  let gate := Gate.ofProject project.root
  let _ ← (Session.invalidate gate project.root env.now : Run _)
  let outcome := Outcome.ofData (CacheClearOutput.encode
    ⟨(Cache.folder project.root).text, gate.hookNames⟩)
  let facts : Facts := { Facts.none with root := some project.root.text }
  return { outcome.addNotes project.notes with facts := facts }

/-- The work of an action. -/
def perform : Action → Json → CommandM Outcome
  | .map => map env
  | .areas => areas env
  | .area => area env options
  | .find => find env options
  | .describe => describe env options
  | .cacheStatus => cacheStatus env
  | .cacheClear => cacheClear env

def answer (o : Outcome) : Response :=
  ⟨o.status, o.message, o.notes, o.data,
    { o.facts with duration := o.facts.duration <|> some env.elapsed }⟩

/-- The response for misuse. -/
def refusal (e : CommandError) : Response := .ofError e.message (notesOnError e.message)

/-- Answers a request that nothing stops; misuse is answered with an error response. -/
def respond (request : Request) : Run Response := do
  match ← (perform env request.options request.action request.payload).run with
  | .ok outcome => return answer env outcome
  | .error e => return refusal e

/-- Answers a request, if no rule of a declared area stops the program. -/
def respond? (engine : Glob.Engine Area.globRules) (request : Request) (d : Disk) :
    Option Response × Disk :=
  Session.complete engine (respond env request) d

end Handler
end Gazetteer.Command
