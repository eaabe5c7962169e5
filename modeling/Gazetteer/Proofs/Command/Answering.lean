import Gazetteer.Command.Handler
import Gazetteer.Proofs.Command.Opening
import Gazetteer.Proofs.Command.Loading

/-!
# How requests on a map are answered

Five actions are about the map of a project. Each opens the project, loads its map or builds it, and
says something about the map. What it says is a function of the project, the map and the import
graph that is stored, so two requests are answered alike when these are alike.
-/

namespace Gazetteer.Command

open Json (Decoder)
open Session (Run)

/-- What a request on a map wants: whose map, whether a new one, and what is to be said about it. -/
structure Question where
  project : Option String
  force : Bool
  outcome : Project → MapSnapshot → Cache.Graph → Outcome

namespace Handler

/-- The import graph that is stored for a project, an empty one if there is none. -/
def graphOf (d : Disk) (root : Disk.Route) : Cache.Graph :=
  (Cache.Artifact.load? d root .graph Cache.Graph.decoder).getD .empty

section

variable (env : Environment) (options : Options)

/-- A payload with a target that is not blank. -/
def target (decoder : Decoder TargetPayload) (what : String) (payload : Json) :
    Except CommandError TargetPayload :=
  match decoder.ofValue payload with
  | .error e => .error (.payload e)
  | .ok p =>
    match Lookup.requireQuery p.target what with
    | .error e => .error (.emptyQuery e)
    | .ok query => .ok ⟨p.project, query⟩

def mapOutcome (s : MapSnapshot) : Outcome :=
  let served := if s.cacheHit then [⟨.cache, "Served from .atlas/cache/map.json."⟩] else []
  let empty :=
    if s.map.files.isEmpty then
      [⟨.info, "No source files found; check --root and .gitignore."⟩]
    else []
  (Outcome.ofData s.map.encode).addNotes (served ++ empty)

def areaOutcome (input : String) (r : Area.Resolver) (s : MapSnapshot) : Outcome :=
  let id := r.resolveReference input s.map.filePaths
  match s.map.area? id with
  | some info =>
    let from? := if input = id then none else some input
    Outcome.ofData (AreaOutput.encode ⟨info, from?, s.map.areaFiles id⟩)
  | none => Outcome.notFound ((formatter env options).missingArea input s.map.areaCounts)

def findOutcome (query : String) (s : MapSnapshot) : Outcome :=
  match Lookup.bestTarget? query s.map.filePaths with
  | some m => Outcome.ofData (FindOutput.encode ⟨query, m.path, m.tier.rank⟩)
  | none => missingFile env options query s

def describeOutcome (query : String) (s : MapSnapshot) (graph : Cache.Graph) : Outcome :=
  match (Lookup.bestTarget? query s.map.filePaths).bind fun m => s.map.entry? m.path with
  | some e => Outcome.ofData (DescribeOutput.encode
      ⟨e.path, e.category, e.areas, e.description, graph.dependenciesOf e.path,
        graph.dependentsOf e.path⟩)
  | none => missingFile env options query s

/-- What a request on a map wants, if its payload says so; nothing for requests on the cache. -/
def question? : Action → Json → Option (Except CommandError Question)
  | .map, payload => some ((MapPayload.decoder.ofValue payload).mapError .payload |>.map fun p =>
      ⟨p.project, p.force, fun _ s _ => mapOutcome s⟩)
  | .areas, payload =>
    some ((ProjectPayload.decoder.ofValue payload).mapError .payload |>.map fun p =>
      ⟨p.project, false, fun _ s _ => .ofData (AreasOutput.encode ⟨s.map.areas⟩)⟩)
  | .area, payload => some ((target areaPayload "area" payload).map fun p =>
      ⟨p.project, false, fun project s _ =>
        areaOutcome env options p.target (.ofConfig project.config) s⟩)
  | .find, payload => some ((target findPayload "query" payload).map fun p =>
      ⟨p.project, false, fun _ s _ => findOutcome env options p.target s⟩)
  | .describe, payload => some ((target describePayload "file" payload).map fun p =>
      ⟨p.project, false, fun _ s graph => describeOutcome env options p.target s graph⟩)
  | .cacheStatus, _ | .cacheClear, _ => none

/-- The answer to what a request wants, and the disk that is left. -/
def reply (asked : Except CommandError Question) (s : Session) : Response × Disk :=
  match asked with
  | .error e => (refusal e, s.disk)
  | .ok q =>
    match (openProject env q.project).run s with
    | (.error e, s) => (refusal e, s.disk)
    | (.ok project, s) =>
      let (snapshot, s) := MapSnapshot.loadOrBuild project q.force env.now s
      (answer env ((q.outcome project snapshot (graphOf s.disk project.root)).withSnapshot project
        snapshot), s.disk)

end

variable {env : Environment} {options : Options} {s s' : Session}

/-! ## Steps of a command -/

theorem exists_of_map_ok {ε α β : Type} {x : Except ε α} {f : α → β} {b : β}
    (h : x.map f = .ok b) : ∃ a, f a = b := by
  cases x with
  | error e => cases h
  | ok a => exact ⟨a, Except.ok.inj h⟩

theorem run_of_eq {α β : Type} {x : Run α} {f : α → Run β} {a : α} (h : x s = (a, s')) :
    (x >>= f) s = f a s' := by
  simp only [bind, StateT.bind]
  rw [h]

theorem run_bind_of_ok {α β : Type} {x : CommandM α} {f : α → CommandM β} {a : α}
    (h : x.run s = (.ok a, s')) : (x >>= f).run s = (f a).run s' := by
  rw [ExceptT.run_bind]
  exact run_of_eq h

theorem run_bind_of_error {α β : Type} {x : CommandM α} {f : α → CommandM β} {e : CommandError}
    (h : x.run s = (.error e, s')) : (x >>= f).run s = (.error e, s') := by
  rw [ExceptT.run_bind]
  exact run_of_eq h

theorem run_lift {α : Type} (x : Run α) (s : Session) :
    (liftM x : CommandM α).run s = (.ok (x s).1, (x s).2) := rfl

theorem run_decode {α : Type} (decoder : Decoder α) (payload : Json) (s : Session) :
    (decodePayload decoder payload).run s =
      ((decoder.ofValue payload).mapError .payload, s) := by
  unfold decodePayload
  cases decoder.ofValue payload <;> rfl

theorem run_require (text what : String) (s : Session) : (requireTarget text what).run s =
    ((Lookup.requireQuery text what).mapError .emptyQuery, s) := by
  unfold requireTarget
  cases Lookup.requireQuery text what <;> rfl

/-- Reads a payload with a target. -/
def readTarget (decoder : Decoder TargetPayload) (what : String) (payload : Json) :
    CommandM TargetPayload := do
  let p ← decodePayload decoder payload
  let query ← requireTarget p.target what
  return ⟨p.project, query⟩

theorem run_readTarget (decoder : Decoder TargetPayload) (what : String) (payload : Json)
    (s : Session) : (readTarget decoder what payload).run s = (target decoder what payload, s) := by
  have hdecode := run_decode decoder payload s
  unfold readTarget target
  cases hp : decoder.ofValue payload with
  | error e =>
    rw [hp] at hdecode
    exact run_bind_of_error hdecode
  | ok p =>
    rw [hp] at hdecode
    have hrequire := run_require p.target what s
    rw [run_bind_of_ok hdecode]
    cases hquery : Lookup.requireQuery p.target what with
    | error e =>
      rw [hquery] at hrequire
      simp only [hquery]
      exact run_bind_of_error hrequire
    | ok query =>
      rw [hquery] at hrequire
      simp only [hquery]
      exact run_bind_of_ok hrequire

/-! ## Requests -/

theorem respond_of_ok {request : Request} {outcome : Outcome}
    (h : (perform env request.options request.action request.payload).run s = (.ok outcome, s')) :
    respond env request s = (answer env outcome, s') := by
  unfold respond
  exact run_of_eq h

theorem respond_of_error {request : Request} {e : CommandError}
    (h : (perform env request.options request.action request.payload).run s = (.error e, s')) :
    respond env request s = (refusal e, s') := by
  unfold respond
  exact run_of_eq h

/-- What follows once the map of a project is loaded says what is wanted, and leaves the disk. -/
def Says (q : Question) (rest : Project → MapSnapshot → CommandM Outcome) : Prop :=
  ∀ project snapshot s, ∃ s', s'.disk = s.disk ∧ (rest project snapshot).run s =
    (.ok ((q.outcome project snapshot (graphOf s.disk project.root)).withSnapshot project snapshot),
      s')

theorem says_pure (requested : Option String) (force : Bool)
    (outcome : Project → MapSnapshot → Outcome) :
    Says ⟨requested, force, fun project snapshot _ => outcome project snapshot⟩
      fun project snapshot => pure ((outcome project snapshot).withSnapshot project snapshot) :=
  fun _ _ s => ⟨s, rfl, rfl⟩

/-- A request on a map opens its project, loads the map and says what is wanted. -/
theorem respond_of_says {request : Request} {q : Question}
    {rest : Project → MapSnapshot → CommandM Outcome} (hanswer : Says q rest)
    (h : (perform env request.options request.action request.payload).run s =
      (do
        let project ← openProject env q.project
        let snapshot ← loadMap env project q.force
        rest project snapshot : CommandM Outcome).run s) :
    ((respond env request s).1, (respond env request s).2.disk) = reply env (.ok q) s := by
  unfold reply
  simp only
  cases hopened : (openProject env q.project).run s with
  | mk opened m =>
    cases opened with
    | error e =>
      rw [run_bind_of_error hopened] at h
      rw [respond_of_error h]
    | ok project =>
      rw [run_bind_of_ok hopened] at h
      cases hloaded : MapSnapshot.loadOrBuild project q.force env.now m with
      | mk snapshot m' =>
        have hload : (loadMap env project q.force).run m = (.ok snapshot, m') := by
          rw [loadMap, run_lift, hloaded]
        obtain ⟨s', hdisk, hrest⟩ := hanswer project snapshot m'
        rw [run_bind_of_ok hload, hrest] at h
        rw [respond_of_ok h, hdisk]
        simp only [hloaded]

/-- A request on a map reads its payload, and then it does what the payload asks for. -/
theorem reply_eq_of_read {α : Type} {request : Request} {reading : CommandM α}
    {read : Except CommandError α} {question : α → Question} {f : α → CommandM Outcome}
    (hperform : perform env request.options request.action request.payload = reading >>= f)
    (hread : reading.run s = (read, s)) (hf : ∀ p, ∃ rest, Says (question p) rest ∧ f p = do
      let project ← openProject env (question p).project
      let snapshot ← loadMap env project (question p).force
      rest project snapshot) :
    ((respond env request s).1, (respond env request s).2.disk) =
      reply env (read.map question) s := by
  cases read with
  | error e =>
    have hrun := run_bind_of_error (f := f) hread
    rw [← hperform] at hrun
    rw [respond_of_error hrun]
    rfl
  | ok p =>
    obtain ⟨rest, hanswer, hrest⟩ := hf p
    have hrun := run_bind_of_ok (f := f) hread
    rw [← hperform, hrest] at hrun
    exact respond_of_says hanswer hrun

theorem map_eq (payload : Json) : map env payload =
    decodePayload MapPayload.decoder payload >>= fun p => do
      let project ← openProject env p.project
      let snapshot ← loadMap env project p.force
      return (mapOutcome snapshot).withSnapshot project snapshot := by
  unfold map mapOutcome
  rfl

theorem areas_eq (payload : Json) : areas env payload =
    decodePayload ProjectPayload.decoder payload >>= fun p => do
      let project ← openProject env p.project
      let snapshot ← loadMap env project false
      return (Outcome.ofData (AreasOutput.encode ⟨snapshot.map.areas⟩)).withSnapshot project
        snapshot := rfl

theorem area_eq (payload : Json) : area env options payload =
    readTarget areaPayload "area" payload >>= fun p => do
      let project ← openProject env p.project
      let snapshot ← loadMap env project false
      let r ← liftM (Session.resolver project.config)
      return (areaOutcome env options p.target r snapshot).withSnapshot project snapshot := by
  unfold area readTarget
  simp only [bind_assoc, pure_bind]
  refine bind_congr fun p => bind_congr fun query => bind_congr fun project =>
    bind_congr fun snapshot => bind_congr fun r => ?_
  unfold areaOutcome
  cases harea : snapshot.map.area? (r.resolveReference query snapshot.map.filePaths) with
  | none => simp only [harea]
  | some info => simp only [harea]

theorem find_eq (payload : Json) : find env options payload =
    readTarget findPayload "query" payload >>= fun p => do
      let project ← openProject env p.project
      let snapshot ← loadMap env project false
      return (findOutcome env options p.target snapshot).withSnapshot project snapshot := by
  unfold find readTarget
  simp only [bind_assoc, pure_bind]
  refine bind_congr fun p => bind_congr fun query => bind_congr fun project =>
    bind_congr fun snapshot => ?_
  unfold findOutcome
  cases Lookup.bestTarget? query snapshot.map.filePaths <;> rfl

theorem describe_eq (payload : Json) : describe env options payload =
    readTarget describePayload "file" payload >>= fun p => do
      let project ← openProject env p.project
      let snapshot ← loadMap env project false
      let d ← liftM Session.currentDisk
      return (describeOutcome env options p.target snapshot (graphOf d project.root)).withSnapshot
        project snapshot := by
  unfold describe readTarget
  simp only [bind_assoc, pure_bind]
  refine bind_congr fun p => bind_congr fun query => bind_congr fun project =>
    bind_congr fun snapshot => bind_congr fun d => ?_
  unfold describeOutcome
  cases (Lookup.bestTarget? query snapshot.map.filePaths).bind
    fun m => snapshot.map.entry? m.path <;> rfl

/-- A request on a map is answered by what it wants. -/
theorem respond_eq {request : Request} {asked : Except CommandError Question}
    (h : question? env request.options request.action request.payload = some asked) (s : Session) :
    ((respond env request s).1, (respond env request s).2.disk) = reply env asked s := by
  obtain ⟨action, payload, options⟩ := request
  cases action with
  | map =>
    obtain rfl := Option.some.inj h
    exact reply_eq_of_read (map_eq payload) (run_decode _ _ s) fun p =>
      ⟨_, says_pure p.project p.force fun _ snapshot => mapOutcome snapshot, rfl⟩
  | areas =>
    obtain rfl := Option.some.inj h
    exact reply_eq_of_read (areas_eq payload) (run_decode _ _ s) fun p =>
      ⟨_, says_pure p.project false fun _ snapshot =>
        .ofData (AreasOutput.encode ⟨snapshot.map.areas⟩), rfl⟩
  | area =>
    obtain rfl := Option.some.inj h
    refine reply_eq_of_read (area_eq payload) (run_readTarget _ _ _ s) fun p =>
      ⟨_, fun project snapshot s => ?_, rfl⟩
    -- The warnings about the configuration are given once more, and leave the disk as it is.
    obtain ⟨hresolver, hdisk⟩ := Session.resolver_eq project.config s
    refine ⟨(Session.resolver project.config s).2, hdisk, ?_⟩
    rw [run_bind_of_ok (run_lift (Session.resolver project.config) s), hresolver]
    rfl
  | find =>
    obtain rfl := Option.some.inj h
    exact reply_eq_of_read (find_eq payload) (run_readTarget _ _ _ s) fun p =>
      ⟨_, says_pure p.project false fun _ snapshot =>
        findOutcome env options p.target snapshot, rfl⟩
  | describe =>
    obtain rfl := Option.some.inj h
    refine reply_eq_of_read (describe_eq payload) (run_readTarget _ _ _ s) fun p =>
      ⟨_, fun project snapshot s => ⟨s, rfl, ?_⟩, rfl⟩
    have hdisk : (liftM Session.currentDisk : CommandM Disk).run s = (.ok s.disk, s) :=
      run_lift Session.currentDisk s
    rw [run_bind_of_ok hdisk]
    rfl
  | cacheStatus => cases h
  | cacheClear => cases h

end Handler
end Gazetteer.Command
