import Gazetteer.Proofs.Command.Answering
import Gazetteer.Proofs.Command.Listing
import Gazetteer.Proofs.Json.Decoding
import Gazetteer.Proofs.Lookup.Resolution

/-!
# Finding and describing

Both actions pick one path of a map for a query. Finding answers with this path. Describing looks
its entry up once more, by the path that it normalises again. So the two agree exactly where the
path stays what it is, and that fails for names that begin with a backslash and then with white
space or a dot.
-/

namespace Gazetteer

/-! ## Entries -/

namespace ProjectMap

variable {m : ProjectMap} {path : String}

/-- An entry that is looked up has the normalised path. -/
theorem path_eq_of_entry {e : MapEntry} (h : m.entry? path = some e) :
    e.path = Path.relative path := by
  unfold entry? at h
  simpa using List.find?_some h

theorem exists_entry (h : Path.relative path ∈ m.filePaths) : ∃ e, m.entry? path = some e := by
  obtain ⟨e, he, hpath⟩ := List.mem_map.1 h
  have hsome : Option.isSome <| m.entry? path := List.find?_isSome.2 ⟨e, he, by simpa using hpath⟩
  exact Option.isSome_iff_exists.1 hsome

/-- An entry of a map that was built is found by its path exactly if its path is normal. -/
theorem entry?_path_iff {r : Area.Resolver} {files : List String} {e : MapEntry}
    (he : e ∈ (build r files).files) :
    entry? (build r files) e.path = some e ↔ Path.relative e.path = e.path := by
  have hmem : e.path ∈ (build r files).filePaths := List.mem_map_of_mem he
  constructor
  · intro h
    exact (path_eq_of_entry h).symm
  · intro h
    rw [← h] at hmem
    obtain ⟨found, hfound⟩ := exists_entry hmem
    have hpath : found.path = e.path := (path_eq_of_entry hfound).trans h
    have hnodup : ((build r files).files.map MapEntry.path).Nodup :=
      increasing_filePaths.imp Entries.ne_of_compare_lt
    obtain rfl := List.inj_on_of_nodup_map hnodup (List.mem_of_find?_eq_some hfound) he hpath
    exact hfound

/-- The paths of a map that was built are normal but for what stands in front. -/
theorem relative_path_iff {r : Area.Resolver} {files : List String} {e : MapEntry}
    (he : e ∈ (build r files).files) : Path.relative e.path = e.path ↔
      (∀ c, e.path.toList.head? = some c → Text.isBlank c = false) ∧
        ¬ ['.', '/'] <+: e.path.toList := by
  obtain ⟨⟨file, -, hfile⟩, -⟩ := mem_filePaths_iff.1 (List.mem_map_of_mem he)
  rw [hfile]
  exact Path.relative_relative_iff

end ProjectMap

/-! ## Answers -/

theorem Json.field?_record {fields : List (String × Option Json)}
    (h : (fields.map Prod.fst).Nodup) (name : String) :
    (record fields).field? name = (fields.lookup name).join := find?_presentFields h name

namespace Command

/-- The path that a request for a file is answered with. -/
def Response.path? (r : Response) : Option String :=
  match r.status, r.data.field? "path" with
  | .ok, some (.string path) => some path
  | _, _ => none

namespace Handler

section

variable {env : Environment} {options : Options} {project : Project} {snapshot : MapSnapshot}
  {query : String}

theorem path?_find : (answer env ((findOutcome env options query snapshot).withSnapshot project
    snapshot)).path? = (Lookup.bestTarget? query snapshot.map.filePaths).map Lookup.Match.path := by
  unfold findOutcome
  cases Lookup.bestTarget? query snapshot.map.filePaths with
  | none => rfl
  | some m =>
    have hfield : (FindOutput.encode ⟨query, m.path, m.tier.rank⟩).field? "path" =
        some (.string m.path) := Json.field?_record (by simp) "path"
    show (match Status.ok, (FindOutput.encode ⟨query, m.path, m.tier.rank⟩).field? "path" with
      | .ok, some (.string path) => some path
      | _, _ => none) = _
    rw [hfield]
    rfl

theorem path?_describe {graph : Cache.Graph} :
    (answer env ((describeOutcome env options query snapshot graph).withSnapshot project
      snapshot)).path? = ((Lookup.bestTarget? query snapshot.map.filePaths).bind fun m =>
        snapshot.map.entry? m.path).map MapEntry.path := by
  unfold describeOutcome
  cases (Lookup.bestTarget? query snapshot.map.filePaths).bind
      fun m => snapshot.map.entry? m.path with
  | none => rfl
  | some e =>
    let output : DescribeOutput := ⟨e.path, e.category, e.areas, e.description,
      graph.dependenciesOf e.path, graph.dependentsOf e.path⟩
    have hfield : output.encode.field? "path" = some (.string e.path) :=
      Json.field?_record (by simp) "path"
    show (match Status.ok, output.encode.field? "path" with
      | .ok, some (.string path) => some path
      | _, _ => none) = _
    rw [hfield]
    rfl

/-- The map that a request loads. -/
def loaded? (env : Environment) (requested : Option String) (s : Session) : Option ProjectMap :=
  match (openProject env requested).run s with
  | (.error _, _) => none
  | (.ok project, s) => some (MapSnapshot.loadOrBuild project false env.now s).1.map

/-- A request for a file answers with the path that is picked from the map for its query. -/
theorem path?_respond {request : Request} {decoder : Json.Decoder TargetPayload} {what : String}
    {requested : Option String} {text : String}
    (outcome : String → MapSnapshot → Cache.Graph → Outcome)
    (pick : String → ProjectMap → Option String)
    (hpayload : decoder.ofValue request.payload = .ok ⟨requested, text⟩)
    (hquestion : question? env request.options request.action request.payload =
      some ((target decoder what request.payload).map fun p =>
        ⟨p.project, false, fun _ s graph => outcome p.target s graph⟩))
    (hpick : ∀ query project snapshot graph,
      (answer env ((outcome query snapshot graph).withSnapshot project snapshot)).path? =
        pick query snapshot.map) (s : Session) :
    (respond env request s).1.path? = (Lookup.requireQuery text what).toOption.bind fun query =>
      (loaded? env requested s).bind (pick query) := by
  have hreply := congrArg Prod.fst (respond_eq hquestion s)
  simp only at hreply
  rw [hreply]
  unfold target
  simp only [hpayload]
  cases Lookup.requireQuery text what with
  | error e => rfl
  | ok query =>
    unfold loaded? reply
    simp only [Except.map, Except.toOption, Option.bind_some]
    cases (openProject env requested).run s with
    | mk opened m =>
      cases opened with
      | error e => rfl
      | ok project => exact hpick query project _ _

theorem toOption_requireQuery (text what what' : String) :
    (Lookup.requireQuery text what).toOption = (Lookup.requireQuery text what').toOption := by
  unfold Lookup.requireQuery
  simp only
  split <;> rfl

/-- The two actions agree on a path exactly if it is normal. -/
theorem describe_agrees_with_find_iff {env : Environment} {options options' : Options}
    {requested : Option String} {query : String} {payload payload' : Json}
    (hfind : findPayload.ofValue payload = .ok ⟨requested, query⟩)
    (hdescribe : describePayload.ofValue payload' = .ok ⟨requested, query⟩) (s : Session) :
    let found := (respond env ⟨.find, payload, options⟩ s).1.path?
    let described := (respond env ⟨.describe, payload', options'⟩ s).1.path?
    (described = found ↔ ∀ p, found = some p → Path.relative p = p) ∧
      (∀ p, described = some p → ∃ q, found = some q ∧ p = Path.relative q) ∧
      ∀ (r : Area.Resolver) (files : List String), ∀ e ∈ (ProjectMap.build r files).files,
        (Path.relative e.path = e.path ↔
          ProjectMap.entry? (ProjectMap.build r files) e.path = some e) ∧
          (Path.relative e.path = e.path ↔
            (∀ c, e.path.toList.head? = some c → Text.isBlank c = false) ∧
              ¬ ['.', '/'] <+: e.path.toList) := by
  intro found described
  let pick (query : String) (m : ProjectMap) : Option Lookup.Match :=
    Lookup.bestTarget? query m.filePaths
  have hfound : found = (Lookup.requireQuery query "file").toOption.bind fun query =>
      (loaded? env requested s).bind fun m => (pick query m).map Lookup.Match.path := by
    rw [toOption_requireQuery query "file" "query"]
    exact path?_respond (fun query s _ => findOutcome env options query s)
      (fun query m => (pick query m).map Lookup.Match.path) hfind rfl
      (fun _ _ _ _ => path?_find) s
  have hdescribed : described = (Lookup.requireQuery query "file").toOption.bind fun query =>
      (loaded? env requested s).bind fun m =>
        ((pick query m).bind fun best => m.entry? best.path).map MapEntry.path :=
    path?_respond (fun query s graph => describeOutcome env options' query s graph)
      (fun query m => ((pick query m).bind fun best => m.entry? best.path).map MapEntry.path)
      hdescribe rfl (fun _ _ _ _ => path?_describe) s
  rw [← and_assoc]
  refine ⟨?_, fun r files e he =>
    ⟨(ProjectMap.entry?_path_iff he).symm, ProjectMap.relative_path_iff he⟩⟩
  rw [hfound, hdescribed]
  -- Nothing is found where the query is blank, no map is loaded or nothing matches.
  cases (Lookup.requireQuery query "file").toOption with
  | none => simp
  | some query =>
    cases loaded? env requested s with
    | none => simp
    | some m =>
      simp only [Option.bind_some]
      cases hbest : pick query m with
      | none => simp
      | some best =>
        simp only [Option.map_some, Option.bind_some, Option.some.injEq, forall_eq']
        have hlisted : best.path ∈ m.filePaths := Lookup.path_mem_of_bestTarget? hbest
        constructor
        · constructor
          · intro heq
            obtain ⟨e, he, hpath⟩ := Option.map_eq_some_iff.1 heq
            exact (ProjectMap.path_eq_of_entry he).symm.trans hpath
          · intro hnormal
            obtain ⟨e, he⟩ := ProjectMap.exists_entry (m := m) (hnormal.symm ▸ hlisted)
            rw [he, Option.map_some, ProjectMap.path_eq_of_entry he, hnormal]
        · intro p hp
          obtain ⟨e, he, rfl⟩ := Option.map_eq_some_iff.1 hp
          exact ⟨_, rfl, ProjectMap.path_eq_of_entry he⟩

end

/-! ### A name with a backslash and a space in front -/

namespace Sample

def env : Environment := ⟨"/p", .terminal, none, 5, 0⟩

/-- A project with one source file. -/
def disk (name : String) : Disk where
  nodes := .ofList [(["p"], .folder), (["p", name], .file (.text "") 1000000)]
  faults := []
  workingFolder := []

def find (text : String) : Request := ⟨.find, .object [("query", .string text)], .none⟩

def describe (text : String) : Request := ⟨.describe, .object [("file", .string text)], .none⟩

theorem find_payload (text : String) :
    findPayload.ofValue (find text).payload = .ok ⟨none, text⟩ := rfl

theorem describe_payload (text : String) :
    describePayload.ofValue (describe text).payload = .ok ⟨none, text⟩ := rfl

end Sample

theorem plain_name_is_found_and_described :
    (findPayload.ofValue (Sample.find "a").payload = .ok ⟨none, "a"⟩ ∧
      describePayload.ofValue (Sample.describe "a").payload = .ok ⟨none, "a"⟩) ∧
    (respond Sample.env (Sample.find "a") (.ofDisk (Sample.disk "a.ts"))).1.path? = some "a.ts" ∧
      (respond Sample.env (Sample.describe "a") (.ofDisk (Sample.disk "a.ts"))).1.path? =
        some "a.ts" := by
  have hfound : (respond Sample.env (Sample.find "a") (.ofDisk (Sample.disk "a.ts"))).1.path? =
      some "a.ts" := by decide
  have hfind := Sample.find_payload "a"
  have hdescribe := Sample.describe_payload "a"
  obtain ⟨hagree, -⟩ := @describe_agrees_with_find_iff Sample.env .none .none none "a" _ _ hfind
    hdescribe (.ofDisk (Sample.disk "a.ts"))
  have hdescribed := hagree.2 fun p hp => by
    obtain rfl := Option.some.inj (hfound.symm.trans hp)
    decide
  exact ⟨⟨Sample.find_payload "a", Sample.describe_payload "a"⟩, hfound, hdescribed.trans hfound⟩

/-- A file may be found that cannot be described, and the map that lists it has no entry for its
path. -/
theorem exists_found_but_not_described : ∃ (env : Environment) (s : Session) (text : String),
    (respond env (Sample.find text) s).1.path? = some " a.ts" ∧
      (respond env (Sample.describe text) s).1.status = .notFound ∧
      ∃ (r : Area.Resolver) (files : List String), ∃ e ∈ (ProjectMap.build r files).files,
        ProjectMap.entry? (ProjectMap.build r files) e.path = none := by
  refine ⟨Sample.env, .ofDisk (Sample.disk "\\ a.ts"), "a.ts", by decide, by decide,
    .ofConfig .default, ["\\ a.ts"], ?_⟩
  decide

end Handler
end Command
end Gazetteer
