import Gazetteer.Proofs.Area.Declaring
import Gazetteer.Proofs.Command.Misuse

/-!
# When rules are compiled

A request compiles the rules of the areas that its project declares if it builds the map, and if it
asks about an area. Nothing else compiles rules. So a request has no answer exactly if it comes to a
rule that is not compiled (`Handler.respond?_eq_none_iff`).
-/

namespace Gazetteer.Command

open Area (Config Resolver globRules)
open Cache (Gate)
open Session (Run)

/-- Whether the map of a project has to be built, because a new one is wanted or because the cache
has none that can be used. -/
def MustBuild (names : List String) (force : Bool) (d : Disk) : Prop :=
  force = true ∨ MapSnapshot.stored? d (.ofNames names)
    ((Gate.ofProject (.ofNames names)).check d (.ofNames names)) = none

/-- Whether a request compiles the rules of the project at a place: it is no misuse, it opens the
project, and it asks about an area or the map has to be built. -/
def Compiles (env : Environment) (request : Request) (names : List String) (d : Disk) : Prop :=
  ∃ q, Handler.question? env request.options request.action request.payload = some (.ok q) ∧
    Opens env q.project names d ∧ (request.action = .area ∨ MustBuild names q.force d)

/-- Whether a request comes to rules that an engine does not compile. -/
def IsStopped (env : Environment) (engine : Glob.Engine globRules) (request : Request) (d : Disk) :
    Prop :=
  ∃ names, Compiles env request names d ∧
    (Resolver.ofConfig (.onDisk d (.ofNames names))).isCompiled engine = false

variable {env : Environment} {s : Session}

/-! ## Runs that are stopped -/

namespace Session

variable {α : Type} {engine : Glob.Engine globRules} {run : Run α} {d : Disk}

theorem complete_fst (engine : Glob.Engine globRules) (run : Run α) (d : Disk) :
    (complete engine run d).1 =
      if ((run (.ofDisk d)).2.stop? engine).isSome then none else some (run (.ofDisk d)).1 := by
  unfold complete
  cases hrun : run.run (.ofDisk d) with
  | mk a s =>
    have hlast : run (.ofDisk d) = (a, s) := hrun
    rw [hlast]
    simp only
    cases s.stop? engine <;> rfl

/-- A run gives nothing exactly if it comes to rules that are not compiled. -/
theorem complete_eq_none_iff : (complete engine run d).1 = none ↔ ∃ config d',
    (config, d') ∈ (run (.ofDisk d)).2.compiled ∧
      (Resolver.ofConfig config).isCompiled engine = false := by
  rw [complete_fst, ite_eq_left_iff]
  simp [stop?, List.find?_isSome]

theorem eq_of_complete {a : α} (h : (complete engine run d).1 = some a) :
    a = (run (.ofDisk d)).1 := by
  rw [complete_fst] at h
  split at h
  next => cases h
  next => exact (Option.some.inj h).symm

end Session

/-! ## Steps -/

/-- Whether a step compiles no rules. -/
def CompilesNothing {α : Type} (x : CommandM α) : Prop := ∀ s, (x.run s).2.compiled = s.compiled

namespace CompilesNothing

variable {α β : Type}

theorem pure (a : α) : CompilesNothing (Pure.pure a) := fun _ => rfl

theorem throw (e : CommandError) : CompilesNothing (throw e : CommandM α) := fun _ => rfl

theorem lift {x : Run α} (h : ∀ s, (x s).2.compiled = s.compiled) :
    CompilesNothing (liftM x : CommandM α) := h

theorem bind {x : CommandM α} {f : α → CommandM β} (h : CompilesNothing x)
    (hf : ∀ a, CompilesNothing (f a)) : CompilesNothing (x >>= f) := by
  intro s
  have hfirst := h s
  cases hrun : x.run s with
  | mk result s' =>
    rw [hrun] at hfirst
    cases result with
    | error e => rw [Handler.run_bind_of_error hrun, hfirst]
    | ok a => rw [Handler.run_bind_of_ok hrun, hf a s', hfirst]

theorem decodePayload (decoder : Json.Decoder α) (payload : Json) :
    CompilesNothing (decodePayload decoder payload) := by
  intro s
  rw [Handler.run_decode]

theorem openProject (env : Environment) (requested : Option String) :
    CompilesNothing (openProject env requested) := by
  unfold Command.openProject
  refine bind (lift fun s => rfl) fun d => ?_
  simp only
  split
  · exact throw _
  · split
    · exact throw _
    · split
      · exact throw _
      · split
        · exact pure _
        · exact pure _
        · exact bind (lift fun s => rfl) fun _ => pure _

end CompilesNothing

/-- Whether what follows once the map of a project is loaded compiles the rules once more, or else
compiles nothing. -/
def CompilesAgain (again : Prop) [Decidable again]
    (rest : Project → MapSnapshot → CommandM Outcome) : Prop :=
  ∀ project snapshot s, ((rest project snapshot).run s).2.compiled =
    s.compiled ++ if again then [(project.config, s.disk)] else []

/-- Rules are compiled for either of two reasons, or for both. -/
theorem exists_mem_compiled {built again : Prop} [Decidable built] [Decidable again]
    {config config' : Config} {d d' : Disk} : (∃ e, (config, e) ∈
      (if built then [(config', d)] else []) ++ if again then [(config', d')] else []) ↔
        (again ∨ built) ∧ config = config' := by
  by_cases hbuilt : built <;> by_cases hagain : again <;> simp [hbuilt, hagain, exists_or]

theorem compilesAgain_pure {again : Prop} [Decidable again] (h : ¬ again)
    (outcome : Project → MapSnapshot → Outcome) :
    CompilesAgain again fun project snapshot => pure (outcome project snapshot) := by
  intro project snapshot s
  rw [if_neg h, List.append_nil]
  rfl

namespace Handler

/-! ## Requests -/

theorem respond_session (request : Request) : (respond env request s).2 =
    ((perform env request.options request.action request.payload).run s).2 := by
  cases h : (perform env request.options request.action request.payload).run s with
  | mk result s' =>
    cases result with
    | error e => rw [respond_of_error h]
    | ok outcome => rw [respond_of_ok h]

/-- Loading the map of a project compiles rules if the map has to be built. -/
theorem loadMap_compiled (env : Environment) {again : Prop} [Decidable again]
    {rest : Project → MapSnapshot → CommandM Outcome} (hrest : CompilesAgain again rest)
    (project : Project) (force : Bool) (s : Session) : ∃ d,
      ((loadMap env project force >>= rest project).run s).2.compiled = s.compiled ++
        ((if MapSnapshot.found? project force s.disk = none then [(project.config, s.disk)]
          else []) ++ if again then [(project.config, d)] else []) := by
  have hload : (loadMap env project force).run s =
      (.ok (MapSnapshot.loadOrBuild project force env.now s).1,
        (MapSnapshot.loadOrBuild project force env.now s).2) := run_lift _ _
  refine ⟨(MapSnapshot.loadOrBuild project force env.now s).2.disk, ?_⟩
  rw [run_bind_of_ok hload, hrest, MapSnapshot.loadOrBuild_compiled, List.append_assoc]

/-- A request on a map compiles the rules of its project when the map has to be built, and when it
goes on to do so. -/
theorem exists_mem_compiled_iff_of_steps {α : Type} {request : Request} {reading : CommandM α}
    {read : Except CommandError α} {question : α → Question}
    {rest : α → Project → MapSnapshot → CommandM Outcome} {config : Config}
    (hquestion : question? env request.options request.action request.payload =
      some (read.map question))
    (hperform : perform env request.options request.action request.payload =
      reading >>= fun p => do
        let project ← openProject env (question p).project
        let snapshot ← loadMap env project (question p).force
        rest p project snapshot)
    (hread : reading.run s = (read, s))
    (hrest : ∀ p, CompilesAgain (request.action = .area) (rest p)) (hs : s.compiled = []) :
    (∃ d, (config, d) ∈ (respond env request s).2.compiled) ↔
      ∃ names, Compiles env request names s.disk ∧ config = .onDisk s.disk (.ofNames names) := by
  simp only [Compiles, hquestion, Option.some.injEq]
  rw [respond_session, hperform]
  cases read with
  | error e =>
    rw [run_bind_of_error hread, hs]
    simp [Except.map]
  | ok p =>
    rw [run_bind_of_ok hread]
    rcases openProject_cases env (question p).project s with
      ⟨e, hrefused, hnone⟩ | ⟨names, project, s', hopened, hopens, hdisk, hroot, hconfig⟩
    · rw [run_bind_of_error hrefused, hs]
      simp [Except.map, hnone]
    · rw [run_bind_of_ok hopened]
      have hcompiled := CompilesNothing.openProject env (question p).project s
      rw [hopened, hs] at hcompiled
      have hfound : MapSnapshot.found? project (question p).force s'.disk = none ↔
          MustBuild names (question p).force s.disk := by
        rw [MapSnapshot.found?, hroot, hdisk, MustBuild]
        cases (question p).force <;> simp
      obtain ⟨last, hloaded⟩ := loadMap_compiled env (hrest p) project (question p).force s'
      rw [hloaded, hcompiled, List.nil_append, exists_mem_compiled, hfound, hconfig]
      constructor
      · rintro ⟨hcause, hsame⟩
        exact ⟨names, ⟨_, rfl, hopens, hcause⟩, hsame⟩
      · rintro ⟨place, ⟨q, hq, hplace, hcause⟩, hsame⟩
        obtain rfl := Except.ok.inj hq
        obtain rfl := Except.ok.inj (hplace.follow.symm.trans hopens.follow)
        exact ⟨hcause, hsame⟩

/-- A request on the cache compiles no rules. -/
theorem exists_mem_compiled_iff_of_nothing {request : Request} {config : Config} {d : Disk}
    (hquestion : question? env request.options request.action request.payload = none)
    (h : CompilesNothing (perform env request.options request.action request.payload)) :
    (∃ d', (config, d') ∈ (respond env request (.ofDisk d)).2.compiled) ↔
      ∃ names, Compiles env request names d ∧ config = .onDisk d (.ofNames names) := by
  have hcompiled := h (.ofDisk d)
  rw [respond_session, hcompiled]
  simp [Compiles, hquestion, Session.ofDisk]

/-- The configurations whose rules a request compiles. -/
theorem exists_mem_compiled_iff (env : Environment) (request : Request) (config : Config)
    (d : Disk) : (∃ d', (config, d') ∈ (respond env request (.ofDisk d)).2.compiled) ↔
      ∃ names, Compiles env request names d ∧ config = .onDisk d (.ofNames names) := by
  obtain ⟨action, payload, options⟩ := request
  cases action with
  | map =>
    exact exists_mem_compiled_iff_of_steps rfl (map_eq payload) (run_decode _ _ _)
      (fun p => compilesAgain_pure nofun _) rfl
  | areas =>
    exact exists_mem_compiled_iff_of_steps rfl (areas_eq payload) (run_decode _ _ _)
      (fun p => compilesAgain_pure nofun _) rfl
  | area =>
    refine exists_mem_compiled_iff_of_steps rfl (area_eq payload) (run_readTarget _ _ _ _)
      (fun p project snapshot s => ?_) rfl
    obtain ⟨warnings, hresolver⟩ := Session.resolver_run project.config s
    have hrun := run_lift (Session.resolver project.config) s
    rw [run_bind_of_ok hrun, hresolver, if_pos rfl]
    rfl
  | find =>
    exact exists_mem_compiled_iff_of_steps rfl (find_eq payload) (run_readTarget _ _ _ _)
      (fun p => compilesAgain_pure nofun _) rfl
  | describe =>
    refine exists_mem_compiled_iff_of_steps rfl (describe_eq payload) (run_readTarget _ _ _ _)
      (fun p project snapshot s => ?_) rfl
    rw [if_neg nofun, List.append_nil]
    rfl
  | cacheStatus =>
    have hnothing : CompilesNothing (cacheStatus env payload) := by
      refine .bind (.decodePayload _ _) fun p => .bind (.openProject _ _) fun project => ?_
      exact .bind (.lift fun s => rfl) fun d => .pure _
    exact exists_mem_compiled_iff_of_nothing rfl hnothing
  | cacheClear =>
    have hnothing : CompilesNothing (cacheClear env payload) := by
      refine .bind (.decodePayload _ _) fun p => .bind (.openProject _ _) fun project => ?_
      exact .bind (.lift (Session.invalidate_compiled _ _ _)) fun _ => .pure _
    exact exists_mem_compiled_iff_of_nothing rfl hnothing

/-! ## Answers -/

variable {engine : Glob.Engine globRules} {request : Request} {d : Disk}

/-- There is no answer exactly if the request comes to rules that are not compiled. -/
theorem respond?_eq_none_iff (env : Environment) (engine : Glob.Engine globRules)
    (request : Request) (d : Disk) :
    (respond? env engine request d).1 = none ↔ IsStopped env engine request d := by
  rw [respond?, Session.complete_eq_none_iff]
  constructor
  · rintro ⟨config, d', hmem, hrefused⟩
    obtain ⟨names, hcompiles, rfl⟩ :=
      (exists_mem_compiled_iff env request config d).1 ⟨d', hmem⟩
    exact ⟨names, hcompiles, hrefused⟩
  · rintro ⟨names, hcompiles, hrefused⟩
    obtain ⟨d', hmem⟩ := (exists_mem_compiled_iff env request _ d).2 ⟨names, hcompiles, rfl⟩
    exact ⟨_, d', hmem, hrefused⟩

/-- A request that is not stopped is answered as if all rules could be compiled. -/
theorem respond?_eq_some {r : Response} (h : (respond? env engine request d).1 = some r) :
    r = (respond env request (.ofDisk d)).1 := Session.eq_of_complete h

/-- A request on a project whose configuration is the default is answered. -/
theorem exists_answer_of_default (env : Environment) (engine : Glob.Engine globRules)
    (request : Request) (h : ∀ names, Compiles env request names d →
      Config.onDisk d (.ofNames names) = .default) :
    (respond? env engine request d).1 = some (respond env request (.ofDisk d)).1 := by
  cases hanswer : (respond? env engine request d).1 with
  | none =>
    obtain ⟨names, hcompiles, hrefused⟩ := (respond?_eq_none_iff ..).1 hanswer
    rw [h names hcompiles] at hrefused
    cases hrefused
  | some r => rw [respond?_eq_some hanswer]

/-- What is read from the payload of a request on a map that opens a project is no misuse. -/
theorem isProper_of_read {α : Type} {read : Except CommandError α} {question : α → Question}
    {q : Question} {names : List String}
    (hgives : Gives read (fun p => (question p).project) (request.action.read request.payload))
    (hread : read.map question = .ok q) (hopens : Opens env q.project names d) :
    IsProper env request d := by
  rw [IsProper, ← hgives fun requested => ∃ names, Opens env requested names d]
  cases read with
  | error e => cases hread
  | ok p =>
    obtain rfl := Except.ok.inj hread
    exact ⟨p, rfl, names, hopens⟩

/-- A request that compiles rules is no misuse. -/
theorem isProper_of_compiles {names : List String} (h : Compiles env request names d) :
    IsProper env request d := by
  obtain ⟨action, payload, options⟩ := request
  obtain ⟨q, hquestion, hopens, -⟩ := h
  cases action with
  | map => exact isProper_of_read (gives_mapError _ _) (Option.some.inj hquestion) hopens
  | areas => exact isProper_of_read (gives_mapError _ _) (Option.some.inj hquestion) hopens
  | area => exact isProper_of_read (gives_target _ _ _) (Option.some.inj hquestion) hopens
  | find => exact isProper_of_read (gives_target _ _ _) (Option.some.inj hquestion) hopens
  | describe => exact isProper_of_read (gives_target _ _ _) (Option.some.inj hquestion) hopens
  | cacheStatus => cases hquestion
  | cacheClear => cases hquestion

end Handler
end Gazetteer.Command
