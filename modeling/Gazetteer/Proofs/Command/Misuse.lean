import Gazetteer.Proofs.Command.Answering
import Gazetteer.Proofs.Command.Payload

/-!
# What is an error

A request is answered with an error exactly if it is misuse: its payload is not one of its action,
it asks about nothing but white space, or the path of its project leads nowhere. Once the project is
open every step succeeds, whatever stands on the disk and whatever happens to writes.
-/

namespace Gazetteer.Command

/-- Whether a request is no misuse: its payload can be read, what it asks about is not blank, and
its project exists. -/
def IsProper (env : Environment) (request : Request) (d : Disk) : Prop :=
  ∃ subject, request.action.read request.payload = .ok subject ∧
    (∀ target ∈ subject.target, Text.trim target.toList ≠ []) ∧
      ∃ names, Opens env subject.project names d

variable {env : Environment} {s : Session}

/-! ## Steps that succeed -/

/-- Whether a computation has an outcome that is no error, in every session. -/
def Succeeds (x : CommandM Outcome) : Prop :=
  ∀ s, ∃ outcome s', x.run s = (.ok outcome, s') ∧ outcome.status ≠ .error

namespace Succeeds

theorem pure {outcome : Outcome} (h : outcome.status ≠ .error) :
    Succeeds (Pure.pure outcome) := fun s => ⟨outcome, s, rfl, h⟩

theorem withSnapshot {outcome : Outcome} (h : outcome.status ≠ .error) (project : Project)
    (snapshot : MapSnapshot) : Succeeds (Pure.pure (outcome.withSnapshot project snapshot)) :=
  pure h

theorem lift {α : Type} (x : Session.Run α) {f : α → CommandM Outcome} (h : ∀ a, Succeeds (f a)) :
    Succeeds ((liftM x : CommandM α) >>= f) := by
  intro s
  rw [Handler.run_bind_of_ok (Handler.run_lift x s)]
  exact h _ _

end Succeeds

namespace Handler

variable {options : Options}

theorem areaOutcome_status (input : String) (r : Area.Resolver) (s : MapSnapshot) :
    (areaOutcome env options input r s).status ≠ .error := by
  unfold areaOutcome
  simp only
  split
  · exact nofun
  · exact nofun

theorem findOutcome_status (query : String) (s : MapSnapshot) :
    (findOutcome env options query s).status ≠ .error := by
  unfold findOutcome
  split
  · exact nofun
  · exact nofun

theorem describeOutcome_status (query : String) (s : MapSnapshot) (graph : Cache.Graph) :
    (describeOutcome env options query s graph).status ≠ .error := by
  unfold describeOutcome
  split
  · exact nofun
  · exact nofun

/-! ## Payloads -/

/-- Whether reading a payload gives what the payload says, provided that this is not blank. -/
def Gives {α : Type} (read : Except CommandError α) (project : α → Option String)
    (said : Except Json.DecodeError Subject) : Prop :=
  ∀ P : Option String → Prop, (∃ p, read = .ok p ∧ P (project p)) ↔ ∃ subject, said = .ok subject ∧
    (∀ target ∈ subject.target, Text.trim target.toList ≠ []) ∧ P subject.project

theorem gives_mapError {α : Type} (x : Except Json.DecodeError α) (project : α → Option String) :
    Gives (x.mapError .payload) project (x.map fun p => ⟨project p, none⟩) := by
  intro P
  cases x with
  | error e => simp [Except.mapError, Except.map]
  | ok p => simp [Except.mapError, Except.map]

theorem gives_target (decoder : Json.Decoder TargetPayload) (what : String) (payload : Json) :
    Gives (target decoder what payload) TargetPayload.project
      ((decoder.ofValue payload).map fun p => ⟨p.project, some p.target⟩) := by
  intro P
  unfold target Lookup.requireQuery
  cases decoder.ofValue payload with
  | error e => simp [Except.map]
  | ok p => by_cases hblank : Text.trim p.target.toList = [] <;> simp [Except.map, hblank]

/-! ## Requests -/

/-- An action that reads its payload, opens the project and then succeeds is answered with an error
exactly if the request is misuse. -/
theorem status_eq_error_iff_of_steps {α : Type} {request : Request} {reading : CommandM α}
    {read : Except CommandError α} {project : α → Option String}
    {rest : α → Project → CommandM Outcome}
    (hperform : perform env request.options request.action request.payload =
      reading >>= fun p => openProject env (project p) >>= rest p)
    (hread : reading.run s = (read, s))
    (hgives : Gives read project (request.action.read request.payload))
    (hrest : ∀ p opened, Succeeds (rest p opened)) :
    (respond env request s).1.status = .error ↔ ¬ IsProper env request s.disk := by
  rw [IsProper, ← hgives fun requested => ∃ names, Opens env requested names s.disk]
  cases read with
  | error e =>
    have hrun := run_bind_of_error (f := fun p => openProject env (project p) >>= rest p) hread
    rw [← hperform] at hrun
    rw [respond_of_error hrun]
    simp [refusal, Response.ofError]
  | ok p =>
    have hrun := run_bind_of_ok (f := fun p => openProject env (project p) >>= rest p) hread
    rw [← hperform] at hrun
    rcases openProject_cases env (project p) s with
      ⟨e, hrefused, hnone⟩ | ⟨names, opened, s', hopened, hopens, -⟩
    · rw [run_bind_of_error hrefused] at hrun
      rw [respond_of_error hrun]
      simp only [refusal, Response.ofError, true_iff]
      rintro ⟨p', hp, names, hopens⟩
      obtain rfl := Except.ok.inj hp
      exact hnone names hopens
    · obtain ⟨outcome, s'', hrest, hstatus⟩ := hrest p opened s'
      rw [run_bind_of_ok hopened, hrest] at hrun
      rw [respond_of_ok hrun]
      exact ⟨fun herror => absurd herror hstatus, fun hnot => absurd ⟨p, rfl, names, hopens⟩ hnot⟩

/-- A request is answered with an error exactly if it is misuse. -/
theorem status_eq_error_iff (env : Environment) (request : Request) (s : Session) :
    (respond env request s).1.status = .error ↔ ¬ IsProper env request s.disk := by
  obtain ⟨action, payload, options⟩ := request
  cases action with
  | map =>
    exact status_eq_error_iff_of_steps (map_eq payload) (run_decode _ _ s) (gives_mapError _ _)
      fun p project => .lift _ fun snapshot => .pure nofun
  | areas =>
    exact status_eq_error_iff_of_steps (areas_eq payload) (run_decode _ _ s) (gives_mapError _ _)
      fun p project => .lift _ fun snapshot => .pure nofun
  | area =>
    exact status_eq_error_iff_of_steps (area_eq payload) (run_readTarget _ _ _ s)
      (gives_target _ _ _) fun p project => .lift _ fun snapshot => .lift _ fun r =>
        .withSnapshot (areaOutcome_status _ _ _) _ _
  | find =>
    exact status_eq_error_iff_of_steps (find_eq payload) (run_readTarget _ _ _ s)
      (gives_target _ _ _) fun p project => .lift _ fun snapshot =>
        .withSnapshot (findOutcome_status _ _) _ _
  | describe =>
    exact status_eq_error_iff_of_steps (describe_eq payload) (run_readTarget _ _ _ s)
      (gives_target _ _ _) fun p project => .lift _ fun snapshot => .lift _ fun d =>
        .withSnapshot (describeOutcome_status _ _ _) _ _
  | cacheStatus =>
    exact status_eq_error_iff_of_steps rfl (run_decode ProjectPayload.decoder payload s)
      (gives_mapError _ _) fun p project => .lift _ fun d => .pure nofun
  | cacheClear =>
    exact status_eq_error_iff_of_steps rfl (run_decode ProjectPayload.decoder payload s)
      (gives_mapError _ _) fun p project => .lift _ fun _ => .pure nofun

end Handler
end Gazetteer.Command
