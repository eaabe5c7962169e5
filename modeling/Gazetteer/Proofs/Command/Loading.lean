import Gazetteer.Command.MapCache
import Gazetteer.Proofs.Disk.Frame

/-!
# What loading a map does

A run that finds a fresh map that it can read returns it and notes the time of the check. Every
other run builds the map of the tree as it is, and leaves the disk that storing it leaves.
-/

namespace Gazetteer.Command

open Cache
open Disk (Change)
open Disk.Change (diskAfter)
open Session (Run)

namespace Session

variable {s : Session}

theorem attempt_eq {α : Type} (change : Change α) (s : Session) :
    attempt change s =
      ((Gate.attempt change s.disk).1, { s with disk := diskAfter change s.disk }) := by
  show ((Gate.attempt change s.disk).1, { s with disk := (Gate.attempt change s.disk).2 }) = _
  have hdisk : (Gate.attempt change s.disk).2 = diskAfter change s.disk := by
    unfold Gate.attempt diskAfter
    cases change s.disk <;> rfl
  rw [hdisk]

/-- Whether a run does no more than warn. -/
def OnlyWarns {α : Type} (run : Run α) : Prop := ∀ s, ∃ warnings, (run s).2 = { s with warnings }

theorem onlyWarns_pure {α : Type} (a : α) : OnlyWarns (pure a) := fun s => ⟨s.warnings, rfl⟩

theorem onlyWarns_warn (w : Warning) : OnlyWarns (warn w) := fun s => ⟨s.warnings ++ [w], rfl⟩

theorem onlyWarns_warnOnError {ε α : Type} (warning : ε → Warning) (result : Except ε α) :
    OnlyWarns (warnOnError warning result) := by
  cases result with
  | ok _ => exact onlyWarns_pure _
  | error e => exact onlyWarns_warn _

theorem OnlyWarns.bind {α β : Type} {x : Run α} {f : α → Run β} (h : OnlyWarns x)
    (hf : ∀ a, OnlyWarns (f a)) : OnlyWarns (x >>= f) := by
  intro s
  obtain ⟨_, hfirst⟩ := h s
  obtain ⟨warnings, hrest⟩ := hf (x s).1 (x s).2
  exact ⟨warnings, hrest.trans (by rw [hfirst])⟩

theorem OnlyWarns.forIn {β : Type} {step : β → Run (ForInStep PUnit)}
    (h : ∀ b, OnlyWarns (step b)) (items : List β) :
    OnlyWarns (forIn items PUnit.unit fun b _ => step b) := by
  induction items with
  | nil => exact onlyWarns_pure _
  | cons b items ih =>
    rw [List.forIn_cons]
    refine (h b).bind fun next => ?_
    cases next with
    | done _ => exact onlyWarns_pure _
    | yield _ => exact ih

/-- Making a resolver compiles the rules of its configuration. -/
theorem resolver_run (config : Area.Config) (s : Session) : ∃ warnings, resolver config s =
    (.ofConfig config, { s with warnings, compiled := s.compiled ++ [(config, s.disk)] }) := by
  have hwarn : ∀ w, OnlyWarns (do warn (.skipped w); pure (ForInStep.yield PUnit.unit)) :=
    fun w => (onlyWarns_warn _).bind fun _ => onlyWarns_pure _
  obtain ⟨warnings, hwarned⟩ := OnlyWarns.forIn hwarn (Area.Resolver.skipped config)
    { s with compiled := s.compiled ++ [(config, s.disk)] }
  exact ⟨warnings, Prod.ext rfl hwarned⟩

theorem resolver_eq (config : Area.Config) (s : Session) :
    (resolver config s).1 = .ofConfig config ∧ (resolver config s).2.disk = s.disk := by
  obtain ⟨warnings, hrun⟩ := resolver_run config s
  rw [hrun]
  exact ⟨rfl, rfl⟩

/-- Invalidating a cache compiles nothing. -/
theorem invalidate_compiled (gate : Gate) (root : Disk.Route) (now : UInt64) (s : Session) :
    (invalidate gate root now s).2.compiled = s.compiled := by
  have hrest : ∃ rest : Invalidation → Run Invalidation,
      invalidate gate root now = onDisk (gate.invalidate root now) >>= rest ∧
        ∀ result, OnlyWarns (rest result) := by
    refine ⟨_, rfl, fun result => (onlyWarns_warnOnError _ _).bind fun _ => ?_⟩
    refine OnlyWarns.bind (.forIn (fun asked => ?_) _) fun _ => onlyWarns_pure _
    exact (onlyWarns_warnOnError _ _).bind fun _ => onlyWarns_pure _
  obtain ⟨rest, heq, hwarns⟩ := hrest
  obtain ⟨warnings, hlast⟩ := hwarns _ (onDisk (gate.invalidate root now) s).2
  have hcompiled := congrArg Session.compiled hlast
  rw [heq]
  exact hcompiled

end Session

namespace MapSnapshot

/-- The map that a run returns without building one, if it does. -/
def found? (project : Project) (force : Bool) (d : Disk) : Option ProjectMap :=
  if force then none
  else stored? d project.root ((Gate.ofProject project.root).check d project.root)

/-- The map that a run builds. -/
def built (project : Project) (d : Disk) : ProjectMap :=
  build (.ofConfig project.config) ((Gate.ofProject project.root).snapshot d project.root)

/-- What storing the map that a run builds does. -/
def storing (project : Project) (now : UInt64) (d : Disk) : Change Unit :=
  store project.root (built project d)
    ((Gate.ofProject project.root).fingerprint d project.root) now

variable {project : Project} {force : Bool} {now : UInt64} {s : Session}

theorem loadOrBuild_eq (project : Project) (force : Bool) (now : UInt64) (s : Session) :
    loadOrBuild project force now s = (match found? project force s.disk with
      | some map => do
        discard (Session.attempt (Gate.markChecked project.root now))
        return ⟨map, true, [], none⟩
      | none => rebuild project
        ((Gate.ofProject project.root).check s.disk project.root).reasons now :
          Run MapSnapshot) s := rfl

theorem loadOrBuild_of_found {map : ProjectMap} (h : found? project force s.disk = some map) :
    loadOrBuild project force now s =
      (⟨map, true, [], none⟩,
        { s with disk := diskAfter (Gate.markChecked project.root now) s.disk }) := by
  rw [loadOrBuild_eq, h]
  show (_, (Session.attempt (Gate.markChecked project.root now) s).2) = _
  rw [Session.attempt_eq]

theorem loadOrBuild_of_not_found (h : found? project force s.disk = none) :
    loadOrBuild project force now s = rebuild project
      ((Gate.ofProject project.root).check s.disk project.root).reasons now s := by
  rw [loadOrBuild_eq, h]

/-- Builds the map of a project and stores it, with its fingerprint, in some way. -/
def rebuildBy (store : ProjectMap → Fingerprint → Change Unit) (project : Project)
    (reasons : List StaleReason) : Run MapSnapshot := do
  let gate := Gate.ofProject project.root
  let tree := gate.snapshot (← Session.currentDisk) project.root
  let map := build (← Session.resolver project.config) tree
  match ← Session.attempt (store map tree.fingerprint) with
  | .ok () => return ⟨map, false, reasons, none⟩
  | .error e =>
    Session.warn (.mapNotWritten e)
    return ⟨map, false, reasons, some e⟩

theorem rebuild_eq_rebuildBy (project : Project) (reasons : List StaleReason) (now : UInt64) :
    rebuild project reasons now = rebuildBy (fun map f => store project.root map f now) project
      reasons := rfl

/-- A map that is built is returned, whether it can be stored or not. -/
theorem rebuildBy_eq (store : ProjectMap → Fingerprint → Change Unit) (project : Project)
    (reasons : List StaleReason) (s : Session) :
    let change := store (built project s.disk)
      ((Gate.ofProject project.root).fingerprint s.disk project.root)
    (rebuildBy store project reasons s).1 = ⟨built project s.disk, false, reasons,
      match change s.disk with
      | .ok _ _ => none
      | .error e _ => some e⟩ ∧
    (rebuildBy store project reasons s).2.disk = diskAfter change s.disk := by
  intro change
  obtain ⟨hresolver, hdisk⟩ := Session.resolver_eq project.config s
  unfold rebuildBy
  simp only [Session.currentDisk, bind, StateT.bind, pure, Session.pure_eq, get,
    getThe, MonadStateOf.get, StateT.get, Session.attempt_eq, Gate.attempt]
  cases hpair : Session.resolver project.config s with
  | mk r session =>
    rw [hpair] at hresolver hdisk
    simp only at hresolver hdisk ⊢
    have hchange : store (build r ((Gate.ofProject project.root).snapshot s.disk project.root))
        ((Gate.ofProject project.root).snapshot s.disk project.root).fingerprint = change := by
      rw [hresolver]
      rfl
    rw [hchange, hdisk]
    unfold diskAfter
    cases change s.disk with
    | ok a d => exact ⟨by rw [hresolver]; rfl, rfl⟩
    | error e d => exact ⟨by rw [hresolver]; rfl, rfl⟩

theorem rebuild_eq (project : Project) (reasons : List StaleReason) (now : UInt64) (s : Session) :
    (rebuild project reasons now s).1 = ⟨built project s.disk, false, reasons,
      match storing project now s.disk s.disk with
      | .ok _ _ => none
      | .error e _ => some e⟩ ∧
    (rebuild project reasons now s).2.disk = diskAfter (storing project now s.disk) s.disk := by
  unfold storing
  rw [rebuild_eq_rebuildBy]
  exact rebuildBy_eq (fun map f => store project.root map f now) project reasons s

/-- Building a map compiles the rules of the configuration. -/
theorem rebuild_compiled (project : Project) (reasons : List StaleReason) (now : UInt64)
    (s : Session) : (rebuild project reasons now s).2.compiled =
      s.compiled ++ [(project.config, s.disk)] := by
  obtain ⟨warnings, hresolver⟩ := Session.resolver_run project.config s
  unfold rebuild
  simp only [Session.currentDisk, bind, StateT.bind, pure, Session.pure_eq, get, getThe,
    MonadStateOf.get, StateT.get, hresolver, Session.attempt_eq]
  generalize (Gate.attempt _ s.disk).1 = result
  cases result <;> rfl

/-- Loading a map compiles rules exactly if the map has to be built. -/
theorem loadOrBuild_compiled (project : Project) (force : Bool) (now : UInt64) (s : Session) :
    (loadOrBuild project force now s).2.compiled = s.compiled ++
      if found? project force s.disk = none then [(project.config, s.disk)] else [] := by
  cases h : found? project force s.disk with
  | none => rw [loadOrBuild_of_not_found h, rebuild_compiled, if_pos rfl]
  | some map => rw [loadOrBuild_of_found h, if_neg nofun, List.append_nil]

/-- A run that asks for the map of a project and stores the map that it builds in some way. -/
def loadOrBuildBy (store : ProjectMap → Fingerprint → Change Unit) (project : Project)
    (force : Bool) (now : UInt64) : Run MapSnapshot := do
  let d ← Session.currentDisk
  match found? project force d with
  | some map =>
    discard (Session.attempt (Gate.markChecked project.root now))
    return ⟨map, true, [], none⟩
  | none =>
    rebuildBy store project ((Gate.ofProject project.root).check d project.root).reasons

theorem loadOrBuild_eq_loadOrBuildBy (project : Project) (force : Bool) (now : UInt64) :
    loadOrBuild project force now =
      loadOrBuildBy (fun map f => store project.root map f now) project force now := rfl

theorem loadOrBuildBy_of_not_found (store : ProjectMap → Fingerprint → Change Unit)
    (h : found? project force s.disk = none) : loadOrBuildBy store project force now s =
      rebuildBy store project
        ((Gate.ofProject project.root).check s.disk project.root).reasons s := by
  show (match found? project force s.disk with
    | some map => do
      discard (Session.attempt (Gate.markChecked project.root now))
      return ⟨map, true, [], none⟩
    | none => rebuildBy store project
      ((Gate.ofProject project.root).check s.disk project.root).reasons : Run MapSnapshot) s = _
  rw [h]

end MapSnapshot
end Gazetteer.Command
