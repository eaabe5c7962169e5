import Gazetteer.Command.Project
import Gazetteer.Proofs.Disk.Leading

/-!
# The configuration of a project

A project that was opened has the configuration that stood on the disk, or the default where none
stood that can be used. Opening a project changes nothing.
-/

namespace Gazetteer

open Command
open Disk (Route)

/-- The configuration that a project gets from a disk. -/
def Area.Config.onDisk (d : Disk) (root : Route) : Area.Config :=
  match tryLoad d root with
  | .ok (some config) => config
  | .ok none | .error _ => .default

namespace Command

/-- Whether the project that is requested is there, and at which place. -/
structure Opens (env : Environment) (requested : Option String) (names : List String) (d : Disk) :
    Prop where
  path : requested.getD env.root ≠ ""
  follow : d.follow (d.resolve (requested.getD env.root)) = .ok names
  stands : d.node? names ≠ none

variable {env : Environment} {requested : Option String} {s s' : Session} {project : Project}
  {names : List String}

/-- A project opens where its path leads to something, with the configuration that stands there. -/
theorem openProject_cases (env : Environment) (requested : Option String) (s : Session) :
    (∃ e, (openProject env requested).run s = (.error e, s) ∧
        ∀ names, ¬ Opens env requested names s.disk) ∨
      ∃ names project s', (openProject env requested).run s = (.ok project, s') ∧
        Opens env requested names s.disk ∧ s'.disk = s.disk ∧ project.root = .ofNames names ∧
          project.config = .onDisk s.disk (.ofNames names) := by
  unfold openProject
  simp only [ExceptT.run, bind, ExceptT.bind, ExceptT.mk, StateT.bind, ExceptT.bindCont, liftM,
    monadLift, MonadLift.monadLift, ExceptT.lift, Session.currentDisk, Functor.map, StateT.map, get,
    getThe, MonadStateOf.get, StateT.get, pure, Session.pure_eq]
  by_cases hpath : requested.getD env.root = ""
  · simp only [hpath]
    exact .inl ⟨_, rfl, fun names h => h.path hpath⟩
  simp only [if_neg hpath]
  cases hfollow : s.disk.follow (s.disk.resolve (requested.getD env.root)) with
  | error e =>
    have habsent : s.disk.isPresent (s.disk.resolve (requested.getD env.root)) = false := by
      unfold Disk.isPresent Disk.status
      rw [hfollow]
      rfl
    simp only [habsent]
    refine .inl ⟨_, rfl, fun names h => ?_⟩
    cases hfollow.symm.trans h.follow
  | ok names =>
    have hpresent := Disk.isPresent_of_follow hfollow
    by_cases hnode : s.disk.node? names = none
    · have habsent : s.disk.isPresent (s.disk.resolve (requested.getD env.root)) = false := by
        simpa [hnode] using hpresent
      simp only [habsent]
      refine .inl ⟨_, rfl, fun place h => ?_⟩
      obtain rfl := Except.ok.inj (hfollow.symm.trans h.follow)
      exact h.stands hnode
    · simp only [hpresent.2 hnode, Bool.not_true, Bool.false_eq_true, if_false]
      have hopens : Opens env requested names s.disk := ⟨hpath, hfollow, hnode⟩
      right
      cases hload : Area.Config.tryLoad s.disk (Route.ofNames names) with
      | error e =>
        have hconfig : Area.Config.onDisk s.disk (.ofNames names) = .default := by
          simp only [Area.Config.onDisk, hload]
        exact ⟨names, _, _, rfl, hopens, rfl, rfl, hconfig.symm⟩
      | ok config? =>
        have hconfig : Area.Config.onDisk s.disk (.ofNames names) = config?.getD .default := by
          simp only [Area.Config.onDisk, hload]
          cases config? <;> rfl
        cases config? <;> exact ⟨names, _, _, rfl, hopens, rfl, rfl, hconfig.symm⟩

theorem exists_opens_of_openProject (h : (openProject env requested).run s = (.ok project, s')) :
    ∃ names, Opens env requested names s.disk ∧ s'.disk = s.disk ∧ project.root = .ofNames names ∧
      project.config = .onDisk s.disk (.ofNames names) := by
  rcases openProject_cases env requested s with ⟨e, herror, -⟩ | ⟨names, opened, s'', hok, hrest⟩
  · rw [h] at herror
    cases herror
  · rw [h] at hok
    cases hok
    exact ⟨names, hrest⟩

theorem openProject_ok (h : (openProject env requested).run s = (.ok project, s')) :
    s'.disk = s.disk ∧ project.config = .onDisk s.disk project.root := by
  obtain ⟨names, -, hdisk, hroot, hconfig⟩ := exists_opens_of_openProject h
  exact ⟨hdisk, hroot ▸ hconfig⟩

/-- A project is opened where its path leads to something. -/
theorem exists_openProject_iff : (∃ project s',
    (openProject env requested).run s = (.ok project, s') ∧ project.root = .ofNames names) ↔
      Opens env requested names s.disk := by
  constructor
  · rintro ⟨project, s', h, hroot⟩
    obtain ⟨place, hopens, -, hplace, -⟩ := exists_opens_of_openProject h
    obtain rfl := Disk.Route.ofNames_injective (hplace.symm.trans hroot)
    exact hopens
  · intro h
    rcases openProject_cases env requested s with ⟨e, -, hnone⟩ | ⟨place, project, s', hok, hopens,
      -, hroot, -⟩
    · exact absurd h (hnone names)
    · obtain rfl := Except.ok.inj (hopens.follow.symm.trans h.follow)
      exact ⟨project, s', hok, hroot⟩

end Command
end Gazetteer
