import Gazetteer.Proofs.Cache.Serving
import Gazetteer.Proofs.Command.Answering

/-!
# Answers from the cache

After a request on a map has stored the map of a project, and while only such requests change the
disk, every further one is answered as it would be with an empty cache. The map comes from the
cache, unless the request wants a new one.
-/

namespace Gazetteer.Command

open Cache (Detached IsDirect IsEmptied Serves place storeFiles)
open Disk (Houses IsSolid Route Storing Toward)

/-- What a reader gets from an outcome. -/
structure Outcome.Agrees (o o' : Outcome) : Prop where
  status : o.status = o'.status
  message : o.message = o'.message
  data : o.data = o'.data

namespace Handler

/-- Disks on which the map of a project was stored by a request, and which only requests on this map
have changed since. Their writes may fail. -/
inductive Kept (names : List String) : Disk → Prop
  | stored {env request q s s' project} (tree : s.disk.IsTree) (direct : IsDirect names s.disk)
    (asked : question? env request.options request.action request.payload = some (.ok q))
    (opened : (openProject env q.project).run s = (.ok project, s'))
    (root : project.root = .ofNames names)
    (built : (MapSnapshot.loadOrBuild project q.force env.now s').1.cacheHit = false)
    (stored : (MapSnapshot.loadOrBuild project q.force env.now s').1.storeError = none) :
    Kept names (respond env request s).2.disk
  | later {env request q s s' project} (before : Kept names s.disk)
    (asked : question? env request.options request.action request.payload = some (.ok q))
    (opened : (openProject env q.project).run s = (.ok project, s'))
    (root : project.root = .ofNames names) : Kept names (respond env request s).2.disk

section

variable {env : Environment} {options : Options} {q : Question} {s s' : Session}
  {project : Project} {names home : List String} {d e : Disk}

theorem reply_of_opened (h : (openProject env q.project).run s = (.ok project, s')) :
    reply env (.ok q) s =
      (answer env ((q.outcome project (MapSnapshot.loadOrBuild project q.force env.now s').1
        (graphOf (MapSnapshot.loadOrBuild project q.force env.now s').2.disk
          project.root)).withSnapshot project
            (MapSnapshot.loadOrBuild project q.force env.now s').1),
        (MapSnapshot.loadOrBuild project q.force env.now s').2.disk) := by
  cases hload : MapSnapshot.loadOrBuild project q.force env.now s' with
  | mk snapshot last => simp only [reply, h, hload]

theorem respond_disk {request : Request}
    (hasked : question? env request.options request.action request.payload = some (.ok q))
    (hopened : (openProject env q.project).run s = (.ok project, s')) :
    (respond env request s).2.disk =
      (MapSnapshot.loadOrBuild project q.force env.now s').2.disk := by
  have hreply := congrArg Prod.snd (respond_eq hasked s)
  rw [reply_of_opened hopened] at hreply
  exact hreply

theorem isSolid_of_opened (h : (openProject env q.project).run s = (.ok project, s'))
    (hroot : project.root = .ofNames names) : s.disk.IsSolid names := by
  obtain ⟨-, hfollow, -⟩ := exists_openProject_iff.1 ⟨project, s', h, hroot⟩
  exact Disk.isSolid_of_follow hfollow

theorem Kept.serves (h : Kept names d) : ∃ home, Serves names home d := by
  induction h with
  | stored htree hdirect hasked hopened hroot hbuilt hstored =>
    obtain ⟨hdisk, hconfig⟩ := openProject_ok hopened
    have hsolid := isSolid_of_opened hopened hroot
    rw [hroot] at hconfig
    rw [← hdisk] at htree hdirect hsolid hconfig
    rw [respond_disk hasked hopened]
    obtain ⟨home, hserves, -⟩ :=
      Cache.serves_of_loadOrBuild htree hdirect hsolid hroot hconfig hbuilt hstored
    exact ⟨home, hserves⟩
  | later _ hasked hopened hroot ih =>
    obtain ⟨hdisk, hconfig⟩ := openProject_ok hopened
    obtain ⟨home, hserves⟩ := ih
    rw [hroot] at hconfig
    rw [← hdisk] at hserves hconfig
    rw [respond_disk hasked hopened]
    exact ⟨home, hserves.loadOrBuild hroot hconfig _ _⟩

/-! ## What answers depend on -/

/-- An answer depends on the configuration, the map and the import graph only. -/
def Respects (q : Question) : Prop :=
  ∀ {project project' snapshot snapshot'} graph, project.config = project'.config →
    snapshot.map = snapshot'.map →
      (q.outcome project snapshot graph).Agrees (q.outcome project' snapshot' graph)

theorem respects_of_question {action : Action} {payload : Json}
    (h : question? env options action payload = some (.ok q)) : Respects q := by
  cases action with
  | map =>
    obtain ⟨p, rfl⟩ := exists_of_map_ok (Option.some.inj h)
    intro project project' snapshot snapshot' graph _ hmap
    refine ⟨rfl, rfl, ?_⟩
    show snapshot.map.encode = snapshot'.map.encode
    rw [hmap]
  | areas =>
    obtain ⟨p, rfl⟩ := exists_of_map_ok (Option.some.inj h)
    intro project project' snapshot snapshot' graph _ hmap
    refine ⟨rfl, rfl, ?_⟩
    show AreasOutput.encode ⟨snapshot.map.areas⟩ = AreasOutput.encode ⟨snapshot'.map.areas⟩
    rw [hmap]
  | area =>
    obtain ⟨p, rfl⟩ := exists_of_map_ok (Option.some.inj h)
    intro project project' snapshot snapshot' graph hconfig hmap
    simp only [areaOutcome, hconfig, hmap]
    exact ⟨rfl, rfl, rfl⟩
  | find =>
    obtain ⟨p, rfl⟩ := exists_of_map_ok (Option.some.inj h)
    intro project project' snapshot snapshot' graph _ hmap
    simp only [findOutcome, missingFile, hmap]
    exact ⟨rfl, rfl, rfl⟩
  | describe =>
    obtain ⟨p, rfl⟩ := exists_of_map_ok (Option.some.inj h)
    intro project project' snapshot snapshot' graph _ hmap
    simp only [describeOutcome, missingFile, hmap]
    exact ⟨rfl, rfl, rfl⟩
  | cacheStatus => cases h
  | cacheClear => cases h

/-! ## Two disks -/

/-- A request that opens a project where its cache is empty opens it with the cache. -/
theorem exists_opened (hserves : Serves names home d) (hempty : IsEmptied home d e) {t t' : Session}
    {project' : Project} (ht : t.disk = e) (hs : s.disk = d)
    (hopened : (openProject env q.project).run t = (.ok project', t'))
    (hroot : project'.root = .ofNames names) : ∃ project s',
      (openProject env q.project).run s = (.ok project, s') ∧ project.root = .ofNames names := by
  have hsolid := isSolid_of_opened hopened hroot
  obtain ⟨hpath, hfollow, -⟩ := exists_openProject_iff.1 ⟨project', t', hopened, hroot⟩
  rw [ht] at hsolid hfollow
  have hearlier : Cache.Earlier names home d e := ⟨hempty.tree, hsolid, hempty.storing⟩
  have hstands : d.node? names ≠ none := by
    rw [(hearlier.node? hserves.houses List.prefix_rfl).2]
    exact nofun
  have hresolve : e.resolve (q.project.getD env.root) = d.resolve (q.project.getD env.root) := by
    unfold Disk.resolve
    rw [hempty.workingFolder]
  rw [hresolve] at hfollow
  refine exists_openProject_iff.2 ⟨hpath, ?_, ?_⟩
  · rw [hs]
    exact hempty.storing.follow hstands hfollow
  · rw [hs]
    exact hstands

/-- After runs with and without the cache the import graph is the same. -/
theorem graphOf_eq (hserves : Serves names home d) (hempty : IsEmptied home d e) {t : Session}
    {project' : Project} (hs : s.disk = d) (ht : t.disk = e) (hroot : project.root = .ofNames names)
    (hroot' : project'.root = .ofNames names) (force : Bool) (now : UInt64) :
    graphOf (MapSnapshot.loadOrBuild project force now s).2.disk (.ofNames names) =
      graphOf (MapSnapshot.loadOrBuild project' force now t).2.disk (.ofNames names) := by
  have hgraph : Cache.Kind.graph.fileName ∉ storeFiles := by decide
  obtain ⟨hstoring, htoward⟩ := Cache.tending_loadOrBuild hroot force now s
    (hs.symm ▸ Toward.refl hserves.houses : Toward (place names) home storeFiles d s.disk)
  obtain ⟨hstoring', htoward'⟩ := Cache.tending_loadOrBuild hroot' force now t
    (ht.symm ▸ hempty.toward hserves.houses : Toward (place names) home storeFiles d t.disk)
  rw [hs] at hstoring
  rw [ht] at hstoring'
  unfold graphOf
  rw [Cache.load?_of_toward hgraph htoward fun _ _ => hstoring.toFiling]
  rw [Cache.load?_of_toward hgraph htoward' fun _ hread =>
    (hempty.filing_back hserves.houses hgraph hread).trans hstoring'.toFiling]

end

namespace Sample

def mapping (force : Bool) : Request := ⟨.map, .object [("force", .bool force)], .none⟩

/-- What a request for the map wants. -/
def wanted (force : Bool) : Question := ⟨none, force, fun _ s _ => mapOutcome s⟩

theorem question?_mapping (force : Bool) : question? Cache.Sample.env (mapping force).options
    (mapping force).action (mapping force).payload = some (.ok (wanted force)) := by
  cases force <;> rfl

/-- Whether a request for the map is answered from the cache. -/
def hit (force : Bool) (d : Disk) : Option Bool :=
  (respond Cache.Sample.env (mapping force) (.ofDisk d)).1.facts.cacheHit

/-- The disk after a request for the map. -/
def after (d : Disk) : Disk := (respond Cache.Sample.env (mapping false) (.ofDisk d)).2.disk

def stored : Disk := after Cache.Sample.disk

/-- Whether a request for the map opens a project at `p` and stores the map that it builds. -/
def IsStored (d : Disk) : Prop :=
  ∃ project s, (openProject Cache.Sample.env none).run (.ofDisk d) = (.ok project, s) ∧
    project.root = .ofNames ["p"] ∧
    (MapSnapshot.loadOrBuild project false 6 s).1.cacheHit = false ∧
    (MapSnapshot.loadOrBuild project false 6 s).1.storeError = none

theorem openProject_disk : (openProject Cache.Sample.env none).run (.ofDisk Cache.Sample.disk) =
    (.ok Cache.Sample.project, .ofDisk Cache.Sample.disk) := rfl

theorem loadOrBuild_disk :
    let snapshot :=
      (MapSnapshot.loadOrBuild Cache.Sample.project false 6 (.ofDisk Cache.Sample.disk)).1
    snapshot.cacheHit = false ∧ snapshot.storeError = none := by
  decide

theorem kept_stored : Kept ["p"] stored :=
  .stored (s := .ofDisk Cache.Sample.disk) (by decide) (.of_links (by decide) rfl)
    (question?_mapping false) openProject_disk rfl loadOrBuild_disk.1 loadOrBuild_disk.2

theorem isEmptied_disk : IsEmptied ["p", ".atlas", "cache"] stored Cache.Sample.disk := by
  have hopened := openProject_disk
  obtain ⟨hbuilt, hsaved⟩ := loadOrBuild_disk
  obtain ⟨-, hconfig⟩ := openProject_ok hopened
  have hsolid : Cache.Sample.disk.IsSolid ["p"] := isSolid_of_opened (q := wanted false) hopened rfl
  have hstored : stored =
      (MapSnapshot.loadOrBuild Cache.Sample.project false 6 (.ofDisk Cache.Sample.disk)).2.disk :=
    respond_disk (question?_mapping false) hopened
  obtain ⟨home, hserves, hstoring⟩ := Cache.serves_of_loadOrBuild
    (s := .ofDisk Cache.Sample.disk) (by decide) (.of_links (by decide) rfl) hsolid
    (rfl : Cache.Sample.project.root = _) hconfig hbuilt hsaved
  rw [← hstored] at hserves hstoring
  have hhome : stored.follow (.ofNames (place ["p"])) = .ok ["p", ".atlas", "cache"] := by
    decide
  obtain rfl := Except.ok.inj (hserves.houses.follow.symm.trans hhome)
  exact ⟨by decide, hstoring, fun _ => Disk.isSole_of_numbers rfl _, by decide, by decide⟩

def clearing : Request := ⟨.cacheClear, .object [], .none⟩

def cleared : Disk := (respond Cache.Sample.env clearing (.ofDisk stored)).2.disk

/-- The draft of the metadata is a link to the map. -/
def crossed : Disk where
  nodes := .ofList [(["p"], .folder), (["p", ".atlas"], .folder),
    (["p", ".atlas", "cache"], .folder),
    (["p", ".atlas", "cache", "meta.json.tmp"], .link "map.json"),
    (["p", "a.ts"], .file (.text "") 1000000)]
  faults := []
  workingFolder := []

/-- The ignore file is a link through the cache folder, which is not there yet. -/
def roundabout : Disk where
  nodes := .ofList [(["p"], .folder), (["p", ".gitignore"], .link ".atlas/cache/../../rules"),
    (["p", "a.ts"], .file (.text "") 1000000), (["p", "rules"], .file (.text "a.ts") 1000000)]
  faults := []
  workingFolder := []

end Sample

end Handler
end Gazetteer.Command
