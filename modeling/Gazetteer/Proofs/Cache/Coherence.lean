import Gazetteer.Proofs.Cache.Fingerprint
import Gazetteer.Proofs.Cache.Pairing
import Gazetteer.Proofs.Command.Opening
import Gazetteer.Proofs.Scan.Files

/-!
# Maps that are used again

A history edits a project and asks for its map, in any order, and the cache can always be written. A
map that is used again is the map of the last run that built one, and the tree has the same
fingerprint as it had then. It need not be the map of the tree as it is: a file that is moved keeps
its time, and the fingerprint does not tell where it was. It is the map of the tree where every
change shows in the times of the files.
-/

namespace Gazetteer.Cache

open Command
open Disk (Route)

/-- Disks that come about from one with an empty cache while the cache can be written, with their
ledgers. A command opens the project and then asks for its map. -/
inductive Worked (names : List String) : Ledger → Disk → Prop
  | start {d} (vacant : IsVacant names d) : Worked names .empty d
  | edit {l d d'} (before : Worked names l d) (edit : Untouched names d d') : Worked names l d'
  | command {l s s' env requested project} (before : Worked names l s.disk)
    (opened : (openProject env requested).run s = (.ok project, s'))
    (root : project.root = .ofNames names) (force : Bool) (now : UInt64)
    (count : (⟨project.config, s'.disk⟩ : Build).IsCountable (.ofNames names))
    (stored : (MapSnapshot.loadOrBuild project force now s').1.storeError = none) :
    Worked names (l.afterLoad project force now s'.disk)
      (MapSnapshot.loadOrBuild project force now s').2.disk

variable {names : List String} {l : Ledger} {d : Disk}

theorem Worked.reach (h : Worked names l d) : Reach names l d := by
  induction h with
  | start hvacant => exact .start hvacant
  | edit _ hedit ih => exact ih.edit hedit
  | command _ hopened hroot force now hcount _ ih =>
    rw [← (openProject_ok hopened).1] at ih
    exact .load ih _ force now hroot hcount

/-! ## Ledgers of successful runs -/

/-- Both files are of the last build, which used the configuration that stood on its disk. -/
structure Ledger.IsFaithful (root : Route) (l : Ledger) : Prop where
  whole : l.torn = false
  build : ∀ b, l.kept = some b → b.config = .onDisk b.disk root ∧ b.IsCountable root

theorem Ledger.afterStore_of_ok {root : Route} {b : Build} {now : UInt64} {d' : Disk}
    (h : MapSnapshot.store root (b.map root) (b.fingerprint root) now d = .ok () d') :
    l.afterStore root b now d = ⟨some (b.fingerprint root), some b, false⟩ := by
  rw [MapSnapshot.store] at h
  obtain ⟨_, m, hsave, hrecord⟩ := Disk.Change.bind_eq_ok.1 h
  obtain ⟨recorded, hrecord⟩ := Disk.Change.discard_eq_ok.1 hrecord
  unfold Ledger.afterStore
  simp only [hsave, hrecord]

/-- A run that can store its map leaves the ledger as it is or enters its build. -/
theorem Ledger.afterLoad_of_stored {project : Project} {force : Bool} {now : UInt64} {s : Session}
    (h : (MapSnapshot.loadOrBuild project force now s).1.storeError = none) :
    let b : Build := ⟨project.config, s.disk⟩
    l.afterLoad project force now s.disk = l ∨
      l.afterLoad project force now s.disk =
        ⟨some (b.fingerprint project.root), some b, false⟩ := by
  intro b
  unfold Ledger.afterLoad
  cases hfound : MapSnapshot.found? project force s.disk with
  | some map => exact .inl rfl
  | none =>
    right
    rw [MapSnapshot.loadOrBuild_of_not_found hfound,
      (MapSnapshot.rebuild_eq project _ now s).1] at h
    cases hstoring : MapSnapshot.storing project now s.disk s.disk with
    | ok _ d' => exact Ledger.afterStore_of_ok hstoring
    | error e d' =>
      rw [hstoring] at h
      cases h

theorem Worked.isFaithful (h : Worked names l d) : l.IsFaithful (.ofNames names) := by
  induction h with
  | start => exact ⟨rfl, nofun⟩
  | edit _ _ ih => exact ih
  | command _ hopened hroot force now hcount hstored ih =>
    obtain ⟨hdisk, hconfig⟩ := openProject_ok hopened
    rcases Ledger.afterLoad_of_stored hstored with hsame | hentered
    · rw [hsame]
      exact ih
    · rw [hentered]
      refine ⟨rfl, ?_⟩
      rintro _ ⟨⟩
      exact ⟨by rw [hconfig, hdisk, hroot], hcount⟩

/-! ## Changes that show -/

/-- Whether what has changed between two builds shows in the times of the files: a file that the
later build has and the earlier one had not is later than all that this one had, and where the
configuration differs its file has another time, or stands at one of the two builds only and has a
time. -/
structure Build.Shows (root : Route) (old new : Build) : Prop where
  files : ∀ f ∈ (new.tree root).files, f ∈ (old.tree root).files ∨
    ∀ g ∈ (old.tree root).files, g.modified < f.modified
  settings : old.config = new.config ∨
    ((Gate.ofProject root).settingsTime old.disk root).getD 0 ≠
      ((Gate.ofProject root).settingsTime new.disk root).getD 0

namespace Build

variable {root : Route} {old new : Build}

theorem increasing_tree (b : Build) (root : Route) : Scan.InOrder (b.tree root).files :=
  Scan.increasing_files b.disk root _

theorem fingerprint_eq (b : Build) (root : Route) : b.fingerprint root =
    .ofTimes ((b.tree root).files.map Scan.SourceFile.modified)
      ((Gate.ofProject root).settingsTime b.disk root) := rfl

theorem map_eq_of_files (hconfig : old.config = new.config)
    (hfiles : (old.tree root).files = (new.tree root).files) : old.map root = new.map root := by
  unfold Build.map MapSnapshot.build
  rw [hconfig, hfiles]

/-- Trees with one fingerprint have the same files, if changes show. -/
theorem Shows.files_eq (h : old.Shows root new) (hold : old.IsCountable root)
    (hnew : new.IsCountable root) (hsame : old.fingerprint root = new.fingerprint root) :
    (old.tree root).files = (new.tree root).files := by
  rw [fingerprint_eq, fingerprint_eq] at hsame
  have hlength := Fingerprint.length_eq_of_eq hsame (by rwa [List.length_map])
    (by rwa [List.length_map])
  rw [List.length_map, List.length_map] at hlength
  refine (Scan.eq_of_subset (new.increasing_tree root) (old.increasing_tree root) ?_
    (Nat.le_of_eq hlength)).symm
  intro f hf
  rcases h.files f hf with hkept | hlater
  · exact hkept
  · -- As there are as many files as before, there is one that is earlier.
    obtain ⟨g, hg⟩ := List.exists_mem_of_length_pos
      (hlength ▸ List.length_pos_of_mem hf : 0 < (old.tree root).files.length)
    have hpositive : 0 < f.modified := UInt64.lt_of_le_of_lt UInt64.zero_le (hlater g hg)
    refine absurd hsame (Fingerprint.ne_of_later (List.mem_map_of_mem hf) hpositive ?_)
    intro t ht
    obtain ⟨g, hg, rfl⟩ := List.mem_map.1 ht
    exact hlater g hg

theorem Shows.map_eq (h : old.Shows root new) (hold : old.IsCountable root)
    (hnew : new.IsCountable root) (hsame : old.fingerprint root = new.fingerprint root) :
    old.map root = new.map root := by
  have hfiles := h.files_eq hold hnew hsame
  refine map_eq_of_files ?_ hfiles
  rcases h.settings with hconfig | htime
  · exact hconfig
  · rw [fingerprint_eq, fingerprint_eq, hfiles] at hsame
    exact absurd (Fingerprint.settings_eq_of_eq hsame) htime

end Build

/-! ## Hits -/

/-- A run answers from the cache when it finds a map there. -/
theorem cacheHit_iff {project : Project} {force : Bool} {now : UInt64} {s : Session} :
    (MapSnapshot.loadOrBuild project force now s).1.cacheHit = true ↔
      ∃ map, MapSnapshot.found? project force s.disk = some map ∧
        (MapSnapshot.loadOrBuild project force now s).1.map = map := by
  cases hfound : MapSnapshot.found? project force s.disk with
  | some map => simp [MapSnapshot.loadOrBuild_of_found hfound]
  | none =>
    rw [MapSnapshot.loadOrBuild_of_not_found hfound, (MapSnapshot.rebuild_eq project _ now s).1]
    simp

/-- A run that is forced builds the map of the tree as it is. -/
theorem forced_map (project : Project) (now : UInt64) (s : Session) :
    (MapSnapshot.loadOrBuild project true now s).1.map =
      (⟨project.config, s.disk⟩ : Build).map project.root := by
  rw [MapSnapshot.loadOrBuild_of_not_found rfl, (MapSnapshot.rebuild_eq project _ now s).1]
  rfl

theorem Ledger.Describes.found_build {project : Project} {map : ProjectMap}
    (h : l.Describes names d) (hroot : project.root = .ofNames names)
    (hfound : MapSnapshot.found? project false d = some map) :
    ∃ b, l.kept = some b ∧ b.map (.ofNames names) = map ∧
      l.recorded = some ((Gate.ofProject (.ofNames names)).fingerprint d (.ofNames names)) := by
  unfold MapSnapshot.found? MapSnapshot.stored? at hfound
  rw [hroot, if_neg Bool.false_ne_true] at hfound
  split at hfound
  next hfresh =>
    obtain ⟨b, hkept, hmap⟩ := h.map_of_load? hfound
    exact ⟨b, hkept, hmap, (h.isFresh_iff.1 hfresh).2⟩
  next => cases hfound

/-- Where both files can be read and the tree has the fingerprint on record, the stored map is used.
-/
theorem Ledger.Describes.hit {project : Project} {s : Session} (h : l.Describes names s.disk)
    (hroot : project.root = .ofNames names)
    (hmeta : (s.disk.read (metaRoute (.ofNames names))).isOk = true)
    (hmap : (s.disk.read (Kind.map.route (.ofNames names))).isOk = true)
    (hrecorded : l.recorded =
      some ((Gate.ofProject (.ofNames names)).fingerprint s.disk (.ofNames names)))
    {b : Build} (hkept : l.kept = some b) (now : UInt64) :
    (MapSnapshot.loadOrBuild project false now s).1 = ⟨b.map (.ofNames names), true, [], none⟩ := by
  obtain ⟨b', hkept', hload⟩ := h.exists_load? hmap
  obtain rfl := Option.some.inj (hkept'.symm.trans hkept)
  have hfound : MapSnapshot.found? project false s.disk = some (b'.map (.ofNames names)) := by
    unfold MapSnapshot.found? MapSnapshot.stored?
    rw [hroot, if_neg Bool.false_ne_true,
      if_pos (h.isFresh_iff.2 ⟨h.exists_stored hmeta, hrecorded⟩)]
    exact hload
  rw [MapSnapshot.loadOrBuild_of_found hfound]

/-- A map that is used again is the map of the last build, whose tree had the fingerprint that the
tree has now. So it is the map that a forced run would build exactly if the two builds have one map,
and it is whenever every change since then shows. -/
theorem reused_map_is_of_last_build {s s' : Session} {env : Environment} {requested : Option String}
    {project : Project} {now : UInt64} (h : Worked names l s.disk)
    (hopened : (openProject env requested).run s = (.ok project, s'))
    (hroot : project.root = .ofNames names)
    (hhit : (MapSnapshot.loadOrBuild project false now s').1.cacheHit = true) :
    let root : Route := .ofNames names
    let present : Build := ⟨project.config, s'.disk⟩
    let reused := (MapSnapshot.loadOrBuild project false now s').1.map
    let forced := (MapSnapshot.loadOrBuild project true now s').1.map
    ∃ last, l.kept = some last ∧ last.config = .onDisk last.disk root ∧ reused = last.map root ∧
      last.fingerprint root = present.fingerprint root ∧
      (reused = forced ↔ last.map root = present.map root) ∧
      (last.Shows root present → present.IsCountable root → reused = forced) := by
  intro root present reused forced
  obtain ⟨hdisk, -⟩ := openProject_ok hopened
  obtain ⟨map, hfound, hmap⟩ := cacheHit_iff.1 hhit
  have hdescribes : l.Describes names s'.disk := hdisk ▸ h.reach.describes
  obtain ⟨last, hkept, hlast, hrecorded⟩ := hdescribes.found_build hroot hfound
  obtain ⟨hconfig, hcount⟩ := h.isFaithful.build last hkept
  have hreused : reused = last.map root := hmap.trans hlast.symm
  have hforced : forced = present.map root := (forced_map project now s').trans (by rw [hroot])
  have hsame : last.fingerprint root = present.fingerprint root :=
    h.reach.isWhole h.isFaithful.whole last _ hkept hrecorded
  refine ⟨last, hkept, hconfig, hreused, hsame, by rw [hreused, hforced], fun hshows hpresent => ?_⟩
  rw [hreused, hforced]
  exact hshows.map_eq hcount hpresent hsame

/-! ## A file that is moved

The project of one file has its map stored. When the file is moved the fingerprint stays, and a run
still answers with the map in which the file stands at its old place. -/

namespace Sample

def env : Environment := ⟨"/p", .terminal, none, 6, 0⟩

/-- The disk after the file was moved, which does not change its time. -/
def moved : Disk := (stored.erase ["p", "a.ts"]).put ["p", "b.ts"] (.file (.text "") 1000000)

theorem worked_stored : Worked ["p"] firstLedger stored :=
  have hopened : (openProject env none).run (.ofDisk disk) = (.ok project, .ofDisk disk) := rfl
  .command (.start (.of_entries (by decide) (by decide))) hopened rfl false 5
    (by decide) (by decide)

theorem worked_moved : Worked ["p"] firstLedger moved := by
  have hclear := worked_stored.reach.describes.clear
  have herased : Untouched ["p"] stored (stored.erase ["p", "a.ts"]) :=
    .of_place hclear (by decide) (Disk.parting_erase (by decide)) (Disk.node?_erase (by decide))
      nofun
  exact (worked_stored.edit herased).edit
    (.of_place herased.clear (by decide) (Disk.parting_put (by decide) _)
      (Disk.node?_put (by decide) _) nofun)

theorem kept_firstLedger : firstLedger.kept = some ⟨.default, disk⟩ := rfl

end Sample

/-- A second run uses the map of the first one again. -/
theorem first_map_is_reused :
    (MapSnapshot.loadOrBuild Sample.project false 6 (.ofDisk Sample.stored)).1.cacheHit = true ∧
      (MapSnapshot.loadOrBuild Sample.project false 6 (.ofDisk Sample.stored)).1.map =
        (MapSnapshot.loadOrBuild Sample.project true 6 (.ofDisk Sample.stored)).1.map := by
  have hworked : Worked ["p"] Sample.firstLedger (Session.ofDisk Sample.stored).disk :=
    Sample.worked_stored
  have hhit := hworked.reach.describes.hit (rfl : Sample.project.root = _) (by decide)
    (by decide) (by decide) Sample.kept_firstLedger 6
  have hcacheHit := congrArg MapSnapshot.cacheHit hhit
  have hopened : (openProject Sample.env none).run (.ofDisk Sample.stored) =
      (.ok Sample.project, .ofDisk Sample.stored) := rfl
  obtain ⟨last, hlast, -, -, -, -, hshows⟩ :=
    reused_map_is_of_last_build hworked hopened rfl hcacheHit
  obtain rfl := Option.some.inj (Sample.kept_firstLedger.symm.trans hlast)
  exact ⟨hcacheHit, hshows ⟨by decide, .inl rfl⟩ (by decide)⟩

/-- A map that is used again need not be the one that a forced run builds. -/
theorem exists_stale_hit : ∃ (l : Ledger) (s s' : Session) (env : Environment) (project : Project)
    (now : UInt64), Worked ["p"] l s.disk ∧
      (openProject env none).run s = (.ok project, s') ∧ project.root = .ofNames ["p"] ∧
      (MapSnapshot.loadOrBuild project false now s').1.cacheHit = true ∧
      (MapSnapshot.loadOrBuild project false now s').1.map ≠
        (MapSnapshot.loadOrBuild project true now s').1.map := by
  have hworked : Worked ["p"] Sample.firstLedger (Session.ofDisk Sample.moved).disk :=
    Sample.worked_moved
  have hhit := hworked.reach.describes.hit (rfl : Sample.project.root = _) (by decide)
    (by decide) (by decide) Sample.kept_firstLedger 6
  refine ⟨_, .ofDisk Sample.moved, .ofDisk Sample.moved, Sample.env, Sample.project, 6, hworked,
    rfl, rfl, congrArg MapSnapshot.cacheHit hhit, ?_⟩
  rw [hhit, forced_map]
  intro heq
  have hpaths : ((⟨.default, Sample.disk⟩ : Build).map Sample.root).filePaths ≠
      ((⟨.default, Sample.moved⟩ : Build).map Sample.root).filePaths := by decide
  exact hpaths (congrArg ProjectMap.filePaths heq)

end Gazetteer.Cache
