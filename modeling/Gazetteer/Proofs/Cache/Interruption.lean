import Gazetteer.Proofs.Cache.Edit

/-!
# Edits while a map is made

A command reads the configuration, takes a snapshot of the tree, stores the map of that snapshot and
then records its fingerprint. One file may be edited meanwhile. An edit after the snapshot leaves
the record stale. An edit before the snapshot is part of it, except that the configuration has been
read already: the map is made with the old one, and the fingerprint has the time of the new one.
-/

namespace Gazetteer.Cache

open Command
open Disk (Change Clear Confined Patch Route)
open Session (Run)

variable {names : List String} {d d' : Disk} {patch : Patch}

/-! ## Runs with an edit in between -/

/-- The moments between the snapshot and the record of its fingerprint, by what has just been done.
-/
inductive Moment where
  | snapshot
  | folders
  | draft
  | map
deriving DecidableEq

/-- A disk at a moment, where the edit comes at a moment. -/
def editedAt (moment : Moment) (patch : Patch) (reached : Moment) (d : Disk) : Disk :=
  if reached = moment then d.patched patch else d

/-- Stores a map while the disk is edited at a moment. -/
def storeDuring (root : Route) (map : ProjectMap) (f : Fingerprint) (now : UInt64) (moment : Moment)
    (patch : Patch) : Change Unit := do
  modify (editedAt moment patch .snapshot)
  Change.makeFolders (Kind.map.route root).parent
  modify (editedAt moment patch .folders)
  Change.writeFile (Disk.draftRoute (Kind.map.route root))
    (Envelope.encode ⟨artifactFormat, .map, now, map.encode⟩).pretty now
  modify (editedAt moment patch .draft)
  Change.rename (Disk.draftRoute (Kind.map.route root)) (Kind.map.route root)
  modify (editedAt moment patch .map)
  discard (Gate.recordFingerprint root f now)

/-- Without an edit a map is stored as ever. -/
theorem storeDuring_nil (root : Route) (map : ProjectMap) (f : Fingerprint) (now : UInt64)
    (moment : Moment) :
    storeDuring root map f now moment [] = MapSnapshot.store root map f now := by
  have hpause : ∀ reached : Moment,
      (modify (editedAt moment [] reached) : Change PUnit) = pure ⟨⟩ := by
    intro reached
    have hid : editedAt moment [] reached = id := by
      funext d
      unfold editedAt
      split <;> rfl
    rw [hid]
    rfl
  unfold storeDuring MapSnapshot.store Artifact.save Change.writeRecord
  simp only [hpause, pure_bind, bind_assoc]

theorem IsVacant.patched (h : IsVacant names d) (hpatch : patch.Avoids (place names)) :
    IsVacant names (d.patched patch) where
  clear := hpatch.clear h.clear
  node p hp := by
    rw [hpatch.node? hp]
    exact h.node p hp

theorem confined_recordFingerprint {f : Fingerprint} {now : UInt64} {m : Meta}
    (h : Clear (place names) d)
    (hrun : Gate.recordFingerprint (.ofNames names) f now d = .ok m d') :
    Confined (place names) metaFiles d d' := by
  unfold Gate.recordFingerprint at hrun
  rw [Change.get_bind] at hrun
  obtain ⟨_, _, hwrite, hrun⟩ := Change.bind_eq_ok.1 hrun
  cases hrun
  exact (Gate.keeps_writeMeta _ now).of_ok hwrite h

theorem confined_editedAt {files : List String} (hpatch : patch.Avoids (place names))
    (h : Confined (place names) files d d') (moment reached : Moment) :
    Confined (place names) files (editedAt moment patch reached d)
      (editedAt moment patch reached d') := by
  unfold editedAt
  split
  · exact hpatch.confined h
  · exact h

theorem node?_editedAt (hpatch : patch.Avoids (place names)) (moment reached : Moment)
    (name : String) (d : Disk) : (editedAt moment patch reached d).node? (place names ++ [name]) =
      d.node? (place names ++ [name]) := by
  unfold editedAt
  split
  · exact hpatch.node? (List.prefix_append _ _) d
  · rfl

/-- The edit comes at one of the moments. -/
theorem editedAt_all (moment : Moment) (patch : Patch) (d : Disk) :
    editedAt moment patch .map (editedAt moment patch .draft
      (editedAt moment patch .folders (editedAt moment patch .snapshot d))) = d.patched patch := by
  cases moment <;> rfl

theorem modify_eq_ok {f : Disk → Disk} {u : Unit} :
    (modify f : Change Unit) d = .ok u d' ↔ d' = f d := by
  show EStateM.Result.ok _ _ = _ ↔ _
  simp [eq_comm]

/-- A map that is stored while the disk is edited is the map of the snapshot, with its fingerprint.
-/
theorem describes_storeDuring {b : Build} {now : UInt64} {moment : Moment}
    (hvacant : IsVacant names d) (hpatch : patch.Avoids (place names))
    (hcount : b.IsCountable (.ofNames names))
    (hrun : storeDuring (.ofNames names) (b.map (.ofNames names)) (b.fingerprint (.ofNames names))
      now moment patch d = .ok () d') :
    (⟨some (b.fingerprint (.ofNames names)), some b, false⟩ : Ledger).Describes names d' ∧
      Confined (place names) storeFiles (d.patched patch) d' ∧
        ∃ content time, d'.node? (Kind.map.place names) = some (.file content time) := by
  rw [storeDuring, Kind.route_ofNames, Kind.place, Route.parent_ofNames,
    Change.draftRoute_ofNames Kind.map.isDotted_fileName] at hrun
  obtain ⟨_, d₁, hpause, hrun⟩ := Change.bind_eq_ok.1 hrun
  obtain rfl := modify_eq_ok.1 hpause
  obtain ⟨_, m₁, hfolders, hrun⟩ := Change.bind_eq_ok.1 hrun
  obtain ⟨_, m₂, hpause, hrun⟩ := Change.bind_eq_ok.1 hrun
  obtain rfl := modify_eq_ok.1 hpause
  obtain ⟨_, m₃, hwrite, hrun⟩ := Change.bind_eq_ok.1 hrun
  obtain ⟨_, m₄, hpause, hrun⟩ := Change.bind_eq_ok.1 hrun
  obtain rfl := modify_eq_ok.1 hpause
  obtain ⟨_, m₅, hrename, hrun⟩ := Change.bind_eq_ok.1 hrun
  obtain ⟨_, m₆, hpause, hrun⟩ := Change.bind_eq_ok.1 hrun
  obtain rfl := modify_eq_ok.1 hpause
  obtain ⟨_, hrecord⟩ := Change.discard_eq_ok.1 hrun
  have hname : Kind.map.fileName ∈ Kind.map.files := List.mem_cons_self
  have hdraft : Change.draftName Kind.map.fileName ∈ Kind.map.files :=
    List.mem_cons_of_mem _ List.mem_cons_self
  -- At each moment the disk differs in the files of the map from one that is only edited.
  have h₁ : Confined (place names) Kind.map.files d d := .refl hvacant.clear
  have h₂ := confined_editedAt hpatch h₁ moment .snapshot
  have h₃ := h₂.trans ((Change.keeps_makeFolders _ _).of_ok hfolders h₂.clear)
  have h₄ := confined_editedAt hpatch h₃ moment .folders
  have h₅ := h₄.trans ((Change.keeps_writeFile hdraft _ _).of_ok hwrite h₄.clear)
  have h₆ := confined_editedAt hpatch h₅ moment .draft
  have h₇ := h₆.trans ((Change.keeps_rename hdraft hname).of_ok hrename h₆.clear)
  have h₈ := confined_editedAt hpatch h₇ moment .map
  rw [editedAt_all] at h₈
  obtain ⟨time, htext⟩ := Change.writeFile_ok h₄.clear hwrite
  let written := Envelope.encode ⟨artifactFormat, .map, now, (b.map (.ofNames names)).encode⟩
  have hmap : (editedAt moment patch .map m₅).node? (Kind.map.place names) =
      some (.file (.text written.pretty) time) := by
    rw [Kind.place, node?_editedAt hpatch, Change.rename_ok h₆.clear hrename, node?_editedAt hpatch,
      htext]
  have hstored :
      (⟨none, some b, false⟩ : Ledger).Describes names (editedAt moment patch .map m₅) := by
    refine ⟨h₈.clear, fun content t hnode => ?_, fun content t hnode => ?_⟩
    · have hmeta : "meta.json" ∉ Kind.map.files := by decide
      rw [metaPlace, h₈.node?_file hmeta,
        (hvacant.patched hpatch).node _ (List.prefix_append _ _)] at hnode
      cases hnode
    · rw [hmap] at hnode
      cases hnode
      exact ⟨b, now, rfl, hcount, rfl⟩
  have hrecorded := confined_recordFingerprint h₈.clear hrecord
  refine ⟨(hstored.after_fingerprint hrecord).congr rfl rfl, ?_, ?_⟩
  · exact (h₈.mono fun _ => List.mem_append_left _).trans
      (hrecorded.mono fun _ => List.mem_append_right _)
  · have hkept := hrecorded.node?_file (by decide : Kind.map.fileName ∉ metaFiles)
    exact ⟨_, time, hkept.trans hmap⟩

/-- A run that asks for the map of a project, while the disk is edited at a moment after the
snapshot of a map that is built. -/
def loadOrBuildDuring (project : Project) (force : Bool) (now : UInt64) (moment : Moment)
    (patch : Patch) : Run MapSnapshot :=
  MapSnapshot.loadOrBuildBy (fun map f => storeDuring project.root map f now moment patch) project
    force now

/-- Without an edit a run is as ever. -/
theorem loadOrBuildDuring_nil (project : Project) (force : Bool) (now : UInt64) (moment : Moment) :
    loadOrBuildDuring project force now moment [] = MapSnapshot.loadOrBuild project force now := by
  have hstore : (fun map f => storeDuring project.root map f now moment []) =
      fun map f => MapSnapshot.store project.root map f now := by
    funext map f
    exact storeDuring_nil project.root map f now moment
  unfold loadOrBuildDuring
  rw [hstore]
  exact (MapSnapshot.loadOrBuild_eq_loadOrBuildBy project force now).symm

theorem IsVacant.found?_eq_none {project : Project} (h : IsVacant names d)
    (hroot : project.root = .ofNames names) (force : Bool) :
    MapSnapshot.found? project force d = none := by
  cases force with
  | true => rfl
  | false =>
    cases hfound : MapSnapshot.found? project false d with
    | none => rfl
    | some map =>
      obtain ⟨b, hkept, -⟩ := (Ledger.Describes.empty h).found_build hroot hfound
      cases hkept

/-- A run on an empty cache stores the map of its snapshot, whatever is edited afterwards. -/
theorem describes_loadOrBuildDuring {project : Project} {force : Bool} {now : UInt64}
    {moment : Moment} {t : Session} (hvacant : IsVacant names t.disk)
    (hroot : project.root = .ofNames names)
    (hpatch : patch.Avoids (place names))
    (hcount : (⟨project.config, t.disk⟩ : Build).IsCountable (.ofNames names))
    (hstored : (loadOrBuildDuring project force now moment patch t).1.storeError = none) :
    let b : Build := ⟨project.config, t.disk⟩
    let d := (loadOrBuildDuring project force now moment patch t).2.disk
    (⟨some (b.fingerprint (.ofNames names)), some b, false⟩ : Ledger).Describes names d ∧
      Confined (place names) storeFiles (t.disk.patched patch) d ∧
        ∃ content time, d.node? (Kind.map.place names) = some (.file content time) := by
  intro b d
  have hrebuild : loadOrBuildDuring project force now moment patch t = _ :=
    MapSnapshot.loadOrBuildBy_of_not_found _ (hvacant.found?_eq_none hroot force)
  obtain ⟨hsnapshot, hdisk⟩ := MapSnapshot.rebuildBy_eq
    (fun map f => storeDuring project.root map f now moment patch) project
      ((Gate.ofProject project.root).check t.disk project.root).reasons t
  rw [hrebuild, hsnapshot, hroot] at hstored
  have hd : d = _ := (congrArg (fun result => result.2.disk) hrebuild).trans hdisk
  rw [hroot] at hd
  have hbuilt : MapSnapshot.built project t.disk = b.map (.ofNames names) := by
    unfold MapSnapshot.built
    rw [hroot]
    rfl
  have hfingerprint : (Gate.ofProject (.ofNames names)).fingerprint t.disk (.ofNames names) =
      b.fingerprint (.ofNames names) := rfl
  rw [hbuilt, hfingerprint] at hstored hd
  cases hrun : storeDuring (.ofNames names) (b.map (.ofNames names))
      (b.fingerprint (.ofNames names)) now moment patch t.disk with
  | ok _ d' =>
    rw [hd, Disk.Change.diskAfter_of_ok hrun]
    exact describes_storeDuring hvacant hpatch hcount hrun
  | error e d' =>
    rw [hrun] at hstored
    cases hstored

/-- A run on an empty cache stores the map of the files as they are, made with the configuration
that it was given. -/
theorem describes_loadOrBuild {project : Project} {force : Bool} {now : UInt64} {t : Session}
    (hvacant : IsVacant names t.disk) (hroot : project.root = .ofNames names)
    (hcount : (⟨project.config, t.disk⟩ : Build).IsCountable (.ofNames names))
    (hstored : (MapSnapshot.loadOrBuild project force now t).1.storeError = none) :
    let b : Build := ⟨project.config, t.disk⟩
    let d := (MapSnapshot.loadOrBuild project force now t).2.disk
    (⟨some (b.fingerprint (.ofNames names)), some b, false⟩ : Ledger).Describes names d ∧
      Confined (place names) storeFiles t.disk d ∧
        ∃ content time, d.node? (Kind.map.place names) = some (.file content time) := by
  rw [← loadOrBuildDuring_nil project force now .snapshot] at hstored ⊢
  exact describes_loadOrBuildDuring hvacant hroot .nil hcount hstored

/-! ## What is found afterwards -/

/-- Where the metadata can be read, the map beside them can be loaded. -/
theorem Ledger.Describes.load? {l : Ledger} {b : Build} (h : l.Describes names d)
    (hkept : l.kept = some b) (hstored : ∃ m, Gate.stored d (.ofNames names) = .found m)
    (hnode : ∃ content time, d.node? (Kind.map.place names) = some (.file content time)) :
    Artifact.load? d (.ofNames names) .map ProjectMap.decoder = some (b.map (.ofNames names)) := by
  obtain ⟨m, hm⟩ := hstored
  obtain ⟨content, time, hnode⟩ := hnode
  have hread : (d.read (.ofNames (metaPlace names))).isOk = true := by
    rw [Gate.stored, metaRoute_ofNames, Disk.readRecord] at hm
    cases hcontent : d.read (.ofNames (metaPlace names)) with
    | ok content => rfl
    | error e =>
      rw [hcontent] at hm
      cases e <;> cases hm
  have hmap : (d.read (Kind.map.route (.ofNames names))).isOk = true := by
    rw [Kind.route_ofNames]
    exact Disk.isOk_read_neighbour (h.clear.file _) (h.clear.file _) hread hnode
      (by decide) (by decide)
  obtain ⟨b', hkept', hload⟩ := h.exists_load? hmap
  rw [hload, Option.some.inj (hkept'.symm.trans hkept)]

/-- A fresh cache has the map of a build with the fingerprint of the tree. -/
theorem Ledger.Describes.load?_of_fresh {b : Build}
    (h : (⟨some (b.fingerprint (.ofNames names)), some b, false⟩ : Ledger).Describes names d)
    (hnode : ∃ content time, d.node? (Kind.map.place names) = some (.file content time))
    (hfresh : ((Gate.ofProject (.ofNames names)).check d (.ofNames names)).isFresh = true) :
    Artifact.load? d (.ofNames names) .map ProjectMap.decoder = some (b.map (.ofNames names)) ∧
      b.fingerprint (.ofNames names) =
        (Build.ofDisk (.ofNames names) d).fingerprint (.ofNames names) := by
  obtain ⟨hstored, hrecorded⟩ := h.isFresh_iff.1 hfresh
  exact ⟨h.load? rfl hstored hnode, Option.some.inj hrecorded⟩

/-- What is seen of a project stays the same while only the cache is written. -/
theorem Secluded.build_eq (h : Secluded names d) (hroot : IsRoot names d)
    (hconfined : Confined (place names) storeFiles d d') :
    (Build.ofDisk (.ofNames names) d').fingerprint (.ofNames names) =
        (Build.ofDisk (.ofNames names) d).fingerprint (.ofNames names) ∧
      (Build.ofDisk (.ofNames names) d').map (.ofNames names) =
        (Build.ofDisk (.ofNames names) d).map (.ofNames names) := by
  have hrules := h d' hconfined
  have hfiles := filesOf_of_confined hroot hconfined hrules.rules
  refine ⟨?_, map_ofDisk_eq hfiles hrules.config⟩
  rw [fingerprint_ofDisk, fingerprint_ofDisk, hfiles, hrules.settings]

/-- After a run on an empty cache a fresh cache has the map of the files as they are, made with the
configuration that the run was given. -/
theorem load?_of_fresh {project : Project} {force : Bool} {now : UInt64} {t : Session}
    (hvacant : IsVacant names t.disk) (hroot : IsRoot names t.disk)
    (hproject : project.root = .ofNames names) (hsecluded : Secluded names t.disk)
    (hcount : (⟨project.config, t.disk⟩ : Build).IsCountable (.ofNames names))
    (hstored : (MapSnapshot.loadOrBuild project force now t).1.storeError = none) :
    let d := (MapSnapshot.loadOrBuild project force now t).2.disk
    ((Gate.ofProject (.ofNames names)).check d (.ofNames names)).isFresh = true →
      Artifact.load? d (.ofNames names) .map ProjectMap.decoder =
          some ((⟨project.config, t.disk⟩ : Build).map (.ofNames names)) ∧
        (Build.ofDisk (.ofNames names) d).map (.ofNames names) =
          (Build.ofDisk (.ofNames names) t.disk).map (.ofNames names) := by
  intro d hfresh
  obtain ⟨hdescribes, hconfined, hnode⟩ := describes_loadOrBuild hvacant hproject hcount hstored
  obtain ⟨hload, -⟩ := hdescribes.load?_of_fresh hnode hfresh
  exact ⟨hload, (hsecluded.build_eq hroot hconfined).2⟩

/-- After a run on an empty cache, where one file was edited behind the snapshot, a fresh cache has
the map of the files and the configuration as they are. -/
theorem load?_of_fresh_during {project : Project} {force : Bool} {now : UInt64} {moment : Moment}
    {t : Session} (hvacant : IsVacant names t.disk) (hroot : IsRoot names t.disk)
    (hproject : project.root = .ofNames names)
    (hconfig : project.config = .onDisk t.disk (.ofNames names)) (hedit : Edit names t.disk patch)
    (hsecluded : Secluded names (t.disk.patched patch))
    (hcount : (⟨project.config, t.disk⟩ : Build).IsCountable (.ofNames names))
    (hstored : (loadOrBuildDuring project force now moment patch t).1.storeError = none) :
    let d := (loadOrBuildDuring project force now moment patch t).2.disk
    ((Gate.ofProject (.ofNames names)).check d (.ofNames names)).isFresh = true →
      Artifact.load? d (.ofNames names) .map ProjectMap.decoder =
        some ((Build.ofDisk (.ofNames names) d).map (.ofNames names)) := by
  intro d hfresh
  have hrooted : IsRoot names (t.disk.patched patch) :=
    hroot.of_node? fun p hp => hedit.node?_way hroot hp
  obtain ⟨hdescribes, hconfined, hnode⟩ :=
    describes_loadOrBuildDuring hvacant hproject hedit.avoids hcount hstored
  obtain ⟨hload, hrecorded⟩ := hdescribes.load?_of_fresh hnode hfresh
  obtain ⟨hfingerprint, hmap⟩ := hsecluded.build_eq hrooted hconfined
  have hpresent : (⟨project.config, t.disk⟩ : Build) = .ofDisk (.ofNames names) t.disk := by
    rw [Build.ofDisk, ← hconfig]
  rw [hpresent] at hload hrecorded
  -- The record is of the snapshot, so the edit does not show in the fingerprint.
  have hunseen := hedit.map_eq hroot (hfingerprint.symm.trans hrecorded.symm)
  exact hload.trans (congrArg some (hmap.trans hunseen).symm)

/-- Which map is stored after one file of a project was edited while a command ran. The command
opens the project when its cache is empty. The file may be edited before the map is asked for: then
the stored map is made of the files as they are and of the configuration as it was, so it is the map
of the project exactly if the old configuration gives this map too, and it is whenever the
configuration stays the same. Or it may be edited between the snapshot and the record: then a fresh
cache has the map of the project. -/
theorem stored_map_after_edit {s s' : Session} {env : Environment} {requested : Option String}
    {project : Project} (hvacant : IsVacant names s.disk) (hroot : IsRoot names s.disk)
    (hopened : (openProject env requested).run s = (.ok project, s'))
    (hproject : project.root = .ofNames names) (hedit : Edit names s.disk patch)
    (hsecluded : Secluded names (s.disk.patched patch))
    (hcount : (⟨project.config, s.disk⟩ : Build).IsCountable (.ofNames names))
    (hcount' : (⟨project.config, s.disk.patched patch⟩ : Build).IsCountable (.ofNames names))
    (force : Bool) (now : UInt64) :
    let root : Route := .ofNames names
    let edited : Disk := s.disk.patched patch
    let isFresh (d : Disk) : Prop := ((Gate.ofProject root).check d root).isFresh = true
    let stored (d : Disk) := Artifact.load? d root .map ProjectMap.decoder
    let present (d : Disk) := (Build.ofDisk root d).map root
    (∀ t : Session, t.disk = edited →
      (MapSnapshot.loadOrBuild project force now t).1.storeError = none →
      let d := (MapSnapshot.loadOrBuild project force now t).2.disk
      isFresh d →
        stored d = some ((⟨project.config, edited⟩ : Build).map root) ∧
        (stored d = some (present d) ↔
          (⟨project.config, edited⟩ : Build).map root = present edited) ∧
        (Area.Config.onDisk edited root = Area.Config.onDisk s.disk root →
          stored d = some (present d))) ∧
      ∀ moment : Moment,
        (loadOrBuildDuring project force now moment patch s').1.storeError = none →
        let d := (loadOrBuildDuring project force now moment patch s').2.disk
        isFresh d → stored d = some (present d) := by
  intro root edited isFresh stored present
  obtain ⟨hdisk, hconfig⟩ := openProject_ok hopened
  rw [hproject] at hconfig
  have hvacant' : IsVacant names edited := hvacant.patched hedit.avoids
  have hroot' : IsRoot names edited := hroot.of_node? fun p hp => hedit.node?_way hroot hp
  constructor
  · intro t ht hstored d hfresh
    obtain ⟨hload, hmap⟩ := load?_of_fresh (ht ▸ hvacant') (ht ▸ hroot') hproject (ht ▸ hsecluded)
      (ht ▸ hcount') hstored hfresh
    rw [ht] at hload hmap
    have hiff : stored d = some (present d) ↔
        (⟨project.config, edited⟩ : Build).map root = present edited := by
      show stored d = some (present d) ↔ _
      rw [show stored d = _ from hload, show present d = present edited from hmap, Option.some_inj]
    refine ⟨hload, hiff, ?_⟩
    intro hsame
    apply hiff.2
    show _ = (Build.ofDisk root edited).map root
    rw [Build.ofDisk, hsame, ← hconfig]
  · intro moment hstored
    have hduring := @load?_of_fresh_during names patch project force now moment s'
    rw [hdisk] at hduring
    exact hduring hvacant hroot hproject hconfig hedit hsecluded hcount hstored

/-! ## A source file and a configuration

A project of one file has no cache. A second source file comes to stand beside the first after the
project was opened, and the stored map has both. Or a configuration does: then the fingerprint has
its time, but the map was made without it. -/

namespace Sample

theorem isVacant_disk : IsVacant ["p"] disk := .of_entries (by decide) (by decide)

theorem isPlain_disk : disk.IsPlain := by decide

theorem isRoot_disk : IsRoot ["p"] disk := ⟨isPlain_disk.maintains.straight _, by decide⟩

theorem opened_disk : (openProject env none).run (.ofDisk disk) = (.ok project, .ofDisk disk) := rfl

/-- A second source file. -/
def sourcePatch : Patch := writing [] (["p"] ++ ["b.ts"]) (.text "") 2000000

theorem edit_source : Edit ["p"] disk sourcePatch := by
  have hnone : disk.node? (["p"] ++ ["b.ts"]) = none := by decide
  refine .of_plain isPlain_disk (by decide) (by decide) nofun ?_ (by decide) ?_
  · rw [hnone]
    exact nofun
  · intro content time hnode
    rw [hnone] at hnode
    cases hnode

/-- A configuration that turns descriptions off. -/
def settingsPatch : Patch :=
  writing [["p", ".atlas"]] (settingsPlace ["p"]) (.text "\x7b\"auto_describe\":false\x7d") 2000000

theorem way_settings : IsWay disk [["p", ".atlas"]] (settingsPlace ["p"]) := by
  intro folder hfolder
  rw [List.mem_singleton.1 hfolder]
  exact ⟨nofun, by decide, by decide, .inl (by decide)⟩

theorem edit_settings : Edit ["p"] disk settingsPatch := by
  refine .settings way_settings (by decide) (by decide) (by decide) ?_
  refine rulesOf_writing isPlain_disk way_settings settingsPlace_ne_nil ?_ (by decide) (by decide)
  have hnone : disk.node? (settingsPlace ["p"]) = none := by decide
  rw [hnone]
  exact nofun

/-- On a plain disk with an empty cache nothing that is written there is read by a scan. -/
theorem secluded_patched {patch : Patch} (hplain : (disk.patched patch).IsPlain)
    (hpatch : patch.Avoids (place ["p"])) : Secluded ["p"] (disk.patched patch) :=
  .of_plain hplain (isVacant_disk.patched hpatch)

end Sample

/-- A source file that comes before the map is asked for is in the stored map. -/
theorem source_edit_is_stored :
    let t : Session := .ofDisk (Sample.disk.patched Sample.sourcePatch)
    let d := (MapSnapshot.loadOrBuild Sample.project false 5 t).2.disk
    ((Gate.ofProject Sample.root).check d Sample.root).isFresh = true ∧
      Artifact.load? d Sample.root .map ProjectMap.decoder =
        some ((Build.ofDisk Sample.root d).map Sample.root) := by
  intro t d
  have havoids := Sample.edit_source.avoids
  have hcount : (⟨Sample.project.config, t.disk⟩ : Build).IsCountable (.ofNames ["p"]) := by
    decide
  have hstored : (MapSnapshot.loadOrBuild Sample.project false 5 t).1.storeError = none := by
    decide
  obtain ⟨hdescribes, -, -⟩ := describes_loadOrBuild
    (Sample.isVacant_disk.patched havoids : IsVacant ["p"] t.disk) rfl hcount hstored
  have hfresh : ((Gate.ofProject Sample.root).check d Sample.root).isFresh = true :=
    hdescribes.isFresh_iff.2 ⟨hdescribes.exists_stored (by decide), by decide⟩
  obtain ⟨hbefore, -⟩ := stored_map_after_edit Sample.isVacant_disk Sample.isRoot_disk
    Sample.opened_disk rfl Sample.edit_source
    (Sample.secluded_patched (by decide) havoids) (by decide) hcount false 5
  obtain ⟨-, -, hpresent⟩ := hbefore t rfl hstored hfresh
  exact ⟨hfresh, hpresent rfl⟩

/-- A configuration that comes before the map is asked for leaves the cache fresh, with a map that
was made without it. -/
theorem exists_hidden_settings_edit : ∃ (s s' t : Session) (env : Environment) (project : Project)
    (patch : Patch) (now : UInt64), IsVacant ["p"] s.disk ∧ IsRoot ["p"] s.disk ∧
      (openProject env none).run s = (.ok project, s') ∧ project.root = .ofNames ["p"] ∧
      Edit ["p"] s.disk patch ∧ Secluded ["p"] (s.disk.patched patch) ∧
      t.disk = s.disk.patched patch ∧
      (MapSnapshot.loadOrBuild project false now t).1.storeError = none ∧
      let root : Route := .ofNames ["p"]
      let d := (MapSnapshot.loadOrBuild project false now t).2.disk
      ((Gate.ofProject root).check d root).isFresh = true ∧
        Artifact.load? d root .map ProjectMap.decoder ≠ some ((Build.ofDisk root d).map root) := by
  let t : Session := .ofDisk (Sample.disk.patched Sample.settingsPatch)
  have havoids := Sample.edit_settings.avoids
  have hvacant : IsVacant ["p"] t.disk := Sample.isVacant_disk.patched havoids
  have hsecluded := Sample.secluded_patched (by decide) havoids
  have hrooted : IsRoot ["p"] t.disk :=
    Sample.isRoot_disk.of_node? fun p hp => Sample.edit_settings.node?_way Sample.isRoot_disk hp
  have hstored : (MapSnapshot.loadOrBuild Sample.project false 5 t).1.storeError = none := by
    decide
  refine ⟨.ofDisk Sample.disk, .ofDisk Sample.disk, t, Sample.env, Sample.project,
    Sample.settingsPatch, 5, Sample.isVacant_disk, Sample.isRoot_disk, Sample.opened_disk, rfl,
    Sample.edit_settings, hsecluded, rfl, hstored, ?_⟩
  intro root d
  have hcount : (⟨Sample.project.config, t.disk⟩ : Build).IsCountable root := by decide
  obtain ⟨hdescribes, -, -⟩ := describes_loadOrBuild hvacant rfl hcount hstored
  have hfresh : ((Gate.ofProject root).check d root).isFresh = true :=
    hdescribes.isFresh_iff.2 ⟨hdescribes.exists_stored (by decide), by decide⟩
  obtain ⟨hload, hpresent⟩ := load?_of_fresh hvacant hrooted rfl hsecluded hcount hstored hfresh
  refine ⟨hfresh, ?_⟩
  rw [hload, hpresent]
  intro heq
  have hfiles : ((⟨Sample.project.config, t.disk⟩ : Build).map root).files ≠
      ((Build.ofDisk root t.disk).map root).files := by decide +kernel
  exact hfiles (congrArg ProjectMap.files (Option.some.inj heq))

end Gazetteer.Cache
