import Gazetteer.Proofs.Cache.Edit
import Gazetteer.Proofs.Cache.Invalidation
import Gazetteer.Proofs.Disk.Housing

/-!
# Caches that serve

When a map and its fingerprint were stored, the cache serves: both can be read, and they are of the
project as it was before, when less of the cache was there. Further commands on the unchanged
project keep it so, whatever fails. If neither ignore files nor settings are read through the cache,
then the fingerprint is that of the project as it is, and so is the map.
-/

namespace Gazetteer.Cache

open Command
open Disk (Change Filing Houses IoError IsSolid Maintains Route Storing Tending Toward)
open Disk.Change (Keeps diskAfter)

variable {names home : List String} {d d' e : Disk}

/-- An earlier disk with the project, which differs at most in what storing maps has left. -/
structure Earlier (names home : List String) (d e : Disk) : Prop where
  tree : e.IsTree
  solid : e.IsSolid names
  storing : Storing home storeFiles e d

/-- Metadata can be read that hold the fingerprint of the project on an earlier disk. -/
def IsRecorded (names home : List String) (d : Disk) : Prop :=
  ∃ e, Earlier names home d e ∧ ∃ m : Meta,
    d.read (.ofNames (metaPlace names)) = .ok (.text m.encode.pretty) ∧
      m.fingerprint = some ((Build.ofDisk (.ofNames names) e).fingerprint (.ofNames names)) ∧
      m.schemaVersion = some schemaVersion

/-- A map can be read that is the map of the project on an earlier disk. -/
def IsMapped (names home : List String) (d : Disk) : Prop :=
  ∃ e, Earlier names home d e ∧ ∃ savedAt,
    d.read (.ofNames (Kind.map.place names)) = .ok (.text (Envelope.encode ⟨artifactFormat, .map,
      savedAt, ((Build.ofDisk (.ofNames names) e).map (.ofNames names)).encode⟩).pretty)

/-- Map and metadata can be read in the cache folder, which may be behind links. -/
structure Serves (names home : List String) (d : Disk) : Prop where
  houses : Houses (place names) home d
  recorded : IsRecorded names home d
  mapped : IsMapped names home d

/-- No link stands in the cache folder of a project, and no draft that has another name. On the way
to it there may be links. -/
def IsDirect (names : List String) (d : Disk) : Prop :=
  ∀ home, d.Leads [] (Route.ofNames (place names)) home → ∀ name,
    (∀ target, d.node? (home ++ [name]) ≠ some (.link target)) ∧
      d.IsSole (home ++ [Change.draftName name])

/-- Whether ignore files and settings say the same about a project while maps are stored. -/
def Detached (names : List String) (d : Disk) : Prop :=
  ∀ home e, e.IsTree → d.follow (folder (.ofNames names)) = .ok home →
    Storing home storeFiles e d → SameRules names e d

/-! ## Earlier disks -/

/-- The root of a project is a folder while a cache folder is there. -/
theorem exists_root (hd : Houses (place names) home d) :
    ∃ base, d.Leads [] (Route.ofNames names) base ∧ d.node? base = some .folder := by
  have hway := Disk.leads_of_follow hd.follow
  rw [place, Route.ofNames_concat, Route.ofNames_concat, List.append_assoc] at hway
  obtain ⟨base, hbase, hlast⟩ := hway.split
  refine ⟨base, hbase, ?_⟩
  by_contra hne
  exact absurd (hlast.eq_of_ne_folder hne).1 (by simp)

/-- The root of a project is a folder while a cache folder is there, and it was one before. -/
theorem Earlier.node? (h : Earlier names home d e) (hd : Houses (place names) home d)
    {p : List String} (hp : p <+: names) :
    e.node? p = some .folder ∧ d.node? p = some .folder := by
  obtain ⟨node, hnode, hdirect⟩ := h.solid.stands
  have hstraight : d.Straight names := by
    intro q hq target hlink
    rw [h.storing.link_iff] at hlink
    exact h.solid.straight q hq target hlink
  have hroot : d.node? names = some .folder := by
    obtain ⟨base, hbase, hfolder⟩ := exists_root hd
    obtain rfl := hbase.eq_of_straight hstraight
    exact hfolder
  have hold : e.node? names = some .folder := by
    cases node with
    | folder => exact hnode
    | link target => cases hdirect
    | file content time =>
      rcases h.storing.node names with hsame | ⟨-, -, hloose⟩ | ⟨-, hnone, -⟩
      · rw [hsame, hnode] at hroot
        cases hroot
      · exact absurd hroot hloose.1
      · rw [hnone] at hnode
        cases hnode
  have hfolder : e.node? p = some .folder := by
    by_cases heq : p = names
    · rw [heq, hold]
    · exact h.solid.folders p hp heq
  exact ⟨hfolder, h.storing.folder hfolder⟩

theorem Earlier.refl (htree : d.IsTree) (hsolid : d.IsSolid names) : Earlier names home d d :=
  ⟨htree, hsolid, .refl home storeFiles d⟩

theorem Earlier.trans (h : Earlier names home d e) (hstoring : Storing home storeFiles d d') :
    Earlier names home d' e := ⟨h.tree, h.solid, h.storing.trans hstoring⟩

/-- A project is seen as it was seen before. -/
theorem Earlier.build_eq (h : Earlier names home d e) (hd : Houses (place names) home d)
    (hrules : SameRules names e d) : filesOf names d = filesOf names e ∧
      (Build.ofDisk (.ofNames names) d).fingerprint (.ofNames names) =
        (Build.ofDisk (.ofNames names) e).fingerprint (.ofNames names) ∧
      (Build.ofDisk (.ofNames names) d).map (.ofNames names) =
        (Build.ofDisk (.ofNames names) e).map (.ofNames names) := by
  have hway : ∀ p, p <+: names → d.node? p = e.node? p := by
    intro p hp
    obtain ⟨hold, hnew⟩ := h.node? hd hp
    rw [hold, hnew]
  have hnode : ∀ p, (∃ name ∈ storeFiles, p = home ++ [name]) ∨ d.node? p = e.node? p ∨
      e.node? p = none ∧ d.node? p = some .folder := by
    intro p
    rcases h.storing.node p with hsame | ⟨hplace, -⟩ | ⟨-, hmade⟩
    · exact .inr (.inl hsame)
    · exact .inl hplace
    · exact .inr (.inr hmade)
  have hfiles : filesOf names d = filesOf names e :=
    filesOf_of_stored h.solid.straight hway hrules.rules hnode
  refine ⟨hfiles, ?_, map_ofDisk_eq hfiles hrules.config⟩
  rw [fingerprint_ofDisk, fingerprint_ofDisk, hfiles, hrules.settings]

/-! ## What keeps a cache serving -/

/-- The project on the disk where its cache serves. -/
theorem Serves.earlier (h : Serves names home d) : Earlier names home d d := by
  obtain ⟨e, hearlier, -⟩ := h.recorded
  have hfolder : ∀ p, p <+: names → d.node? p = some .folder := fun p hp =>
    (hearlier.node? h.houses hp).2
  exact .refl (h.houses.isTree hearlier.tree hearlier.storing)
    ⟨fun p hp _ => hfolder p hp, .folder, hfolder names List.prefix_rfl, rfl⟩

theorem IsRecorded.of_storing (h : IsRecorded names home d) (hd : Houses (place names) home d)
    {files : List String} (hstoring : Storing home files d d')
    (hfiles : ∀ name ∈ files, name ∈ storeFiles) (hname : "meta.json" ∉ files) :
    IsRecorded names home d' := by
  obtain ⟨e, hearlier, m, hread, hm⟩ := h
  exact ⟨e, hearlier.trans (hstoring.mono hfiles), m,
    (Toward.refl hd : Toward _ _ [] _ _).read_of_filing hstoring.toFiling hname hread, hm⟩

theorem IsMapped.of_storing (h : IsMapped names home d) (hd : Houses (place names) home d)
    {files : List String} (hstoring : Storing home files d d')
    (hfiles : ∀ name ∈ files, name ∈ storeFiles) (hname : Kind.map.fileName ∉ files) :
    IsMapped names home d' := by
  obtain ⟨e, hearlier, savedAt, hread⟩ := h
  exact ⟨e, hearlier.trans (hstoring.mono hfiles), savedAt,
    (Toward.refl hd : Toward _ _ [] _ _).read_of_filing hstoring.toFiling hname hread⟩

/-! ### Storing a map -/

section

variable {goal : Disk} {map : ProjectMap} {f : Fingerprint} {now : UInt64}

theorem mem_storeFiles : (∀ name ∈ Kind.map.files, name ∈ storeFiles) ∧
    ∀ name ∈ metaFiles, name ∈ storeFiles :=
  ⟨fun _ => List.mem_append_left _, fun _ => List.mem_append_right _⟩

theorem keeps_tending_writeMeta {files : List String} (hfiles : ∀ name ∈ metaFiles, name ∈ files)
    (m : Meta) (now : UInt64) : Keeps (Tending (place names) home files goal)
      (Change.writeRecord (metaRoute (.ofNames names)) m.encode now) := by
  rw [metaRoute_ofNames, metaPlace]
  exact Change.keeps_tending_writeRecord isDotted_meta (hfiles _ List.mem_cons_self)
    (hfiles _ (List.mem_cons_of_mem _ List.mem_cons_self)) _ now

theorem keeps_tending_save {files : List String} (hfiles : ∀ name ∈ Kind.map.files, name ∈ files)
    (data : Json) (now : UInt64) : Keeps (Tending (place names) home files goal)
      (Artifact.save (.ofNames names) .map data now) := by
  rw [Artifact.save, Kind.route_ofNames, Kind.place]
  exact Change.keeps_tending_writeRecord Kind.map.isDotted_fileName (hfiles _ List.mem_cons_self)
    (hfiles _ (List.mem_cons_of_mem _ List.mem_cons_self)) _ now

theorem keeps_tending_recordFingerprint {files : List String}
    (hfiles : ∀ name ∈ metaFiles, name ∈ files) (f : Fingerprint) (now : UInt64) :
    Keeps (Tending (place names) home files goal)
      (Gate.recordFingerprint (.ofNames names) f now) := by
  refine .bind .get fun _ => ?_
  exact .bind (keeps_tending_writeMeta hfiles _ now) fun _ => .pure _

theorem keeps_tending_store (map : ProjectMap) (f : Fingerprint) (now : UInt64) :
    Keeps (Tending (place names) home storeFiles goal)
      (MapSnapshot.store (.ofNames names) map f now) := by
  refine .bind (keeps_tending_save mem_storeFiles.1 _ now) fun _ d => ?_
  rw [Change.diskAfter_discard]
  exact keeps_tending_recordFingerprint mem_storeFiles.2 f now d

theorem keeps_tending_markChecked (now : UInt64) :
    Keeps (Tending (place names) home storeFiles goal)
      (Gate.markChecked (.ofNames names) now) := by
  refine .bind .get fun d => ?_
  cases Gate.stored d (.ofNames names) with
  | missing => exact .pure _
  | corrupt => exact .pure _
  | found m => exact keeps_tending_writeMeta mem_storeFiles.2 _ now

/-- Metadata that were written can be read. -/
theorem read_of_writeMeta {m : Meta} (hd : Houses (place names) home d)
    (hrun : Change.writeRecord (metaRoute (.ofNames names)) m.encode now d = .ok () d') :
    Storing home metaFiles d d' ∧
      d'.read (.ofNames (metaPlace names)) = .ok (.text m.encode.pretty) := by
  rw [metaRoute_ofNames, metaPlace] at hrun
  obtain ⟨⟨hstoring, -⟩, hread⟩ := Change.tending_of_writeRecord (.refl hd) isDotted_meta
    (List.mem_cons_self : _ ∈ metaFiles) (List.mem_cons_of_mem _ List.mem_cons_self) hrun
  exact ⟨hstoring, hread⟩

theorem storing_of_failed_writeMeta {m : Meta} {err : IoError} (hd : Houses (place names) home d)
    (hrun : Change.writeRecord (metaRoute (.ofNames names)) m.encode now d = .error err d') :
    Storing home [Change.draftName "meta.json"] d d' := by
  rw [metaRoute_ofNames, metaPlace] at hrun
  exact (Change.tending_of_failed_writeRecord (.refl hd) isDotted_meta List.mem_cons_self hrun).1

/-- A cache serves after metadata were written that hold the fingerprint, and also if they could not
be written. -/
theorem Serves.writeMeta {m : Meta} (h : Serves names home d) (hbuild : Earlier names home d e)
    (hm : m.fingerprint = some ((Build.ofDisk (.ofNames names) e).fingerprint (.ofNames names)) ∧
      m.schemaVersion = some schemaVersion) (now : UInt64) : Serves names home
      (diskAfter (Change.writeRecord (metaRoute (.ofNames names)) m.encode now) d) := by
  cases hrun : Change.writeRecord (metaRoute (.ofNames names)) m.encode now d with
  | ok _ d' =>
    rw [Change.diskAfter_of_ok hrun]
    obtain ⟨hstoring, hread⟩ := read_of_writeMeta h.houses hrun
    have hmap := h.mapped.of_storing h.houses hstoring mem_storeFiles.2 (by decide)
    have hearlier := hbuild.trans (hstoring.mono mem_storeFiles.2)
    exact ⟨h.houses.of_storing hstoring, ⟨e, hearlier, m, hread, hm⟩, hmap⟩
  | error err d' =>
    rw [Change.diskAfter_of_error hrun]
    have hstoring := storing_of_failed_writeMeta h.houses hrun
    have hfiles : ∀ name ∈ [Change.draftName "meta.json"], name ∈ storeFiles := by decide
    exact ⟨h.houses.of_storing hstoring,
      h.recorded.of_storing h.houses hstoring hfiles (by decide),
      h.mapped.of_storing h.houses hstoring hfiles (by decide)⟩

theorem Serves.markChecked (h : Serves names home d) (now : UInt64) :
    Serves names home (diskAfter (Gate.markChecked (.ofNames names) now) d) := by
  obtain ⟨e, hearlier, m, hread, hm⟩ := h.recorded
  have hstored : Gate.stored d (.ofNames names) = .found m := by
    rw [← metaRoute_ofNames] at hread
    exact Gate.stored_of_read hread (Ledger.ofContent_meta m)
  unfold Gate.markChecked
  rw [Change.diskAfter_get, hstored]
  exact h.writeMeta hearlier (m := { m with lastCheck := some now }) hm now

theorem Serves.recordFingerprint (h : Serves names home d) (hbuild : Earlier names home d e)
    (now : UInt64) : Serves names home (diskAfter (Gate.recordFingerprint (.ofNames names)
      ((Build.ofDisk (.ofNames names) e).fingerprint (.ofNames names)) now) d) := by
  unfold Gate.recordFingerprint
  rw [Change.diskAfter_get, Change.diskAfter_bind_pure]
  exact h.writeMeta hbuild ⟨rfl, rfl⟩ now

/-- A cache that serves does so after the map of the project was stored, as far as this went. -/
theorem Serves.store (h : Serves names home d) (now : UInt64) :
    Serves names home (diskAfter (MapSnapshot.store (.ofNames names)
      ((Build.ofDisk (.ofNames names) d).map (.ofNames names))
      ((Build.ofDisk (.ofNames names) d).fingerprint (.ofNames names)) now) d) := by
  unfold MapSnapshot.store
  cases hsave : Artifact.save (.ofNames names) .map
      ((Build.ofDisk (.ofNames names) d).map (.ofNames names)).encode now d with
  | ok _ m =>
    rw [Change.diskAfter_bind hsave, Change.diskAfter_discard]
    rw [Artifact.save, Kind.route_ofNames, Kind.place] at hsave
    obtain ⟨⟨hstoring, -⟩, hread⟩ := Change.tending_of_writeRecord (.refl h.houses)
      Kind.map.isDotted_fileName (List.mem_cons_self : _ ∈ Kind.map.files)
      (List.mem_cons_of_mem _ List.mem_cons_self) hsave
    have hearlier : Earlier names home m d := h.earlier.trans (hstoring.mono mem_storeFiles.1)
    have hrecord := h.recorded.of_storing h.houses hstoring mem_storeFiles.1 (by decide)
    exact Serves.recordFingerprint
      ⟨h.houses.of_storing hstoring, hrecord, d, hearlier, now, hread⟩ hearlier now
  | error err m =>
    rw [Change.diskAfter_of_error (Change.bind_eq_error.2 (.inl hsave))]
    rw [Artifact.save, Kind.route_ofNames, Kind.place] at hsave
    have hstoring := (Change.tending_of_failed_writeRecord (.refl h.houses)
      Kind.map.isDotted_fileName List.mem_cons_self hsave :
        Storing home [Change.draftName Kind.map.fileName] d m ∧ _).1
    have hfiles : ∀ name ∈ [Change.draftName Kind.map.fileName], name ∈ storeFiles := by
      decide
    exact ⟨h.houses.of_storing hstoring,
      h.recorded.of_storing h.houses hstoring hfiles (by decide),
      h.mapped.of_storing h.houses hstoring hfiles (by decide)⟩

/-- A cache serves after the first map was stored. -/
theorem serves_of_store (htree : d.IsTree)
    (hdirect : IsDirect names d)
    (hsolid : d.IsSolid names)
    (hrun : MapSnapshot.store (.ofNames names)
      ((Build.ofDisk (.ofNames names) d).map (.ofNames names))
      ((Build.ofDisk (.ofNames names) d).fingerprint (.ofNames names)) now d = .ok () d') :
    ∃ home, Serves names home d' ∧ Storing home storeFiles d d' := by
  unfold MapSnapshot.store Artifact.save at hrun
  obtain ⟨_, m, hsave, hrecord⟩ := Change.bind_eq_ok.1 hrun
  rw [Kind.route_ofNames, Kind.place] at hsave
  obtain ⟨home, hm, hsaved, hread⟩ :=
    Change.storing_of_first_writeRecord htree hdirect Kind.map.isDotted_fileName hsave
  have hstoring : Storing home storeFiles d m := hsaved.mono mem_storeFiles.1
  obtain ⟨written, hrecord⟩ := Change.discard_eq_ok.1 hrecord
  unfold Gate.recordFingerprint at hrecord
  rw [Change.get_bind] at hrecord
  obtain ⟨_, _, hwrite, hdone⟩ := Change.bind_eq_ok.1 hrecord
  cases hdone
  obtain ⟨hrecorded, hmeta⟩ := read_of_writeMeta hm hwrite
  have hmapped : IsMapped names home m := ⟨d, ⟨htree, hsolid, hstoring⟩, now, hread⟩
  have hall := hstoring.trans (hrecorded.mono mem_storeFiles.2)
  exact ⟨home, ⟨hm.of_storing hrecorded, ⟨d, ⟨htree, hsolid, hall⟩, _, hmeta, rfl, rfl⟩,
    hmapped.of_storing hm hrecorded mem_storeFiles.2 (by decide)⟩, hall⟩

/-! ### Loading a map -/

variable {project : Project} {force : Bool} {s : Session}

theorem storing_eq (hroot : project.root = .ofNames names)
    (hconfig : project.config = .onDisk d (.ofNames names)) (now : UInt64) :
    MapSnapshot.storing project now d = MapSnapshot.store (.ofNames names)
      ((Build.ofDisk (.ofNames names) d).map (.ofNames names))
      ((Build.ofDisk (.ofNames names) d).fingerprint (.ofNames names)) now := by
  unfold MapSnapshot.storing MapSnapshot.built
  rw [hroot, hconfig]
  rfl

/-- A run writes files of the cache only. -/
theorem tending_loadOrBuild (hroot : project.root = .ofNames names) (force : Bool) (now : UInt64)
    (s : Session) : Tending (place names) home storeFiles goal s.disk
      (MapSnapshot.loadOrBuild project force now s).2.disk := by
  cases hfound : MapSnapshot.found? project force s.disk with
  | some map =>
    rw [MapSnapshot.loadOrBuild_of_found hfound, hroot]
    exact keeps_tending_markChecked now s.disk
  | none =>
    rw [MapSnapshot.loadOrBuild_of_not_found hfound, (MapSnapshot.rebuild_eq project _ now s).2,
      MapSnapshot.storing, hroot]
    exact keeps_tending_store _ _ now s.disk

/-- A cache that serves does so after a run. -/
theorem Serves.loadOrBuild (h : Serves names home s.disk) (hroot : project.root = .ofNames names)
    (hconfig : project.config = .onDisk s.disk (.ofNames names)) (force : Bool) (now : UInt64) :
    Serves names home (MapSnapshot.loadOrBuild project force now s).2.disk := by
  cases hfound : MapSnapshot.found? project force s.disk with
  | some map =>
    rw [MapSnapshot.loadOrBuild_of_found hfound, hroot]
    exact h.markChecked now
  | none =>
    rw [MapSnapshot.loadOrBuild_of_not_found hfound, (MapSnapshot.rebuild_eq project _ now s).2,
      storing_eq hroot hconfig]
    exact h.store now

/-- A cache serves after a run has stored the map that it built. -/
theorem serves_of_loadOrBuild (htree : s.disk.IsTree)
    (hdirect : IsDirect names s.disk)
    (hsolid : s.disk.IsSolid names) (hroot : project.root = .ofNames names)
    (hconfig : project.config = .onDisk s.disk (.ofNames names))
    (hbuilt : (MapSnapshot.loadOrBuild project force now s).1.cacheHit = false)
    (hstored : (MapSnapshot.loadOrBuild project force now s).1.storeError = none) :
    ∃ home, Serves names home (MapSnapshot.loadOrBuild project force now s).2.disk ∧
      Storing home storeFiles s.disk (MapSnapshot.loadOrBuild project force now s).2.disk := by
  cases hfound : MapSnapshot.found? project force s.disk with
  | some map =>
    rw [MapSnapshot.loadOrBuild_of_found hfound] at hbuilt
    cases hbuilt
  | none =>
    rw [MapSnapshot.loadOrBuild_of_not_found hfound] at hstored ⊢
    rw [(MapSnapshot.rebuild_eq project _ now s).1] at hstored
    rw [(MapSnapshot.rebuild_eq project _ now s).2]
    cases hrun : MapSnapshot.storing project now s.disk s.disk with
    | error err d' =>
      rw [hrun] at hstored
      cases hstored
    | ok _ d' =>
      rw [Change.diskAfter_of_ok hrun]
      rw [storing_eq hroot hconfig] at hrun
      exact serves_of_store htree hdirect hsolid hrun

end

/-! ## What a cache serves -/

/-- A cache that serves a project on a disk as it was. -/
theorem Serves.sameRules (h : Serves names home d) (hdetached : Detached names d)
    (hearlier : Earlier names home d e) : SameRules names e d := by
  refine hdetached home e hearlier.tree ?_ hearlier.storing
  rw [folder_ofNames]
  exact h.houses.follow

/-- Where a cache serves, a run that is not forced finds the map of the project as it is. -/
theorem Serves.found?_eq {project : Project} (h : Serves names home d)
    (hdetached : Detached names d) (hroot : project.root = .ofNames names)
    (hcount : (Build.ofDisk (.ofNames names) d).IsCountable (.ofNames names)) :
    MapSnapshot.found? project false d =
      some ((Build.ofDisk (.ofNames names) d).map (.ofNames names)) := by
  obtain ⟨e, hearlier, m, hmeta, hfingerprint, hschema⟩ := h.recorded
  obtain ⟨e', hearlier', savedAt, hmap⟩ := h.mapped
  obtain ⟨-, hsame, -⟩ := hearlier.build_eq h.houses (h.sameRules hdetached hearlier)
  obtain ⟨hfiles, -, hmap'⟩ := hearlier'.build_eq h.houses (h.sameRules hdetached hearlier')
  rw [← metaRoute_ofNames] at hmeta
  have hstored := Gate.stored_of_read hmeta (Ledger.ofContent_meta m)
  have hfresh : ((Gate.ofProject (.ofNames names)).check d (.ofNames names)).isFresh = true := by
    have hsupported : isSupported schemaVersion minSchemaVersion = true := by decide
    have hcurrent : (Gate.ofProject (.ofNames names)).fingerprint d (.ofNames names) =
        (Build.ofDisk (.ofNames names) e).fingerprint (.ofNames names) := hsame
    unfold Gate.check Status.isFresh staleReasons
    simp [hstored, hfingerprint, hschema, hsupported, hcurrent]
  have hcount' : (Build.ofDisk (.ofNames names) e').IsCountable (.ofNames names) := by
    show (filesOf names e').length < UInt64.size
    rw [← hfiles]
    exact hcount
  unfold MapSnapshot.found? MapSnapshot.stored?
  rw [hroot, if_neg Bool.false_ne_true, if_pos hfresh]
  unfold Artifact.load? Disk.readRecord
  rw [Kind.route_ofNames, hmap]
  simp only [Ledger.ofContent_map hcount', and_self, if_true, hmap']

/-- What a run answers where a cache serves: the map of the project as it is, from the cache unless
a new one is forced. -/
theorem Serves.loadOrBuild_eq {project : Project} {s : Session} (h : Serves names home s.disk)
    (hdetached : Detached names s.disk) (hroot : project.root = .ofNames names)
    (hconfig : project.config = .onDisk s.disk (.ofNames names))
    (hcount : (Build.ofDisk (.ofNames names) s.disk).IsCountable (.ofNames names)) (force : Bool)
    (now : UInt64) : (MapSnapshot.loadOrBuild project force now s).1.cacheHit = !force ∧
      (MapSnapshot.loadOrBuild project force now s).1.map =
        (Build.ofDisk (.ofNames names) s.disk).map (.ofNames names) := by
  cases force with
  | false =>
    rw [MapSnapshot.loadOrBuild_of_found (h.found?_eq hdetached hroot hcount)]
    exact ⟨rfl, rfl⟩
  | true =>
    rw [forced_map, MapSnapshot.loadOrBuild_of_not_found rfl,
      (MapSnapshot.rebuild_eq project _ now s).1, hroot, hconfig]
    exact ⟨rfl, rfl⟩

/-! ## Emptied caches -/

/-- The metadata of a cache are gone, no draft in it has another name, and nothing has changed but
what storing a map writes. -/
structure IsEmptied (home : List String) (d e : Disk) : Prop where
  tree : e.IsTree
  storing : Storing home storeFiles e d
  drafts : ∀ name, e.IsSole (home ++ [Change.draftName name])
  gone : e.node? (home ++ ["meta.json"]) = none
  workingFolder : e.workingFolder = d.workingFolder

theorem IsEmptied.toward (h : IsEmptied home d e) (hd : Houses (place names) home d) :
    Toward (place names) home storeFiles d e := ⟨hd, h.storing.toFiling, h.drafts⟩

/-- Without metadata no map is found. -/
theorem IsEmptied.found?_eq_none {project : Project} (h : IsEmptied home d e)
    (hd : Houses (place names) home d) (hroot : project.root = .ofNames names) (force : Bool) :
    MapSnapshot.found? project force e = none := by
  cases force with
  | true => rfl
  | false =>
    unfold MapSnapshot.found? MapSnapshot.stored?
    rw [hroot, if_neg Bool.false_ne_true]
    refine if_neg fun hfresh => ?_
    obtain ⟨m, hstored, -⟩ := Gate.exists_stored_of_isValid hfresh
    obtain ⟨content, hread, -⟩ := Gate.exists_read_of_stored hstored
    rw [metaRoute_ofNames, metaPlace] at hread
    obtain ⟨-, time, hnode⟩ := (h.toward hd).node?_of_read hread
    rw [h.gone] at hnode
    cases hnode

/-- What a run answers where the cache is empty. -/
theorem IsEmptied.loadOrBuild_eq {project : Project} {s : Session} (h : IsEmptied home d s.disk)
    (hd : Houses (place names) home d) (hroot : project.root = .ofNames names)
    (hconfig : project.config = .onDisk s.disk (.ofNames names)) (force : Bool) (now : UInt64) :
    (MapSnapshot.loadOrBuild project force now s).1.cacheHit = false ∧
      (MapSnapshot.loadOrBuild project force now s).1.map =
        (Build.ofDisk (.ofNames names) s.disk).map (.ofNames names) := by
  rw [MapSnapshot.loadOrBuild_of_not_found (h.found?_eq_none hd hroot force),
    (MapSnapshot.rebuild_eq project _ now s).1]
  refine ⟨rfl, ?_⟩
  show MapSnapshot.built project s.disk = _
  unfold MapSnapshot.built
  rw [hroot, hconfig]
  rfl

/-! ### Other artifacts -/

theorem load?_congr {α : Type} {root : Route} {k : Kind}
    (h : ∀ content, d.read (k.route root) = .ok content ↔ d'.read (k.route root) = .ok content)
    (decoder : Json.Decoder α) :
    Artifact.load? d root k decoder = Artifact.load? d' root k decoder := by
  unfold Artifact.load? Disk.readRecord
  cases hread : d.read (k.route root) with
  | ok content => rw [(h content).1 hread]
  | error err =>
    have hnot : ∀ content, d'.read (k.route root) ≠ .ok content := by
      intro content hread'
      rw [(h content).2 hread'] at hread
      cases hread
    cases hread' : d'.read (k.route root) with
    | ok content => exact absurd hread' (hnot content)
    | error err' => cases err <;> cases err' <;> rfl

/-- While a map is stored, another artifact stays as it is. -/
theorem load?_of_toward {α : Type} {k : Kind} (hk : k.fileName ∉ storeFiles)
    (h : Toward (place names) home storeFiles d d')
    (hback : ∀ content, d.read (k.route (.ofNames names)) = .ok content →
      Filing home storeFiles d d') (decoder : Json.Decoder α) :
    Artifact.load? d' (.ofNames names) k decoder = Artifact.load? d (.ofNames names) k decoder := by
  refine load?_congr (fun content => ?_) decoder
  rw [k.route_ofNames, Kind.place] at hback ⊢
  constructor
  · intro hread
    exact h.read_of_filing h.filing hk hread
  · intro hread
    have hd : Toward (place names) home storeFiles d d := .refl h.houses
    exact hd.read_of_filing (hback content hread) hk hread

/-- If an artifact can be read beside the map, then the folder of the cache is there without the
map. -/
theorem IsEmptied.filing_back (h : IsEmptied home d e) (hd : Houses (place names) home d)
    {k : Kind} (hk : k.fileName ∉ storeFiles) {content : Disk.Content}
    (hread : d.read (k.route (.ofNames names)) = .ok content) : Filing home storeFiles d e := by
  rw [k.route_ofNames, Kind.place] at hread
  obtain ⟨-, time, hnode⟩ := (.refl hd : Toward _ _ storeFiles _ _).node?_of_read hread
  rw [h.storing.node?_file hk] at hnode
  have hhome := h.tree.dropLast (by rw [hnode]; exact Option.some_ne_none _)
  rw [List.dropLast_concat] at hhome
  refine h.storing.toFiling.symm fun p hp => h.tree.node?_of_prefix ?_ hp
  rw [hhome]
  exact Option.some_ne_none _

/-! ## Plain disks

Without links the cache folder is where its name says, and neither ignore files nor settings are
read there. -/

theorem IsDirect.of_links (h : d.IsLinkless) (hnumbers : d.numbers.entries = []) :
    IsDirect names d :=
  fun _ _ _ => ⟨fun _ => h.node?_ne _ _, Disk.isSole_of_numbers hnumbers _⟩

/-- The settings do not stand in the cache folder. -/
theorem node?_settingsPlace {files : List String} (h : Storing (place names) files d d') :
    d'.node? (settingsPlace names) = d.node? (settingsPlace names) := by
  rcases h.node (settingsPlace names) with hsame | ⟨⟨name, -, heq⟩, -⟩ | ⟨hway, -, -⟩
  · exact hsame
  · have hlength := congrArg List.length heq
    simp [settingsPlace, place] at hlength
  · exact absurd hway settingsPlace_not_prefix_place

theorem Detached.of_plain (h : d.IsPlain) : Detached names d := by
  intro home e htree hfollow hstoring
  rw [folder_ofNames] at hfollow
  obtain rfl := (Disk.leads_of_follow hfollow).eq_of_straight (h.maintains.straight _)
  have hmaintains : Maintains e d :=
    ⟨fun _ => hstoring.folder, h.maintains.links, h.maintains.repositories⟩
  have hbefore : Maintains e e := by
    refine ⟨fun _ hfolder => hfolder, fun p target hlink => ?_, fun p content time hgit => ?_⟩
    · exact h.maintains.links p target (hstoring.link hlink)
    · rw [← hstoring.file_iff (by decide)] at hgit
      exact h.maintains.repositories p content time hgit
  refine .of_status
    (Scan.rulesOf_congr hmaintains hbefore htree fun p name hname content time => ?_)
    (hbefore.straight _) (hmaintains.straight _)
    (fun node => hmaintains.status_iff hbefore htree (node?_settingsPlace hstoring))
    (hstoring.time _ settingsPlace_not_prefix_place)
  exact hstoring.file_iff (ruleNames_not_storeFiles name hname)

/-! ## Disks on which storing changes the project -/

namespace Sample

/-- The settings are a link to the folder that holds them, which gets the cache folder. -/
def looped : Disk where
  nodes := .ofList [(["p"], .folder), (["p", ".atlas"], .folder),
    (["p", ".atlas", "config.json"], .link "."), (["p", "a.ts"], .file (.text "") 1000000)]
  faults := []
  workingFolder := []
  clock := [7000000]

/-- The draft of the metadata is another name of the source file. -/
def tied : Disk where
  nodes := .ofList [(["p"], .folder), (["p", ".atlas"], .folder),
    (["p", ".atlas", "cache"], .folder),
    (["p", ".atlas", "cache", "meta.json.tmp"], .file (.text "") 1000000),
    (["p", "a.ts"], .file (.text "") 1000000)]
  faults := []
  workingFolder := []
  numbers := .ofList [(["p", ".atlas", "cache", "meta.json.tmp"], 1), (["p", "a.ts"], 1)]

end Sample

end Gazetteer.Cache
