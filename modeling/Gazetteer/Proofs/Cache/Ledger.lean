import Gazetteer.Proofs.Cache.Files
import Gazetteer.Proofs.Cache.Stored
import Gazetteer.Proofs.Command.Loading

/-!
# The ledger of a cache

The map and the metadata are two files, written one after the other. A ledger notes for each of them
what was written last: the build whose map was saved, and the fingerprint that was recorded. What
can be read from the files is what the ledger says, whatever becomes of single writes. So the map
and the metadata belong together unless the ledger says that they do not: a run has saved its map
and could not record the fingerprint of its tree.
-/

namespace Gazetteer.Cache

open Command
open Disk (Change Clear Confined Confining IoError Route Thinning)
open Disk.Change (Keeps diskAfter)

/-- What a map is built from: a configuration, and the disk that the tree stands on. -/
structure Build where
  config : Area.Config
  disk : Disk

namespace Build

def tree (b : Build) (root : Route) : Snapshot := (Gate.ofProject root).snapshot b.disk root

def map (b : Build) (root : Route) : ProjectMap :=
  MapSnapshot.build (.ofConfig b.config) (b.tree root)

def fingerprint (b : Build) (root : Route) : Fingerprint := (b.tree root).fingerprint

/-- Whether the files of the tree can be counted in a word of the machine. -/
def IsCountable (b : Build) (root : Route) : Prop := (b.tree root).files.length < UInt64.size

instance (b : Build) (root : Route) : Decidable (b.IsCountable root) :=
  inferInstanceAs (Decidable (_ < _))

end Build

/-- What was written last to the files of a cache. -/
structure Ledger where
  /-- The fingerprint in the metadata. -/
  recorded : Option Fingerprint
  /-- The build of the stored map. -/
  kept : Option Build
  /-- Whether the last map was saved by a run that could not record its fingerprint. -/
  torn : Bool

namespace Ledger

def empty : Ledger := ⟨none, none, false⟩

/-- The ledger after the map of a build was stored, as far as the disk allowed it. -/
def afterStore (root : Route) (b : Build) (now : UInt64) (d : Disk) (l : Ledger) : Ledger :=
  match Artifact.save root .map (b.map root).encode now d with
  | .error _ _ => l
  | .ok _ d =>
    match Gate.recordFingerprint root (b.fingerprint root) now d with
    | .error _ _ => { l with kept := some b, torn := true }
    | .ok _ _ => ⟨some (b.fingerprint root), some b, false⟩

/-- The ledger after a run asked for the map of a project. -/
def afterLoad (project : Project) (force : Bool) (now : UInt64) (d : Disk) (l : Ledger) : Ledger :=
  match MapSnapshot.found? project force d with
  | some _ => l
  | none => l.afterStore project.root ⟨project.config, d⟩ now d

/-- The ledger after the cache was invalidated. -/
def afterInvalidation (result : Invalidation) (l : Ledger) : Ledger :=
  match result.reset with
  | .ok () => { l with recorded := none, torn := false }
  | .error _ => l

/-- What the files of a cache can say, by its ledger. -/
structure Describes (names : List String) (l : Ledger) (d : Disk) : Prop where
  clear : Clear (place names) d
  metadata : ∀ content time, d.node? (metaPlace names) = some (.file content time) →
    ∃ m : Meta, content = .text m.encode.pretty ∧ m.fingerprint = l.recorded ∧
      (m.fingerprint ≠ none → m.schemaVersion = some schemaVersion)
  map : ∀ content time, d.node? (Kind.map.place names) = some (.file content time) →
    ∃ (b : Build) (savedAt : UInt64), l.kept = some b ∧ b.IsCountable (.ofNames names) ∧
      content = .text (Envelope.encode
        ⟨artifactFormat, .map, savedAt, (b.map (.ofNames names)).encode⟩).pretty

variable {names : List String} {l : Ledger} {d d' : Disk}

/-! ## What can be read -/

theorem ofContent_meta (m : Meta) :
    Disk.Record.ofContent Meta.decoder (.text m.encode.pretty) = .found m :=
  Disk.Record.ofContent_pretty m.isExact_encode (by decide : 1 < 128) m.decodes_encode

theorem ofContent_map {b : Build} {root : Route} (h : b.IsCountable root) (savedAt : UInt64) :
    Disk.Record.ofContent (Envelope.decoder ProjectMap.decoder)
      (.text (Envelope.encode ⟨artifactFormat, .map, savedAt, (b.map root).encode⟩).pretty) =
        .found ⟨artifactFormat, .map, savedAt, b.map root⟩ := by
  have hmap : (b.map root).IsCountable :=
    ProjectMap.isCountable_build _ (by rwa [Scan.paths, List.length_map])
  have hformat : artifactFormat < UInt32.size := by decide
  let e : Envelope Json := ⟨artifactFormat, .map, savedAt, (b.map root).encode⟩
  exact Disk.Record.ofContent_pretty
    (Envelope.isExact_encode (e := e) hformat (ProjectMap.isExact_encode hmap))
    (by decide : 0 + 5 < 128) (Envelope.decodes_encode hformat (ProjectMap.decodes_encode hmap))

/-- Metadata that can be read hold the fingerprint of the ledger. -/
theorem Describes.stored_eq_found (h : l.Describes names d) {m : Meta}
    (hstored : Gate.stored d (.ofNames names) = .found m) : m.fingerprint = l.recorded ∧
      (m.fingerprint ≠ none → m.schemaVersion = some schemaVersion) := by
  obtain ⟨content, time, hnode, hcontent⟩ := Gate.node?_of_stored h.clear hstored
  obtain ⟨written, rfl, hwritten⟩ := h.metadata content time hnode
  rw [ofContent_meta] at hcontent
  cases hcontent
  exact hwritten

/-- A map that can be loaded is the map of the build of the ledger. -/
theorem Describes.map_of_load? (h : l.Describes names d) {m : ProjectMap}
    (hload : Artifact.load? d (.ofNames names) .map ProjectMap.decoder = some m) :
    ∃ b, l.kept = some b ∧ b.map (.ofNames names) = m := by
  obtain ⟨content, time, savedAt, hnode, hcontent⟩ := Artifact.node?_of_load? h.clear hload
  obtain ⟨b, writtenAt, hkept, hcount, rfl⟩ := h.map content time hnode
  rw [ofContent_map hcount] at hcontent
  cases hcontent
  exact ⟨b, hkept, rfl⟩

/-- A file of metadata that can be read as a file can be read as metadata. -/
theorem Describes.exists_stored (h : l.Describes names d)
    (hread : (d.read (metaRoute (.ofNames names))).isOk = true) :
    ∃ m, Gate.stored d (.ofNames names) = .found m := by
  unfold Gate.stored Disk.readRecord
  rw [metaRoute_ofNames] at hread ⊢
  cases hcontent : d.read (.ofNames (metaPlace names)) with
  | error e => rw [hcontent] at hread; cases hread
  | ok content =>
    obtain ⟨time, hnode⟩ := Disk.node?_of_read (h.clear.file "meta.json") hcontent
    obtain ⟨m, rfl, -⟩ := h.metadata content time hnode
    exact ⟨m, ofContent_meta m⟩

theorem Describes.exists_load? (h : l.Describes names d)
    (hread : (d.read (Kind.map.route (.ofNames names))).isOk = true) :
    ∃ b, l.kept = some b ∧ Artifact.load? d (.ofNames names) .map ProjectMap.decoder =
      some (b.map (.ofNames names)) := by
  unfold Artifact.load? Disk.readRecord
  rw [Kind.route_ofNames] at hread ⊢
  cases hcontent : d.read (.ofNames (Kind.map.place names)) with
  | error e => rw [hcontent] at hread; cases hread
  | ok content =>
    obtain ⟨time, hnode⟩ := Disk.node?_of_read (h.clear.file Kind.map.fileName) hcontent
    obtain ⟨b, savedAt, hkept, hcount, rfl⟩ := h.map content time hnode
    refine ⟨b, hkept, ?_⟩
    simp only [ofContent_map hcount, and_self, if_true]

/-- A cache is fresh when the fingerprint of the ledger, if it can be read, is that of the tree. -/
theorem Describes.isFresh_iff (h : l.Describes names d) :
    ((Gate.ofProject (.ofNames names)).check d (.ofNames names)).isFresh = true ↔
      (∃ m, Gate.stored d (.ofNames names) = .found m) ∧
        l.recorded = some ((Gate.ofProject (.ofNames names)).fingerprint d (.ofNames names)) := by
  unfold Gate.check Status.isFresh staleReasons
  cases hstored : Gate.stored d (.ofNames names) with
  | missing => simp
  | corrupt => simp
  | found m =>
    obtain ⟨hfingerprint, hschema⟩ := h.stored_eq_found hstored
    rw [← hfingerprint]
    cases hf : m.fingerprint with
    | none => simp [hf]
    | some f =>
      have hsupported : isSupported schemaVersion minSchemaVersion = true := by decide
      simp [hf, hschema (by simp [hf]), hsupported]

/-! ## What keeps the ledger true -/

theorem Describes.empty (h : IsVacant names d) : Ledger.empty.Describes names d where
  clear := h.clear
  metadata content time hnode := by
    rw [metaPlace, h.node _ (List.prefix_append _ _)] at hnode
    cases hnode
  map content time hnode := by
    rw [Kind.place, h.node _ (List.prefix_append _ _)] at hnode
    cases hnode

theorem Describes.congr {l' : Ledger} (h : l.Describes names d)
    (hrecorded : l'.recorded = l.recorded) (hkept : l'.kept = l.kept) : l'.Describes names d :=
  ⟨h.clear, by rw [hrecorded]; exact h.metadata, by rw [hkept]; exact h.map⟩

/-- Both files are as they were, or gone. -/
theorem Describes.of_node? (h : l.Describes names d) (hclear : Clear (place names) d')
    (hmeta : d'.node? (metaPlace names) = d.node? (metaPlace names) ∨
      d'.node? (metaPlace names) = none)
    (hmap : d'.node? (Kind.map.place names) = d.node? (Kind.map.place names) ∨
      d'.node? (Kind.map.place names) = none) : l.Describes names d' where
  clear := hclear
  metadata content time hnode := by
    rcases hmeta with heq | hnone
    · exact h.metadata content time (heq ▸ hnode)
    · rw [hnone] at hnode
      cases hnode
  map content time hnode := by
    rcases hmap with heq | hnone
    · exact h.map content time (heq ▸ hnode)
    · rw [hnone] at hnode
      cases hnode

/-- A change that touches neither of the two files. -/
theorem Describes.of_confined {files : List String} (h : l.Describes names d)
    (hconfined : Confining (place names) files d d') (hmeta : "meta.json" ∉ files)
    (hmap : Kind.map.fileName ∉ files) : l.Describes names d' :=
  have hfiles := hconfined h.clear
  h.of_node? hfiles.clear (.inl (hfiles.node?_file hmeta)) (.inl (hfiles.node?_file hmap))

theorem Describes.after_metadata {m : Meta} {now : UInt64} {r : Option Fingerprint}
    (h : l.Describes names d) (hm : m.fingerprint = r ∧
      (m.fingerprint ≠ none → m.schemaVersion = some schemaVersion))
    (hrun : Change.writeRecord (metaRoute (.ofNames names)) m.encode now d = .ok () d') :
    ({ l with recorded := r } : Ledger).Describes names d' := by
  have hfiles := (Gate.keeps_writeMeta m now).of_ok hrun h.clear
  obtain ⟨time, hmeta⟩ := Gate.writeMeta_ok h.clear hrun
  refine ⟨hfiles.clear, fun content t hnode => ?_, fun content t hnode => ?_⟩
  · rw [hmeta] at hnode
    cases hnode
    exact ⟨m, rfl, hm⟩
  · have hmap := hfiles.node?_file (by decide : Kind.map.fileName ∉ metaFiles)
    exact h.map content t (hmap ▸ hnode)

theorem Describes.after_failed_metadata {m : Meta} {now : UInt64} {e : IoError}
    (h : l.Describes names d)
    (hrun : Change.writeRecord (metaRoute (.ofNames names)) m.encode now d = .error e d') :
    l.Describes names d' :=
  h.of_confined (Gate.writeMeta_error hrun) (by decide) (by decide)

theorem Describes.after_map {b : Build} {now : UInt64} (h : l.Describes names d)
    (hcount : b.IsCountable (.ofNames names))
    (hrun : Artifact.save (.ofNames names) .map (b.map (.ofNames names)).encode now d = .ok () d') :
    ({ l with kept := some b } : Ledger).Describes names d' := by
  have hfiles := (Artifact.keeps_save .map _ now).of_ok hrun h.clear
  obtain ⟨time, hmap⟩ := Artifact.save_ok h.clear hrun
  refine ⟨hfiles.clear, fun content t hnode => ?_, fun content t hnode => ?_⟩
  · have hmeta := hfiles.node?_file (by decide : "meta.json" ∉ Kind.map.files)
    exact h.metadata content t (hmeta ▸ hnode)
  · rw [hmap] at hnode
    cases hnode
    exact ⟨b, now, rfl, hcount, rfl⟩

theorem Describes.after_failed_map {data : Json} {now : UInt64} {e : IoError}
    (h : l.Describes names d)
    (hrun : Artifact.save (.ofNames names) .map data now d = .error e d') :
    l.Describes names d' :=
  h.of_confined (Artifact.save_error hrun) (by decide) (by decide)

theorem Describes.after_fingerprint {f : Fingerprint} {now : UInt64} {m : Meta}
    (h : l.Describes names d)
    (hrun : Gate.recordFingerprint (.ofNames names) f now d = .ok m d') :
    ({ l with recorded := some f } : Ledger).Describes names d' := by
  unfold Gate.recordFingerprint at hrun
  rw [Change.get_bind] at hrun
  obtain ⟨_, _, hwrite, hrun⟩ := Change.bind_eq_ok.1 hrun
  cases hrun
  exact h.after_metadata ⟨rfl, fun _ => rfl⟩ hwrite

theorem Describes.after_failed_fingerprint {f : Fingerprint} {now : UInt64} {e : IoError}
    (h : l.Describes names d)
    (hrun : Gate.recordFingerprint (.ofNames names) f now d = .error e d') :
    l.Describes names d' := by
  unfold Gate.recordFingerprint at hrun
  rw [Change.get_bind] at hrun
  rcases Change.bind_eq_error.1 hrun with hwrite | ⟨_, _, _, hrun⟩
  · exact h.after_failed_metadata hwrite
  · cases hrun

theorem Describes.afterStore {b : Build} {now : UInt64} (h : l.Describes names d)
    (hcount : b.IsCountable (.ofNames names)) :
    (l.afterStore (.ofNames names) b now d).Describes names
      (diskAfter (MapSnapshot.store (.ofNames names) (b.map (.ofNames names))
        (b.fingerprint (.ofNames names)) now) d) := by
  unfold Ledger.afterStore
  cases hsave : Artifact.save (.ofNames names) .map (b.map (.ofNames names)).encode now d with
  | error e d' =>
    have hstore : MapSnapshot.store (.ofNames names) (b.map (.ofNames names))
        (b.fingerprint (.ofNames names)) now d = .error e d' :=
      Change.bind_eq_error.2 (.inl hsave)
    rw [Change.diskAfter_of_error hstore]
    exact h.after_failed_map hsave
  | ok _ m =>
    -- From here on the map is new, whether or not its fingerprint gets recorded.
    have hmap := h.after_map hcount hsave
    rw [MapSnapshot.store, Change.diskAfter_bind hsave, Change.diskAfter_discard]
    cases hrun : Gate.recordFingerprint (.ofNames names) (b.fingerprint (.ofNames names)) now m with
    | ok _ d' =>
      rw [Change.diskAfter_of_ok hrun]
      simp only [hrun]
      exact (hmap.after_fingerprint hrun).congr rfl rfl
    | error e d' =>
      rw [Change.diskAfter_of_error hrun]
      simp only [hrun]
      exact (hmap.after_failed_fingerprint hrun).congr rfl rfl

/-- Metadata with the fingerprint that is recorded already. -/
theorem Describes.after_same_metadata {m : Meta} (h : l.Describes names d)
    (hm : m.fingerprint = l.recorded ∧
      (m.fingerprint ≠ none → m.schemaVersion = some schemaVersion)) (now : UInt64) :
    l.Describes names
      (diskAfter (Change.writeRecord (metaRoute (.ofNames names)) m.encode now) d) := by
  cases hrun : Change.writeRecord (metaRoute (.ofNames names)) m.encode now d with
  | ok _ d' =>
    rw [Change.diskAfter_of_ok hrun]
    exact h.after_metadata hm hrun
  | error e d' =>
    rw [Change.diskAfter_of_error hrun]
    exact h.after_failed_metadata hrun

theorem Describes.markChecked (h : l.Describes names d) (now : UInt64) :
    l.Describes names (diskAfter (Gate.markChecked (.ofNames names) now) d) := by
  unfold Gate.markChecked
  rw [Change.diskAfter_get]
  -- Only metadata that could be read are written again.
  cases hstored : Gate.stored d (.ofNames names) with
  | missing => exact h
  | corrupt => exact h
  | found m =>
    have hm := h.stored_eq_found hstored
    exact h.after_same_metadata (m := { m with lastCheck := some now }) hm now

/-- Removing artifacts leaves files as they are or takes them away. -/
theorem Describes.removeAll (h : l.Describes names d) :
    l.Describes names (diskAfter (Artifact.removeAll (.ofNames names)) d) :=
  have hthin := Artifact.thinning_removeAll (.ofNames names) d
  h.of_node? (Artifact.keeps_removeAll d h.clear).clear (hthin _) (hthin _)

theorem clearAll_disk (root : Route) (d : Disk) :
    (Gate.clearAll root (Gate.ofProject root).hooks d).2 =
      diskAfter (Artifact.removeAll root) d := by
  show (Gate.attempt ((Hook.ofArtifacts root).clear root) d).2 = _
  unfold Gate.attempt Hook.ofArtifacts diskAfter
  simp only
  cases Artifact.removeAll root d <;> rfl

theorem invalidate_eq (root : Route) (now : UInt64) (d : Disk) :
    ((Gate.ofProject root).invalidate root now d).1.reset =
        (Gate.attempt (Change.writeRecord (metaRoute root) Meta.empty.encode now) d).1 ∧
      ((Gate.ofProject root).invalidate root now d).2 = diskAfter (Artifact.removeAll root)
        (Gate.attempt (Change.writeRecord (metaRoute root) Meta.empty.encode now) d).2 := by
  unfold Gate.invalidate
  simp only [bind, StateT.bind, pure]
  cases Gate.attempt (Change.writeRecord (metaRoute root) Meta.empty.encode now) d with
  | mk reset m => exact ⟨rfl, clearAll_disk root m⟩

theorem Describes.after_reset (h : l.Describes names d) {result : Invalidation} {now : UInt64}
    (hreset : result.reset =
      (Gate.attempt (Change.writeRecord (metaRoute (.ofNames names)) Meta.empty.encode now) d).1) :
    (l.afterInvalidation result).Describes names
      (Gate.attempt (Change.writeRecord (metaRoute (.ofNames names)) Meta.empty.encode now)
        d).2 := by
  unfold Ledger.afterInvalidation
  rw [hreset]
  unfold Gate.attempt
  cases hrun : Change.writeRecord (metaRoute (.ofNames names)) Meta.empty.encode now d with
  | ok _ d' => exact (h.after_metadata ⟨rfl, fun hne => absurd rfl hne⟩ hrun).congr rfl rfl
  | error e d' => exact h.after_failed_metadata hrun

theorem Describes.afterInvalidation (h : l.Describes names d) (now : UInt64) :
    let result := (Gate.ofProject (.ofNames names)).invalidate (.ofNames names) now d
    (l.afterInvalidation result.1).Describes names result.2 := by
  intro result
  obtain ⟨hreset, hdisk⟩ := invalidate_eq (.ofNames names) now d
  rw [hdisk]
  exact (h.after_reset hreset).removeAll

theorem Describes.afterLoad {project : Project} {s : Session} (h : l.Describes names s.disk)
    (hroot : project.root = .ofNames names)
    (hcount : (⟨project.config, s.disk⟩ : Build).IsCountable (.ofNames names)) (force : Bool)
    (now : UInt64) : (l.afterLoad project force now s.disk).Describes names
      (MapSnapshot.loadOrBuild project force now s).2.disk := by
  unfold Ledger.afterLoad
  cases hfound : MapSnapshot.found? project force s.disk with
  | some map =>
    rw [MapSnapshot.loadOrBuild_of_found hfound, hroot]
    exact h.markChecked now
  | none =>
    obtain ⟨-, hdisk⟩ := MapSnapshot.rebuild_eq project
      ((Gate.ofProject project.root).check s.disk project.root).reasons now s
    rw [MapSnapshot.loadOrBuild_of_not_found hfound, hdisk]
    let b : Build := ⟨project.config, s.disk⟩
    have hstoring : MapSnapshot.storing project now s.disk = MapSnapshot.store (.ofNames names)
        (b.map (.ofNames names)) (b.fingerprint (.ofNames names)) now := by
      rw [← hroot]
      rfl
    rw [hstoring, hroot]
    exact h.afterStore hcount

end Ledger
end Gazetteer.Cache
