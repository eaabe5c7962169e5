import Gazetteer.Cache.Gate
import Gazetteer.Proofs.Disk.Writing

/-!
# The files of the cache

Where no link leads to the cache folder of a project or stands in it, and no file in it has another
name, the changes that the gate and
the artifacts make touch one file each, and its draft. A stored record is read from the file that
holds it.
-/

namespace Gazetteer

open Disk (Change Clear Confining IoError Route)
open Disk.Change (Keeps)

/-- What is read as a record stands in the file at the end of a straight way. -/
theorem Disk.node?_of_readRecord {α : Type} {decoder : Json.Decoder α} {d : Disk}
    {names : List String} {a : α} (h : d.Straight names)
    (hread : d.readRecord decoder (Route.ofNames names) = .found a) :
    ∃ content time, d.node? names = some (.file content time) ∧
      Disk.Record.ofContent decoder content = .found a := by
  unfold Disk.readRecord at hread
  split at hread
  next content hcontent =>
    obtain ⟨time, hnode⟩ := Disk.node?_of_read h hcontent
    exact ⟨content, time, hnode, hread⟩
  · cases hread
  · cases hread

namespace Cache

/-- The names on the way to the cache folder of a project. -/
def place (names : List String) : List String := names ++ [".atlas"] ++ ["cache"]

/-- The place of the metadata. -/
def metaPlace (names : List String) : List String := place names ++ ["meta.json"]

/-- The place of the artifact of a kind. -/
def Kind.place (names : List String) (k : Kind) : List String := Cache.place names ++ [k.fileName]

variable {names : List String} {d d' : Disk}

theorem folder_ofNames (names : List String) :
    folder (.ofNames names) = .ofNames (place names) := by
  rw [folder, Route.child_ofNames, Route.child_ofNames, place]

theorem metaRoute_ofNames (names : List String) :
    metaRoute (.ofNames names) = .ofNames (metaPlace names) := by
  rw [metaRoute, folder_ofNames, Route.child_ofNames, metaPlace]

theorem Kind.route_ofNames (names : List String) (k : Kind) :
    k.route (.ofNames names) = .ofNames (k.place names) := by
  rw [route, folder_ofNames, Route.child_ofNames, place]

/-- The files that a kind of artifact takes up while it is stored. -/
def Kind.files (k : Kind) : List String := [k.fileName, Change.draftName k.fileName]

/-- The files that the metadata take up while they are stored. -/
def metaFiles : List String := ["meta.json", Change.draftName "meta.json"]

theorem Kind.isDotted_fileName (k : Kind) : Route.isDotted k.fileName = false := by
  cases k <;> decide

theorem isDotted_meta : Route.isDotted "meta.json" = false := by decide

/-- Nothing stands in the cache folder or where it should stand, and no link on the way to it. -/
structure IsVacant (names : List String) (d : Disk) : Prop where
  clear : Clear (place names) d
  node : ∀ p, place names <+: p → d.node? p = none

theorem node?_eq_none_of_entries (h : ∀ e ∈ d.nodes.entries, ¬ place names <+: e.1)
    {p : List String} (hp : place names <+: p) : d.node? p = none := by
  have hne : p ≠ [] := by
    rintro rfl
    simp [place] at hp
  rw [Disk.node?_of_ne_nil hne]
  refine Option.eq_none_iff_forall_ne_some.2 fun node hnode => ?_
  exact h _ (OrdMap.find?_eq_some_iff.1 hnode) hp

theorem IsVacant.of_entries (hlinks : d.IsLinkless)
    (h : ∀ e ∈ d.nodes.entries, ¬ place names <+: e.1) : IsVacant names d where
  clear := hlinks.clear fun _ =>
    Disk.isSole_of_node?_eq_none (node?_eq_none_of_entries h (List.prefix_append _ _))
  node _ hp := node?_eq_none_of_entries h hp

/-! ## Artifacts -/

namespace Artifact

theorem keeps_save (k : Kind) (data : Json) (now : UInt64) :
    Keeps (Confining (place names) k.files) (save (.ofNames names) k data now) := by
  rw [save, k.route_ofNames]
  exact Change.keeps_writeRecord k.isDotted_fileName _ now

theorem save_ok {k : Kind} {data : Json} {now : UInt64} (h : Clear (place names) d)
    (hrun : save (.ofNames names) k data now d = .ok () d') : ∃ time, d'.node? (k.place names) =
      some (.file (.text (Envelope.encode ⟨artifactFormat, k, now, data⟩).pretty) time) := by
  rw [save, k.route_ofNames] at hrun
  exact Change.writeRecord_ok k.isDotted_fileName h hrun

theorem save_error {k : Kind} {data : Json} {now : UInt64} {e : IoError}
    (hrun : save (.ofNames names) k data now d = .error e d') :
    Confining (place names) [Change.draftName k.fileName] d d' := by
  rw [save, k.route_ofNames] at hrun
  exact Change.writeRecord_error k.isDotted_fileName hrun

theorem keeps_removeKinds {R : Disk → Disk → Prop} [Change.Frame R] {root : Route}
    (hR : ∀ k : Kind, Keeps R (Change.removeFile (k.route root))) (kinds : List Kind) :
    Keeps R (removeKinds root kinds) := by
  induction kinds with
  | nil => exact .pure 0
  | cons kind kinds ih =>
    refine .bind (.tryCatch (.bind (hR kind) fun _ => .pure 1) fun e => ?_) fun n =>
      .bind ih fun m => .pure (n + m)
    cases e with
    | notFound => exact .pure 0
    | _ => exact .throw _

/-- The files of all artifacts. -/
def files : List String := Kind.all.map Kind.fileName

theorem keeps_removeAll : Keeps (Confining (place names) files) (removeAll (.ofNames names)) := by
  refine keeps_removeKinds (fun k => ?_) Kind.all
  rw [k.route_ofNames]
  exact Change.keeps_removeFile (List.mem_map_of_mem (by cases k <;> decide))

theorem thinning_removeKinds (root : Route) (kinds : List Kind) :
    Keeps Disk.Thinning (removeKinds root kinds) :=
  keeps_removeKinds (fun k => Change.thinning_removeFile (k.route root)) kinds

theorem thinning_removeAll (root : Route) : Keeps Disk.Thinning (removeAll root) :=
  thinning_removeKinds root Kind.all

/-- What is loaded was found in the file of the artifact. -/
theorem node?_of_load? {α : Type} {decoder : Json.Decoder α} {k : Kind} {a : α}
    (h : Clear (place names) d) (hload : load? d (.ofNames names) k decoder = some a) :
    ∃ content time savedAt, d.node? (k.place names) = some (.file content time) ∧
      Disk.Record.ofContent (Envelope.decoder decoder) content =
        .found ⟨artifactFormat, k, savedAt, a⟩ := by
  unfold load? at hload
  rw [k.route_ofNames] at hload
  split at hload
  next e hread =>
    obtain ⟨content, time, hnode, hcontent⟩ := Disk.node?_of_readRecord (h.file k.fileName) hread
    split at hload
    next hform =>
      obtain ⟨format, kind, savedAt, data⟩ := e
      obtain ⟨rfl, rfl⟩ := hform
      obtain rfl := Option.some.inj hload
      exact ⟨content, time, savedAt, hnode, hcontent⟩
    next => cases hload
  · cases hload
  · cases hload

end Artifact

/-! ## Metadata -/

namespace Gate

theorem node?_of_stored {m : Meta} (h : Clear (place names) d)
    (hstored : stored d (.ofNames names) = .found m) :
    ∃ content time, d.node? (metaPlace names) = some (.file content time) ∧
      Disk.Record.ofContent Meta.decoder content = .found m := by
  rw [stored, metaRoute_ofNames] at hstored
  exact Disk.node?_of_readRecord (h.file "meta.json") hstored

theorem keeps_writeMeta (m : Meta) (now : UInt64) : Keeps (Confining (place names) metaFiles)
    (Change.writeRecord (metaRoute (.ofNames names)) m.encode now) := by
  rw [metaRoute_ofNames]
  exact Change.keeps_writeRecord isDotted_meta _ now

theorem writeMeta_ok {m : Meta} {now : UInt64} (h : Clear (place names) d)
    (hrun : Change.writeRecord (metaRoute (.ofNames names)) m.encode now d = .ok () d') :
    ∃ time, d'.node? (metaPlace names) = some (.file (.text m.encode.pretty) time) := by
  rw [metaRoute_ofNames] at hrun
  exact Change.writeRecord_ok isDotted_meta h hrun

theorem writeMeta_error {m : Meta} {now : UInt64} {e : IoError}
    (hrun : Change.writeRecord (metaRoute (.ofNames names)) m.encode now d = .error e d') :
    Confining (place names) [Change.draftName "meta.json"] d d' := by
  rw [metaRoute_ofNames] at hrun
  exact Change.writeRecord_error isDotted_meta hrun

end Gate
end Cache
end Gazetteer
