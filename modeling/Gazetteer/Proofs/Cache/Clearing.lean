import Gazetteer.Proofs.Cache.Invalidation
import Gazetteer.Proofs.Cache.Shelf

/-!
# Clearing the cache folder

Artifacts are removed one after the other, and the first that cannot be removed ends this. So what
stands in the way of one artifact saves those behind it: an artifact is left exactly if its own
removal or one before it fails (`stands_after_clearing_iff`), although an invalidation reports
failures and goes on.
-/

namespace Gazetteer.Cache

open Disk (Alike Change IoError Route Thinning)
open Disk.Change (diskAfter removal removeFile)

variable {root : Route} {d d' : Disk} {home : List String} {kind : Kind}

theorem locate_route (hfollow : d.follow (folder root) = .ok home) (kind : Kind) :
    d.locate (kind.route root) = (do
      Disk.accept (kind.route root)
      if d.node? home ≠ some .folder then .error .notAFolder
      else .ok (home ++ [kind.fileName])) := by
  have hsize : ¬ Disk.maxNameSize < kind.fileName.utf8ByteSize := by cases kind <;> decide
  rw [kind.route_eq, Disk.locate, List.getLast?_concat, Route.parent_concat, trimmed_folder]
  simp only [bind, Except.bind, hfollow, if_neg hsize]

/-- The name of an artifact has its place in the cache folder, if that can be reached. -/
theorem locate_route_cases (hfollow : d.follow (folder root) = .ok home) (kind : Kind) :
    d.locate (kind.route root) = .ok (home ++ [kind.fileName]) ∨
      ∃ e, e ≠ .notFound ∧ d.locate (kind.route root) = .error e := by
  rw [locate_route hfollow]
  cases haccept : Disk.accept (kind.route root) with
  | error e => exact .inr ⟨e, Disk.ne_notFound_of_accept haccept, rfl⟩
  | ok _ =>
    by_cases hfolder : d.node? home = some .folder
    · exact .inl (if_neg (not_not.2 hfolder))
    · exact .inr ⟨.notAFolder, nofun, if_pos hfolder⟩

theorem place_of_removal (hfollow : d.follow (folder root) = .ok home) {place : List String}
    (h : removal d (kind.route root) = .ok place) : place = home ++ [kind.fileName] := by
  obtain ⟨-, hplace, -⟩ := Change.removal_eq_ok.1 h
  rcases locate_route_cases hfollow kind with hlocate | ⟨e, -, hlocate⟩
  · exact Except.ok.inj (hplace.symm.trans hlocate)
  · cases hplace.symm.trans hlocate

theorem eq_none_of_missing (hfollow : d.follow (folder root) = .ok home)
    (h : removal d (kind.route root) = .error .notFound) :
    d.node? (home ++ [kind.fileName]) = none := by
  rcases locate_route_cases hfollow kind with hlocate | ⟨e, hne, hlocate⟩
  · exact Change.eq_none_of_removal h hlocate
  · unfold removal at h
    rw [hlocate] at h
    split at h <;> cases h
    exact absurd rfl hne

/-- What comes of a removal hangs on the next fault and on what stands in the cache folder. -/
theorem removal_congr (hfollow : d.follow (folder root) = .ok home)
    (hfollow' : d'.follow (folder root) = .ok home) (hhome : d'.node? home = d.node? home)
    (hnode : d'.node? (home ++ [kind.fileName]) = d.node? (home ++ [kind.fileName]))
    (hfaults : d'.faults.head? = d.faults.head?) :
    removal d' (kind.route root) = removal d (kind.route root) := by
  have hlocate : d'.locate (kind.route root) = d.locate (kind.route root) := by
    rw [locate_route hfollow, locate_route hfollow', hhome]
  unfold removal
  rw [hlocate, hfaults]
  obtain hplace | ⟨e, -, hlost⟩ := locate_route_cases hfollow kind
  · rw [hplace]
    simp only [hnode]
  · rw [hlost]

/-! ## One artifact after the other -/

/-- An artifact that is removed or missing lets the removal go on. -/
theorem diskAfter_removeKinds_of_pass {kinds : List Kind} {m : Disk}
    (h : removeFile (kind.route root) d = .ok () m ∨
      removeFile (kind.route root) d = .error .notFound m) :
    diskAfter (Artifact.removeKinds root (kind :: kinds)) d =
      diskAfter (Artifact.removeKinds root kinds) m := by
  rw [Artifact.removeKinds]
  rcases h with hremoved | hmissing
  · have hone : (do removeFile (kind.route root); pure 1 : Change Nat) d = .ok 1 m :=
      Change.bind_of_ok hremoved
    exact (Change.diskAfter_bind (Change.tryCatch_of_ok hone)).trans
      (Change.diskAfter_bind_pure _ _ m)
  · have hnone : (do removeFile (kind.route root); pure 1 : Change Nat) d =
        .error .notFound m := Change.bind_of_error hmissing
    refine (Change.diskAfter_bind (a := 0) ?_).trans (Change.diskAfter_bind_pure _ _ m)
    exact Change.tryCatch_of_error hnone

/-- Any other failure ends it. -/
theorem diskAfter_removeKinds_of_stop {kinds : List Kind} {e : IoError} {m : Disk}
    (hne : e ≠ .notFound) (h : removeFile (kind.route root) d = .error e m) :
    diskAfter (Artifact.removeKinds root (kind :: kinds)) d = m := by
  have hfailed : (do removeFile (kind.route root); pure 1 : Change Nat) d = .error e m :=
    Change.bind_of_error h
  rw [Artifact.removeKinds]
  refine Change.diskAfter_of_error (Change.bind_of_error (e := e) ?_)
  refine (Change.tryCatch_of_error hfailed).trans ?_
  cases e with
  | notFound => exact absurd rfl hne
  | _ => rfl

/-- Whether the removal of an artifact fails, once so many faults have befallen others, so that what
stands behind it is not tried. -/
def Halts (root : Route) (d : Disk) (faults : Nat) (kind : Kind) : Prop :=
  ∃ e, e ≠ .notFound ∧
    removal { d with faults := d.faults.drop faults } (kind.route root) = .error e

/-- The removal of an artifact ends the whole, or nothing of that name stands in the cache folder
any more. -/
theorem removeKinds_cons_cases (hfollow : d.follow (folder root) = .ok home) (kind : Kind)
    (kinds : List Kind) :
    (Halts root d 0 kind ∧ Alike d (diskAfter (Artifact.removeKinds root (kind :: kinds)) d)) ∨
      ¬ Halts root d 0 kind ∧ ∃ m, m.faults = d.faults.tail ∧
        diskAfter (Artifact.removeKinds root (kind :: kinds)) d =
          diskAfter (Artifact.removeKinds root kinds) m ∧
        ∀ p, m.node? p = if p = home ++ [kind.fileName] then none else d.node? p := by
  have hrun := Change.removeFile_eq (kind.route root) d
  have hzero : { d with faults := d.faults.drop 0 } = d := rfl
  cases hremoval : removal d (kind.route root) with
  | ok place =>
    obtain rfl := place_of_removal hfollow hremoval
    rw [hremoval] at hrun
    refine .inr ⟨?_, _, rfl, diskAfter_removeKinds_of_pass (.inl hrun), fun p => ?_⟩
    · rintro ⟨e, -, herror⟩
      rw [hzero, hremoval] at herror
      cases herror
    · exact Disk.node?_removed (by simp) p
  | error e =>
    rw [hremoval] at hrun
    by_cases he : e = .notFound
    · subst he
      refine .inr ⟨?_, _, rfl, diskAfter_removeKinds_of_pass (.inr hrun), fun p => ?_⟩
      · rintro ⟨e, hne, herror⟩
        rw [hzero, hremoval] at herror
        cases herror
        exact hne rfl
      · have hnone := eq_none_of_missing hfollow hremoval
        split
        next hp => rw [hp]; exact hnone
        · rfl
    · refine .inl ⟨⟨e, he, hremoval⟩, fun p => ?_⟩
      rw [diskAfter_removeKinds_of_stop he hrun]
      rfl

/-- The removal of one artifact does not count for that of another, but for the fault it uses up. -/
theorem halts_iff_of_removed {other : Kind} {m : Disk} (hne : other ≠ kind)
    (hfollow : d.follow (folder root) = .ok home) (hfollow' : m.follow (folder root) = .ok home)
    (hfaults : m.faults = d.faults.tail)
    (hnode : ∀ p, m.node? p = if p = home ++ [kind.fileName] then none else d.node? p)
    (faults : Nat) : Halts root m faults other ↔ Halts root d (faults + 1) other := by
  have hsame : ∀ (disk : Disk) (n : Nat),
      Alike disk { disk with faults := disk.faults.drop n } := fun _ _ _ => rfl
  have hother : home ++ [other.fileName] ≠ home ++ [kind.fileName] := fun heq =>
    hne (Kind.fileName_injective (by simpa using heq))
  have hremoval : removal { m with faults := m.faults.drop faults } (other.route root) =
      removal { d with faults := d.faults.drop (faults + 1) } (other.route root) := by
    refine removal_congr (((hsame d _).follow_eq _).trans hfollow)
      (((hsame m _).follow_eq _).trans hfollow') ?_ ?_ ?_
    · exact (hnode home).trans (if_neg (by simp))
    · exact (hnode _).trans (if_neg hother)
    · show (m.faults.drop faults).head? = (d.faults.drop (faults + 1)).head?
      rw [hfaults, List.drop_tail]
  unfold Halts
  rw [hremoval]

/-- Whether a run over several artifacts comes past one: it is among them, and no removal fails up
to its own. -/
def Passes (root : Route) (d : Disk) (kinds : List Kind) (kind : Kind) : Prop :=
  kind ∈ kinds ∧ ∀ other ∈ kinds, kinds.idxOf other ≤ kinds.idxOf kind →
    ¬ Halts root d (kinds.idxOf other) other

theorem not_passes_of_halts {first : Kind} {kinds : List Kind} (h : Halts root d 0 first) :
    ¬ Passes root d (first :: kinds) kind := by
  rintro ⟨-, hall⟩
  have hfirst := hall first List.mem_cons_self
  rw [List.idxOf_cons_self] at hfirst
  exact hfirst (Nat.zero_le _) h

theorem passes_cons_self {kinds : List Kind} (h : ¬ Halts root d 0 kind) :
    Passes root d (kind :: kinds) kind := by
  refine ⟨List.mem_cons_self, fun other _ hle => ?_⟩
  by_cases heq : other = kind
  · rwa [heq, List.idxOf_cons_self]
  · rw [List.idxOf_cons_ne _ (Ne.symm heq), List.idxOf_cons_self] at hle
    omega

/-- A run that goes on from another disk comes past an artifact if the whole run does. -/
theorem passes_cons_iff {first : Kind} {kinds : List Kind} {m : Disk} (hne : kind ≠ first)
    (hfresh : first ∉ kinds) (hpass : ¬ Halts root d 0 first)
    (hlater : ∀ other ∈ kinds, ∀ n, Halts root m n other ↔ Halts root d (n + 1) other) :
    Passes root d (first :: kinds) kind ↔ Passes root m kinds kind := by
  have hplace : ∀ other, other ≠ first → (first :: kinds).idxOf other = kinds.idxOf other + 1 :=
    fun other hother => List.idxOf_cons_ne _ hother.symm
  unfold Passes
  rw [List.mem_cons, or_iff_right hne, List.forall_mem_cons, List.idxOf_cons_self, hplace kind hne]
  refine and_congr_right fun _ => ?_
  rw [and_iff_right fun _ => hpass]
  refine forall₂_congr fun other hother => ?_
  rw [hplace other (ne_of_mem_of_not_mem hother hfresh), Nat.succ_le_succ_iff, hlater other hother]

/-- An artifact is gone after a run over several if it was missing, or if the run comes past it. -/
theorem node?_after_removeKinds {kinds : List Kind} (hnodup : kinds.Nodup)
    (hhome : (diskAfter (Artifact.removeKinds root kinds) d).follow (folder root) = .ok home) :
    (diskAfter (Artifact.removeKinds root kinds) d).node? (home ++ [kind.fileName]) = none ↔
      d.node? (home ++ [kind.fileName]) = none ∨ Passes root d kinds kind := by
  induction kinds generalizing d with
  | nil =>
    have hnone : diskAfter (Artifact.removeKinds root []) d = d := rfl
    simp [hnone, Passes]
  | cons first kinds ih =>
    obtain ⟨hfresh, hnodup⟩ := List.nodup_cons.1 hnodup
    have hfollow := (Artifact.thinning_removeKinds root (first :: kinds) d).follow hhome
    rcases removeKinds_cons_cases hfollow first kinds with
      ⟨hhalts, halike⟩ | ⟨hpass, m, hfaults, hafter, hnode⟩
    · -- The run ends here, and nothing has changed.
      rw [halike, or_iff_left (not_passes_of_halts hhalts)]
    · -- The run goes on from a disk without the first artifact.
      rw [hafter] at hhome ⊢
      rw [ih hnodup hhome, hnode]
      by_cases heq : kind = first
      · subst heq
        rw [if_pos rfl]
        exact iff_of_true (.inl rfl) (.inr (passes_cons_self hpass))
      · have hfollow' := (Artifact.thinning_removeKinds root kinds m).follow hhome
        have hname : home ++ [kind.fileName] ≠ home ++ [first.fileName] := fun hnames =>
          heq (Kind.fileName_injective (by simpa using hnames))
        rw [if_neg hname, passes_cons_iff heq hfresh hpass fun other hother =>
          halts_iff_of_removed (ne_of_mem_of_not_mem hother hfresh) hfollow hfollow' hfaults hnode]

/-! ## All artifacts -/

/-- Whether something stands under the name of an artifact in the cache folder. -/
def Stands (root : Route) (d : Disk) (kind : Kind) : Prop :=
  ∃ home, d.follow (folder root) = .ok home ∧ d.node? (home ++ [kind.fileName]) ≠ none

/-- Whether the removal of an artifact fails, and not because it is missing, with the fault that
befalls it when the artifacts before it are tried first. -/
def IsStuck (root : Route) (d : Disk) (kind : Kind) : Prop :=
  ∃ e d', e ≠ .notFound ∧ removeFile (kind.route root)
    { d with faults := d.faults.drop (Kind.all.idxOf kind) } = .error e d'

theorem isStuck_iff : IsStuck root d kind ↔ Halts root d (Kind.all.idxOf kind) kind := by
  unfold IsStuck Halts
  simp only [Change.removeFile_eq]
  constructor
  · rintro ⟨e, d', hne, hrun⟩
    split at hrun <;> cases hrun
    exact ⟨e, hne, by assumption⟩
  · rintro ⟨e, hne, herror⟩
    exact ⟨e, _, hne, by rw [herror]⟩

theorem mem_all (kind : Kind) : kind ∈ Kind.all := by cases kind <;> decide

/-- Whether an artifact is left when the artifacts of a disk are removed and another disk is left.
It stood there, is stuck or comes after one that is, and the cache folder is still reached. -/
structure IsLeft (root : Route) (before after : Disk) (kind : Kind) : Prop where
  stood : Stands root before kind
  reached : ∃ home, after.follow (folder root) = .ok home
  stuck : ∃ other, Kind.all.idxOf other ≤ Kind.all.idxOf kind ∧ IsStuck root before other

theorem stands_after_removeAll_iff (root : Route) (d : Disk) (kind : Kind) :
    Stands root (diskAfter (Artifact.removeAll root) d) kind ↔
      IsLeft root d (diskAfter (Artifact.removeAll root) d) kind := by
  have hthin := Artifact.thinning_removeKinds root Kind.all d
  have hnodup : Kind.all.Nodup := by decide
  unfold Artifact.removeAll
  constructor
  · rintro ⟨home, hhome, hnode⟩
    rw [Ne, node?_after_removeKinds hnodup hhome, not_or] at hnode
    obtain ⟨hstood, hstuck⟩ := hnode
    refine ⟨⟨home, hthin.follow hhome, hstood⟩, ⟨home, hhome⟩, ?_⟩
    by_contra hnone
    apply hstuck
    refine ⟨mem_all kind, ?_⟩
    intro other _ hle hhalts
    exact hnone ⟨other, hle, isStuck_iff.2 hhalts⟩
  · rintro ⟨⟨home, hfollow, hstood⟩, ⟨home', hhome⟩, other, hle, hstuck⟩
    obtain rfl := Except.ok.inj (hfollow.symm.trans (hthin.follow hhome))
    refine ⟨home, hhome, ?_⟩
    rw [Ne, node?_after_removeKinds hnodup hhome, not_or]
    refine ⟨hstood, ?_⟩
    rintro ⟨-, hall⟩
    exact hall other (mem_all other) hle (isStuck_iff.1 hstuck)

namespace Gate

theorem attempt_eq {α : Type} (c : Change α) (d : Disk) :
    attempt c d = ((attempt c d).1, diskAfter c d) := by
  unfold attempt diskAfter
  cases c d <;> rfl

/-- An invalidation of a gate with the hook of the artifacts removes them after the reset. -/
theorem invalidate_ofArtifacts_disk (g : Gate) (root : Route) (now : UInt64) (d : Disk) :
    ({ g with hooks := [.ofArtifacts root] }.invalidate root now d).2 =
      diskAfter (Artifact.removeAll root)
        (diskAfter (Change.writeRecord (metaRoute root) Meta.empty.encode now) d) := by
  obtain ⟨-, hdisk⟩ := invalidate_run (g := { g with hooks := [.ofArtifacts root] })
    (attempt_eq (Change.writeRecord (metaRoute root) Meta.empty.encode now) d)
  rw [hdisk, clearAll_cons_disk, clearAll_nil_disk, ofArtifacts_diskAfter]

/-- What is left of the artifacts when they are removed, alone or in an invalidation, whether the
metadata could be reset or not. -/
theorem stands_after_clearing_iff (g : Gate) (root : Route) (now : UInt64) (d : Disk)
    (kind : Kind) :
    (Stands root (diskAfter (Artifact.removeAll root) d) kind ↔
      IsLeft root d (diskAfter (Artifact.removeAll root) d) kind) ∧
    (Stands root ({ g with hooks := [.ofArtifacts root] }.invalidate root now d).2 kind ↔
      IsLeft root (diskAfter (Change.writeRecord (metaRoute root) Meta.empty.encode now) d)
        ({ g with hooks := [.ofArtifacts root] }.invalidate root now d).2 kind) := by
  refine ⟨stands_after_removeAll_iff root d kind, ?_⟩
  rw [invalidate_ofArtifacts_disk]
  exact stands_after_removeAll_iff root _ kind

end Gate

/-! ## A folder in the place of an artifact -/

namespace Sample

/-- A project whose map is stored, with a folder where the graph is kept. -/
def wedged : Disk := stored.put ["p", ".atlas", "cache", "graph.json"] .folder

theorem map_is_left_behind_graph :
    (∃ d, removeFile (Kind.map.route Sample.root)
        { wedged with faults := wedged.faults.drop (Kind.all.idxOf .map) } = .ok () d) ∧
      Stands Sample.root (diskAfter (Artifact.removeAll Sample.root) wedged) .map ∧
      Stands Sample.root ((Gate.ofProject Sample.root).invalidate Sample.root 6 wedged).2 .map := by
  refine ⟨?_, ⟨["p", ".atlas", "cache"], ?_, ?_⟩, ⟨["p", ".atlas", "cache"], ?_, ?_⟩⟩
  · have hremoval : removal { wedged with faults := wedged.faults.drop (Kind.all.idxOf .map) }
        (Kind.map.route Sample.root) = .ok ["p", ".atlas", "cache", "map.json"] := by
      decide
    rw [Change.removeFile_eq, hremoval]
    exact ⟨_, rfl⟩
  all_goals decide

end Sample

end Gazetteer.Cache
