import Gazetteer.Proofs.Cache.Pairing
import Gazetteer.Proofs.Disk.Replacing

/-!
# Invalidated caches

An invalidation resets the metadata and asks the hooks to clear what they keep. Whatever stands on
the disk, the cache of a project is stale after that, unless the metadata could not be reset. Then
the cache may count as fresh, by the record that it had. No hook can change this as long as hooks do
not write metadata themselves.
-/

namespace Gazetteer.Cache

open Disk (Change Content IoError Route Thinning)
open Disk.Change (diskAfter)

/-- The disk that a hook leaves, whether it succeeds or fails. -/
def Hook.diskAfter (hook : Hook) (root : Route) (d : Disk) : Disk :=
  (Gate.attempt (hook.clear root) d).2

/-- Whether metadata that can be read after a hook could be read before it. -/
def Hook.RecordsNothing (root : Route) (hook : Hook) : Prop :=
  ∀ d m, Gate.stored (hook.diskAfter root d) root = .found m → Gate.stored d root = .found m

/-! ## What is read as metadata -/

theorem metaRoute_eq (root : Route) :
    metaRoute root = root.opened ++ Route.ofNames [".atlas", "cache"] ++ [.down "meta.json"] := by
  simp [metaRoute, folder, Route.child, Route.opened, Route.ofNames]

namespace Gate

variable {d d' : Disk} {root : Route} {m : Meta}

theorem exists_read_of_stored (h : stored d root = .found m) :
    ∃ content, d.read (metaRoute root) = .ok content ∧
      Disk.Record.ofContent Meta.decoder content = .found m := by
  unfold stored Disk.readRecord at h
  split at h
  next content hread => exact ⟨content, hread, h⟩
  · cases h
  · cases h

theorem stored_of_read {content : Content} (hread : d.read (metaRoute root) = .ok content)
    (h : Disk.Record.ofContent Meta.decoder content = .found m) : stored d root = .found m := by
  unfold stored Disk.readRecord
  rw [hread]
  exact h

/-- Of the text of an empty record only the whole can be read, and it holds nothing. -/
theorem eq_empty_of_part {kept : Nat} (h : Disk.Record.ofContent Meta.decoder
    (.text (.ofList (Meta.empty.encode.pretty.toList.take kept))) = .found m) : m = .empty := by
  have htext : Meta.empty.encode.pretty.toList = ['{', '}'] := by decide
  rw [htext] at h
  match kept with
  | 0 =>
    have hcorrupt : Disk.Record.ofContent Meta.decoder (.text (.ofList [])) = .corrupt := by
      decide
    cases hcorrupt.symm.trans h
  | 1 =>
    have hcorrupt : Disk.Record.ofContent Meta.decoder (.text (.ofList ['{'])) = .corrupt := by
      decide
    cases hcorrupt.symm.trans h
  | kept + 2 =>
    rw [List.take_of_length_le (by simp), ← htext, String.ofList_toList] at h
    exact (Disk.Record.found.inj ((Ledger.ofContent_meta .empty).symm.trans h)).symm

/-- A record that makes a cache count as fresh holds something. -/
theorem exists_stored_of_isValid {g : Gate} (h : g.isValid d root = true) :
    ∃ m, stored d root = .found m ∧ m ≠ .empty := by
  unfold isValid check Status.isFresh staleReasons at h
  cases hstored : stored d root with
  | missing => simp [hstored] at h
  | corrupt => simp [hstored] at h
  | found m =>
    refine ⟨m, rfl, ?_⟩
    rintro rfl
    simp [hstored, Meta.empty] at h

/-! ## Resetting -/

/-- Metadata that can be read after some were written are these. -/
theorem stored_after_write {now : UInt64} {written : Meta}
    (h : Change.writeRecord (metaRoute root) written.encode now d = .ok () d')
    (hstored : stored d' root = .found m) : m = written := by
  obtain ⟨content, hread, hcontent⟩ := exists_read_of_stored hstored
  rw [metaRoute_eq] at h hread
  obtain rfl := Change.read_of_writeRecord isDotted_meta h hread
  rw [Ledger.ofContent_meta] at hcontent
  cases hcontent
  rfl

/-- After a reset has failed a record that is not empty is the one that stood before. -/
theorem stored_after_failed_reset {now : UInt64} {e : IoError} (htree : d.IsTree)
    (hroot : d.isPresent root = true)
    (h : Change.writeRecord (metaRoute root) Meta.empty.encode now d = .error e d')
    (hstored : stored d' root = .found m) (hm : m ≠ .empty) : stored d root = .found m := by
  obtain ⟨content, hread, hcontent⟩ := exists_read_of_stored hstored
  rw [metaRoute_eq] at h hread
  obtain ⟨above, htop⟩ := Disk.exists_leads_of_isPresent hroot
  rcases Change.read_of_writeRecord_error isDotted_meta htree htop h hread with
    hold | ⟨kept, rfl⟩
  · rw [← metaRoute_eq] at hold
    exact stored_of_read hold hcontent
  · exact absurd (eq_empty_of_part hcontent) hm

theorem recordFingerprint_of_record {g : Gate} {now : UInt64} (h : g.record root now d = .ok m d') :
    recordFingerprint root (g.fingerprint d root) now d = .ok m d' := by
  unfold record at h
  rwa [Change.get_bind] at h

/-! ## Hooks -/

theorem clearAll_nil_disk (root : Route) (d : Disk) : (clearAll root [] d).2 = d := rfl

theorem clearAll_cons_disk (root : Route) (hook : Hook) (hooks : List Hook) (d : Disk) :
    (clearAll root (hook :: hooks) d).2 = (clearAll root hooks (hook.diskAfter root d)).2 := rfl

theorem stored_of_clearAll {hooks : List Hook} (h : ∀ hook ∈ hooks, hook.RecordsNothing root)
    (hstored : stored (clearAll root hooks d).2 root = .found m) : stored d root = .found m := by
  induction hooks generalizing d with
  | nil => exact hstored
  | cons hook hooks ih =>
    rw [clearAll_cons_disk] at hstored
    have hrest := ih (fun other hother => h other (List.mem_cons_of_mem _ hother)) hstored
    exact h hook List.mem_cons_self d m hrest

theorem ofArtifacts_diskAfter (root : Route) (d : Disk) :
    (Hook.ofArtifacts root).diskAfter root d = diskAfter (Artifact.removeAll root) d := by
  unfold Hook.diskAfter attempt Hook.ofArtifacts diskAfter
  simp only
  cases Artifact.removeAll root d <;> rfl

/-- The hook of the artifacts removes files, and so nothing new can be read after it. -/
theorem ofArtifacts_recordsNothing (root : Route) :
    (Hook.ofArtifacts root).RecordsNothing root := by
  intro d m hstored
  rw [ofArtifacts_diskAfter] at hstored
  have hthin : Thinning d (diskAfter (Artifact.removeAll root) d) :=
    Artifact.thinning_removeAll root d
  obtain ⟨content, hread, hcontent⟩ := exists_read_of_stored hstored
  exact stored_of_read (hthin.read hread) hcontent

/-! ## Staleness -/

theorem attempt_of_ok {α ε : Type} {c : EStateM ε Disk α} {a : α} (h : c d = .ok a d') :
    attempt c d = (.ok a, d') := by
  unfold attempt
  rw [h]

theorem attempt_of_error {α ε : Type} {c : EStateM ε Disk α} {e : ε} (h : c d = .error e d') :
    attempt c d = (.error e, d') := by
  unfold attempt
  rw [h]

theorem exists_ok_of_attempt {α : Type} {c : Change α} (h : (attempt c d).1.isOk = true) :
    ∃ a, c d = .ok a (diskAfter c d) := by
  unfold attempt at h
  cases hrun : c d with
  | ok a m => exact ⟨a, by rw [Change.diskAfter_of_ok hrun]⟩
  | error e m =>
    rw [hrun] at h
    cases h

theorem exists_error_of_attempt {α : Type} {c : Change α} (h : (attempt c d).1.isOk = false) :
    ∃ e, c d = .error e (diskAfter c d) := by
  unfold attempt at h
  cases hrun : c d with
  | ok a m =>
    rw [hrun] at h
    cases h
  | error e m => exact ⟨e, by rw [Change.diskAfter_of_error hrun]⟩

/-- The metadata are reset first, and then the hooks are asked. -/
theorem invalidate_run {g : Gate} {now : UInt64} {reset : Except IoError Unit} {m : Disk}
    (h : attempt (Change.writeRecord (metaRoute root) Meta.empty.encode now) d = (reset, m)) :
    (g.invalidate root now d).1.reset = reset ∧
      (g.invalidate root now d).2 = (clearAll root g.hooks m).2 := by
  unfold invalidate
  simp only [bind, StateT.bind, pure, h]
  exact ⟨rfl, rfl⟩

end Gate

/-! ## A folder in the way

A project has its map stored. Then a folder comes to stand where the metadata are drafted, and the
metadata cannot be reset. -/

namespace Sample

def blocked : Disk := stored.put ["p", ".atlas", "cache", "meta.json.tmp"] .folder

theorem describes_blocked : firstLedger.Describes ["p"] blocked := by
  have hplace : ["p", ".atlas", "cache", "meta.json.tmp"] ≠ [] := by decide
  have hnode := Disk.node?_put (d := stored) hplace .folder
  have hclear := reach_stored.describes.clear.of_place (Disk.parting_put hplace _) hnode nofun
  refine reach_stored.describes.of_node? hclear (.inl ?_) (.inl ?_)
  · rw [blocked, hnode, if_neg (by decide)]
  · rw [blocked, hnode, if_neg (by decide)]

theorem isValid_blocked :
    (∃ e, ((Gate.ofProject root).invalidate root 6 blocked).1.reset = .error e) ∧
      (Gate.ofProject root).isValid ((Gate.ofProject root).invalidate root 6 blocked).2 root =
        true := by
  have hreset : ((Gate.ofProject root).invalidate root 6 blocked).1.reset = .error .isAFolder := by
    decide
  have hafter := describes_blocked.afterInvalidation 6
  unfold Ledger.afterInvalidation at hafter
  simp only at hafter
  rw [show (Route.ofNames ["p"]) = root from rfl, hreset] at hafter
  exact ⟨⟨_, hreset⟩, hafter.isFresh_iff.2
    ⟨hafter.exists_stored (by decide), by decide⟩⟩

/-- A hook that stores metadata instead of clearing anything. -/
def recorder : Hook where
  name := "recorder"
  clear root := fun d =>
    match (Gate.ofProject root).record root 7 d with
    | .ok _ d => .ok () d
    | .error e d => .error (.disk e) d

theorem recorder_diskAfter {root : Route} {d d' : Disk} {m : Meta}
    (h : (Gate.ofProject root).record root 7 d = .ok m d') : recorder.diskAfter root d = d' := by
  unfold Hook.diskAfter Gate.attempt recorder
  simp only [h]

def recording : Gate := { Gate.default with hooks := [recorder] }

theorem recording_isValid (d : Disk) :
    recording.isValid d root = (Gate.ofProject root).isValid d root := rfl

/-- The disk after the metadata were reset, before the hook is asked. -/
def cleared : Disk := diskAfter (Change.writeRecord (metaRoute root) Meta.empty.encode 6) stored

def recorded : Disk := diskAfter ((Gate.ofProject root).record root 7) cleared

theorem isValid_recording : (recording.invalidate root 6 stored).1.reset = .ok () ∧
    recording.isValid (recording.invalidate root 6 stored).2 root = true := by
  obtain ⟨_, hclear⟩ : ∃ u, Change.writeRecord (metaRoute root) Meta.empty.encode 6 stored =
      .ok u cleared := Gate.exists_ok_of_attempt (by decide)
  obtain ⟨m, hrecord⟩ : ∃ m, (Gate.ofProject root).record root 7 cleared = .ok m recorded :=
    Gate.exists_ok_of_attempt (by decide)
  obtain ⟨hreset, hdisk⟩ := Gate.invalidate_run (g := recording) (Gate.attempt_of_ok hclear)
  rw [show recording.hooks = [recorder] from rfl, Gate.clearAll_cons_disk,
    recorder_diskAfter hrecord] at hdisk
  rw [hreset, hdisk, Gate.clearAll_nil_disk, recording_isValid]
  have hcleared := reach_stored.describes.after_metadata ⟨rfl, fun hne => absurd rfl hne⟩ hclear
  have hrecorded := hcleared.after_fingerprint (Gate.recordFingerprint_of_record hrecord)
  have hsame : (Gate.ofProject root).fingerprint cleared root =
      (Gate.ofProject root).fingerprint recorded root := by decide
  refine ⟨rfl, hrecorded.isFresh_iff.2 ⟨hrecorded.exists_stored (by decide), ?_⟩⟩
  exact congrArg some hsame

end Sample

namespace Gate

/-- Whatever stands on the disk, and whether hooks fail or not: after the metadata were reset the
cache does not count as fresh. Where it does, the reset has failed, and the record is the one that
the project had. -/
theorem isValid_after_invalidate {g : Gate} {root : Route}
    (hhooks : ∀ hook ∈ g.hooks, hook.RecordsNothing root) (now : UInt64) (d : Disk) :
    ((g.invalidate root now d).1.reset = .ok () →
      g.isValid (g.invalidate root now d).2 root = false) ∧
    (g.isValid (g.invalidate root now d).2 root = true →
      (∃ e, (g.invalidate root now d).1.reset = .error e) ∧
      (d.IsTree → d.isPresent root = true → ∃ m, stored d root = .found m ∧
        stored (g.invalidate root now d).2 root = .found m)) := by
  cases hrun : Change.writeRecord (metaRoute root) Meta.empty.encode now d with
  | ok _ m =>
    obtain ⟨-, hdisk⟩ := invalidate_run (g := g) (attempt_of_ok hrun)
    have hstale : g.isValid (g.invalidate root now d).2 root = false := by
      by_contra hfresh
      obtain ⟨found, hfound, hne⟩ := exists_stored_of_isValid (Bool.not_eq_false _ ▸ hfresh)
      rw [hdisk] at hfound
      exact hne (stored_after_write hrun (stored_of_clearAll hhooks hfound))
    rw [hstale]
    exact ⟨fun _ => rfl, nofun⟩
  | error e m =>
    obtain ⟨hreset, hdisk⟩ := invalidate_run (g := g) (attempt_of_error hrun)
    rw [hreset]
    refine ⟨nofun, fun hfresh => ⟨⟨e, rfl⟩, fun htree hroot => ?_⟩⟩
    obtain ⟨found, hfound, hne⟩ := exists_stored_of_isValid hfresh
    refine ⟨found, ?_, hfound⟩
    rw [hdisk] at hfound
    exact stored_after_failed_reset htree hroot hrun (stored_of_clearAll hhooks hfound) hne

/-- A stored map is stale once the cache is invalidated, and where a folder is in the way the record
that keeps it fresh is the old one. -/
theorem stored_map_is_stale_after_invalidate :
    (∀ hook ∈ (ofProject Sample.root).hooks, hook.RecordsNothing Sample.root) ∧
      ((ofProject Sample.root).invalidate Sample.root 6 Sample.stored).1.reset = .ok () ∧
      (ofProject Sample.root).isValid
        ((ofProject Sample.root).invalidate Sample.root 6 Sample.stored).2 Sample.root = false ∧
      ∃ m, stored Sample.blocked Sample.root = .found m ∧
        stored ((ofProject Sample.root).invalidate Sample.root 6 Sample.blocked).2 Sample.root =
          .found m := by
  have hhooks : ∀ hook ∈ (ofProject Sample.root).hooks, hook.RecordsNothing Sample.root := by
    intro hook hhook
    obtain rfl := List.mem_singleton.1 hhook
    exact ofArtifacts_recordsNothing Sample.root
  have hreset : ((ofProject Sample.root).invalidate Sample.root 6 Sample.stored).1.reset =
      .ok () := by decide
  refine ⟨hhooks, hreset, (isValid_after_invalidate hhooks 6 Sample.stored).1 hreset, ?_⟩
  obtain ⟨-, hrecord⟩ :=
    (isValid_after_invalidate hhooks 6 Sample.blocked).2 Sample.isValid_blocked.2
  exact hrecord (by decide) (by decide)

/-- An invalidated cache may still count as fresh: where the metadata cannot be reset, and where a
hook stores metadata. -/
theorem exists_fresh_after_invalidate :
    (∃ (root : Route) (d : Disk), (ofProject root).isValid d root = true ∧
      (∃ e, ((ofProject root).invalidate root 6 d).1.reset = .error e) ∧
      (ofProject root).isValid ((ofProject root).invalidate root 6 d).2 root = true) ∧
    ∃ (g : Gate) (root : Route) (d : Disk), (g.invalidate root 6 d).1.reset = .ok () ∧
      g.isValid (g.invalidate root 6 d).2 root = true := by
  have hfresh : (ofProject Sample.root).isValid Sample.blocked Sample.root = true :=
    Sample.describes_blocked.isFresh_iff.2
      ⟨Sample.describes_blocked.exists_stored (by decide), by decide⟩
  exact ⟨⟨_, Sample.blocked, hfresh, Sample.isValid_blocked⟩,
    _, _, Sample.stored, Sample.isValid_recording⟩

end Gate
end Gazetteer.Cache
