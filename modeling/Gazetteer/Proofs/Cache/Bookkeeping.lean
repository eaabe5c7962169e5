import Gazetteer.Proofs.Cache.Serving
import Gazetteer.Proofs.Scan.Walking
import Mathlib.Data.List.DropRight

/-!
# What a gate keeps on record

A gate records that artifacts were built, notes checks and resets its metadata. Each of these reads
the metadata and writes them again as a text, and reads nothing else but the tree. So after any run
of operations whose writes succeed, the metadata are what the operations say one after the other
(`Performed.keeping`): they are fresh exactly after a record that was not reset, and they say when
the first record since the last reset was made.

Three things can come between. In the cache folder a link, or a draft with another name, can make
one write land on another file. A hook can write metadata. And ignore files or settings can be read
through the files of the cache, or settings can be a folder that gets the cache, so that recording
the tree changes it.
-/

namespace Gazetteer

/-! ## What a scan finds -/

namespace Scan

variable {d d' : Disk} {names base : List String} {depth : Nat}

/-- Where nothing stands there are no files. -/
theorem files_of_missing (hstraight : d.Straight base) (hnone : d.node? base = none) :
    files d (.ofNames base) depth = [] := by
  unfold files
  split
  next own place _ hfollow =>
    obtain rfl := Disk.follow_ofNames hstraight hfollow
    rw [hnone]
  next => rfl

theorem filesBelow_of_missing (htree : d.IsTree) (hnone : d.node? base = none) :
    filesBelow d base depth = [] := by
  rw [List.eq_nil_iff_forall_not_mem]
  intro f hf
  obtain ⟨hnames, ⟨content, time, hstands, -⟩, -⟩ := mem_filesBelow.1 hf
  have hfolder := htree.folder (by rw [hstands]; exact nofun) (List.prefix_append base f.names)
    fun heq => hnames (by simpa using heq)
  rw [hnone] at hfolder
  cases hfolder

end Scan

namespace Cache

open Disk (Change Houses IoError Maintains Route Storing Tending Toward)
open Disk.Change (Keeps diskAfter)

/-! ## Files of the cache -/

/-- The files that storing and removing artifacts touches. -/
def artifactFiles : List String := Kind.all.flatMap Kind.files

/-- All files that are kept in a cache folder. -/
def cacheFiles : List String := artifactFiles ++ metaFiles

theorem isSourceName_cacheFiles : ∀ name ∈ cacheFiles, Scan.isSourceName name = false := by
  decide

theorem ruleNames_not_cacheFiles : ∀ name ∈ Scan.ruleNames, name ∉ cacheFiles := by decide

theorem mem_cacheFiles : (∀ name ∈ artifactFiles, name ∈ cacheFiles) ∧
    ∀ name ∈ metaFiles, name ∈ cacheFiles :=
  ⟨fun _ => List.mem_append_left _, fun _ => List.mem_append_right _⟩

/-- Whether a hook changes at most artifacts of a cache folder, whether it succeeds or fails. -/
def Hook.ClearsArtifacts (names : List String) (hook : Hook) : Prop :=
  ∀ home d, Houses (place names) home d →
    Storing home artifactFiles d (hook.diskAfter (.ofNames names) d)

/-- The hook that removes the artifacts of a project changes nothing else. -/
theorem Hook.ofArtifacts_clearsArtifacts (names : List String) :
    (Hook.ofArtifacts (.ofNames names)).ClearsArtifacts names := by
  intro home d hd
  have hremove : ∀ k : Kind, Keeps (Tending (place names) home artifactFiles d)
      (Change.removeFile (k.route (.ofNames names))) := by
    intro k
    rw [k.route_ofNames, Kind.place]
    apply Change.keeps_tending_removeFile
    cases k <;> decide
  have hall : Keeps (Tending (place names) home artifactFiles d)
      (Artifact.removeAll (.ofNames names)) := Artifact.keeps_removeKinds hremove Kind.all
  rw [Gate.ofArtifacts_diskAfter]
  exact (hall d (.refl hd)).1

namespace Gate

/-! ## Projects of a gate -/

/-- Whether the cache of a project holds nothing but what a gate writes there: everything stands in
a folder, no link stands in the cache folder and no draft with another name, what ignore files say
and the time of the settings stay while the cache is written, and hooks clear artifacts. -/
structure Site (g : Gate) (names : List String) (e : Disk) : Prop where
  tree : e.IsTree
  /-- A root that is behind links is there. -/
  root : e.status (.ofNames names) = .ok .folder ∨ e.Straight names
  direct : IsDirect names e
  apart : ∀ home d, Houses (place names) home d → Storing home cacheFiles e d →
    (∀ base, d.Leads [] (Route.ofNames names) base → Scan.rulesOf d base = Scan.rulesOf e base) ∧
      g.settingsTime d (.ofNames names) = g.settingsTime e (.ofNames names)
  hooks : ∀ hook ∈ g.hooks, hook.ClearsArtifacts names

variable {g : Gate} {names home : List String} {e d d' : Disk} {now : UInt64}

/-- A source file has another name than the files of the cache. -/
theorem node?_source (hstoring : Storing home cacheFiles e d) {base rest : List String}
    (hsource : Scan.isSourceName (rest.getLastD "") = true) (content : Disk.Content) (time : Int) :
    d.node? (base ++ rest) = some (.file content time) ↔
      e.node? (base ++ rest) = some (.file content time) := by
  rcases List.eq_nil_or_concat rest with hnil | ⟨above, name, rfl⟩
  · exact absurd hnil (rest_ne_nil hsource)
  · rw [List.concat_eq_append] at hsource ⊢
    rw [List.getLastD_concat] at hsource
    rw [← List.append_assoc]
    apply hstoring.file_iff
    intro hmem
    rw [isSourceName_cacheFiles name hmem] at hsource
    cases hsource

/-- What is stored in the cache is not met by a scan of the root. -/
theorem Site.files_eq (h : g.Site names e) (hd : Houses (place names) home d)
    (hstoring : Storing home cacheFiles e d) :
    Scan.files d (.ofNames names) g.depth = Scan.files e (.ofNames names) g.depth := by
  have hbelow : ∀ base, d.Leads [] (Route.ofNames names) base →
      Scan.filesBelow d base g.depth = Scan.filesBelow e base g.depth := by
    intro base hbase
    apply Scan.eq_of_mem_iff (Scan.increasing_filesBelow ..) (Scan.increasing_filesBelow ..)
    intro f
    apply Scan.mem_filesBelow_congr ((h.apart home d hd hstoring).1 base hbase)
    exact node?_source hstoring
  rcases h.root with hroot | hstraight
  · obtain ⟨base, hfollow, hfolder⟩ := Disk.follow_of_status hroot
    obtain ⟨hfollow', hfolder'⟩ := hstoring.follow_folder hfollow hfolder
    rw [Scan.files_of_folder hfollow' hfolder', Scan.files_of_folder hfollow hfolder]
    exact hbelow base (Disk.leads_of_follow hfollow')
  · have hstraight' : d.Straight names := by
      intro p hp target hlink
      exact hstraight p hp target (hstoring.link_iff.1 hlink)
    obtain ⟨base, hbase, hfolder⟩ := exists_root hd
    obtain rfl := hbase.eq_of_straight hstraight'
    rcases hstoring.node base with hsame | ⟨-, -, hloose⟩ | ⟨-, hnone, -⟩
    · have hold : e.node? base = some .folder := by rw [← hsame, hfolder]
      have hway : ∀ p, p <+: base → d.node? p = e.node? p := by
        intro p hp
        have hp' : e.node? p = some .folder := by
          by_cases heq : p = base
          · rw [heq, hold]
          · exact h.tree.folder (by rw [hold]; exact nofun) hp heq
        rw [hp', hstoring.folder hp']
      rcases Scan.files_congr hstraight hway with hfiles | ⟨hfiles, hfiles'⟩
      · exact hfiles
      · rw [hfiles, hfiles']
        exact hbelow base hbase
    · exact absurd hfolder hloose.1
    · -- The root was made with the cache, so no source file stands below it.
      rw [Scan.files_of_missing hstraight hnone]
      unfold Scan.files
      split
      next own place _ hfollow =>
        obtain rfl := Disk.follow_ofNames hstraight' hfollow
        simp only [hfolder]
        rw [hbelow place hbase, Scan.filesBelow_of_missing h.tree hnone]
      next => rfl

theorem Site.fingerprint_eq (h : g.Site names e) (hd : Houses (place names) home d)
    (hstoring : Storing home cacheFiles e d) :
    g.fingerprint d (.ofNames names) = g.fingerprint e (.ofNames names) := by
  unfold Gate.fingerprint Gate.snapshot
  simp only [h.files_eq hd hstoring, (h.apart home d hd hstoring).2]

/-! ## Runs -/

/-- What can be asked of a gate, with the reading of the clock where one is taken. -/
inductive Operation where
  | record (now : UInt64)
  | markChecked (now : UInt64)
  | check
  | invalidate (now : UInt64)
deriving DecidableEq, Repr

namespace Operation

/-- The metadata after an operation, on a tree with a fingerprint. -/
def after (f : Fingerprint) (m? : Option Meta) : Operation → Option Meta
  | .record now =>
    some ⟨some toolVersion, some schemaVersion, some ((m?.bind Meta.createdAt).getD now),
      some now, some f⟩
  | .markChecked now => m?.map fun m => { m with lastCheck := some now }
  | .check => m?
  | .invalidate _ => some .empty

/-- Whether an operation says what the metadata are worth. -/
def decides : Operation → Bool
  | .record _ | .invalidate _ => true
  | .markChecked _ | .check => false

def isReset : Operation → Bool
  | .invalidate _ => true
  | _ => false

/-- The reading of the clock at a record. -/
def recordedAt? : Operation → Option UInt64
  | .record now => some now
  | _ => none

end Operation

/-- Whether the last of the records and resets of a run is a record. -/
def EndsRecorded (ops : List Operation) : Prop :=
  ∃ now, (ops.filter Operation.decides).getLast? = some (.record now)

/-- When the first record since the last reset of a run was made. -/
def firstRecord? (ops : List Operation) : Option UInt64 :=
  (ops.rtakeWhile fun op => !op.isReset).findSome? Operation.recordedAt?

/-- Runs of operations from a disk, whose writes succeed. The hooks of a reset may fail. -/
inductive Performed (g : Gate) (root : Route) (e : Disk) : List Operation → Disk → Prop
  | start : Performed g root e [] e
  | record {ops d d' now m} (before : Performed g root e ops d)
    (run : g.record root now d = .ok m d') : Performed g root e (ops ++ [.record now]) d'
  | markChecked {ops d d' now} (before : Performed g root e ops d)
    (run : Gate.markChecked root now d = .ok () d') :
    Performed g root e (ops ++ [.markChecked now]) d'
  | check {ops d} (before : Performed g root e ops d) : Performed g root e (ops ++ [.check]) d
  | invalidate {ops d now} (before : Performed g root e ops d)
    (run : (g.invalidate root now d).1.reset = .ok ()) :
    Performed g root e (ops ++ [.invalidate now]) (g.invalidate root now d).2

/-- The metadata that a run of operations leaves, on a tree with a fingerprint. -/
def metaAfter (f : Fingerprint) (ops : List Operation) : Option Meta :=
  ops.foldl (Operation.after f) none

theorem metaAfter_concat (f : Fingerprint) (ops : List Operation) (op : Operation) :
    metaAfter f (ops ++ [op]) = op.after f (metaAfter f ops) := by
  unfold metaAfter
  rw [List.foldl_append]
  rfl

/-! ### What operations say -/

theorem endsRecorded_concat (ops : List Operation) (op : Operation) :
    EndsRecorded (ops ++ [op]) ↔
      if op.decides then (∃ now, op = .record now) else EndsRecorded ops := by
  unfold EndsRecorded
  rw [List.filter_append]
  by_cases h : op.decides = true
  · simp [h]
  · simp [h]

theorem firstRecord?_concat (ops : List Operation) (op : Operation) :
    firstRecord? (ops ++ [op]) =
      if op.isReset then none else (firstRecord? ops).or op.recordedAt? := by
  unfold firstRecord?
  rw [List.rtakeWhile_concat]
  by_cases h : op.isReset = true
  · simp [h]
  · simp [h, List.findSome?_append]

/-- The time of creation is that of the first record since the last reset. -/
theorem createdAt_metaAfter (f : Fingerprint) (ops : List Operation) :
    (metaAfter f ops).bind Meta.createdAt = firstRecord? ops := by
  induction ops using List.reverseRecOn with
  | nil => rfl
  | append_singleton ops op ih =>
    rw [metaAfter_concat, firstRecord?_concat]
    cases op with
    | record now =>
      show some (((metaAfter f ops).bind Meta.createdAt).getD now) =
        (firstRecord? ops).or (some now)
      rw [ih]
      cases firstRecord? ops <;> rfl
    | markChecked now =>
      show ((metaAfter f ops).map _).bind Meta.createdAt = (firstRecord? ops).or none
      rw [Option.or_none, ← ih]
      cases metaAfter f ops <;> rfl
    | check =>
      show (metaAfter f ops).bind Meta.createdAt = (firstRecord? ops).or none
      rw [Option.or_none, ih]
    | invalidate now => rfl

/-- Metadata hold the fingerprint exactly after a record that was not reset. -/
theorem metaAfter_cases (f : Fingerprint) (ops : List Operation) :
    (EndsRecorded ops ∧ ∃ m, metaAfter f ops = some m ∧ m.fingerprint = some f ∧
      m.schemaVersion = some schemaVersion) ∨
    (¬ EndsRecorded ops ∧ ∀ m, metaAfter f ops = some m → m.fingerprint = none) := by
  induction ops using List.reverseRecOn with
  | nil => exact .inr ⟨by simp [EndsRecorded], nofun⟩
  | append_singleton ops op ih =>
    rw [metaAfter_concat, endsRecorded_concat]
    cases op with
    | record now => exact .inl ⟨⟨now, rfl⟩, _, rfl, rfl, rfl⟩
    | markChecked now =>
      rcases ih with ⟨hends, m, hm, hfingerprint, hschema⟩ | ⟨hends, hm⟩
      · refine .inl ⟨hends, { m with lastCheck := some now }, ?_, hfingerprint, hschema⟩
        rw [hm]
        rfl
      · refine .inr ⟨hends, fun m hmap => ?_⟩
        obtain ⟨old, hold, rfl⟩ := Option.map_eq_some_iff.1 hmap
        exact hm old hold
    | check => exact ih
    | invalidate now =>
      refine .inr ⟨?_, fun m hempty => ?_⟩
      · rintro ⟨now, heq⟩
        cases heq
      · obtain rfl := Option.some.inj hempty
        rfl

theorem isSome_firstRecord? {ops : List Operation} (h : EndsRecorded ops) :
    (firstRecord? ops).isSome = true := by
  induction ops using List.reverseRecOn with
  | nil => simp [EndsRecorded] at h
  | append_singleton ops op ih =>
    rw [endsRecorded_concat] at h
    rw [firstRecord?_concat]
    cases op with
    | record now => simp [Operation.isReset, Operation.recordedAt?]
    | markChecked now =>
      show ((firstRecord? ops).or none).isSome = true
      rw [Option.or_none, ih h]
    | check =>
      show ((firstRecord? ops).or none).isSome = true
      rw [Option.or_none, ih h]
    | invalidate now =>
      obtain ⟨now, heq⟩ := h
      cases heq

/-! ### What is stored -/

/-- Whether a disk differs from an earlier one in files of the cache only and holds certain
metadata, or is the earlier disk where there are none. -/
def Keeping (names : List String) (e d : Disk) : Option Meta → Prop
  | none => d = e
  | some m => ∃ home, Houses (place names) home d ∧ Storing home cacheFiles e d ∧
    d.read (.ofNames (metaPlace names)) = .ok (.text m.encode.pretty)

variable {m? : Option Meta} {m : Meta}

theorem Keeping.stored_eq (h : Keeping names e d m?)
    (hmissing : stored e (.ofNames names) = .missing) :
    stored d (.ofNames names) = m?.elim .missing .found := by
  cases m? with
  | none =>
    obtain rfl : d = e := h
    exact hmissing
  | some m =>
    obtain ⟨home, -, -, hread⟩ := h
    rw [← metaRoute_ofNames] at hread
    exact stored_of_read hread (Ledger.ofContent_meta m)

theorem Keeping.fingerprint_eq (h : Keeping names e d m?) (hsite : g.Site names e) :
    g.fingerprint d (.ofNames names) = g.fingerprint e (.ofNames names) := by
  cases m? with
  | none =>
    obtain rfl : d = e := h
    rfl
  | some m =>
    obtain ⟨home, hhouses, hstoring, -⟩ := h
    exact hsite.fingerprint_eq hhouses hstoring

/-- Metadata that were written are kept, be they the first or not. -/
theorem Keeping.writeMeta (h : Keeping names e d m?) (htree : e.IsTree) (hdirect : IsDirect names e)
    (hrun : Change.writeRecord (metaRoute (.ofNames names)) m.encode now d = .ok () d') :
    Keeping names e d' (some m) := by
  cases m? with
  | none =>
    obtain rfl : d = e := h
    rw [metaRoute_ofNames, metaPlace] at hrun
    obtain ⟨home, hhouses, hstoring, hread⟩ :=
      Change.storing_of_first_writeRecord htree hdirect isDotted_meta hrun
    exact ⟨home, hhouses, hstoring.mono mem_cacheFiles.2, hread⟩
  | some old =>
    obtain ⟨home, hhouses, hstoring, -⟩ := h
    obtain ⟨hwritten, hread⟩ := read_of_writeMeta hhouses hrun
    exact ⟨home, hhouses.of_storing hwritten, hstoring.trans (hwritten.mono mem_cacheFiles.2),
      hread⟩

/-- Hooks that clear artifacts leave the metadata. -/
theorem Keeping.clearAll (h : Keeping names e d (some m)) {hooks : List Hook}
    (hhooks : ∀ hook ∈ hooks, hook.ClearsArtifacts names) :
    Keeping names e (clearAll (.ofNames names) hooks d).2 (some m) := by
  induction hooks generalizing d with
  | nil => exact h
  | cons hook hooks ih =>
    rw [clearAll_cons_disk]
    apply ih
    · obtain ⟨home, hhouses, hstoring, hread⟩ := h
      have hcleared := hhooks hook List.mem_cons_self home d hhouses
      refine ⟨home, hhouses.of_storing hcleared,
        hstoring.trans (hcleared.mono mem_cacheFiles.1), ?_⟩
      have htoward : Toward (place names) home [] d d := .refl hhouses
      exact htoward.read_of_filing hcleared.toFiling (by decide) hread
    · intro other hother
      exact hhooks other (List.mem_cons_of_mem _ hother)

theorem Keeping.record (h : Keeping names e d m?) (hsite : g.Site names e)
    (hmissing : stored e (.ofNames names) = .missing) {written : Meta}
    (hrun : g.record (.ofNames names) now d = .ok written d') : Keeping names e d'
      ((Operation.record now).after (g.fingerprint e (.ofNames names)) m?) := by
  have hrecord := recordFingerprint_of_record hrun
  unfold recordFingerprint at hrecord
  rw [Change.get_bind, h.stored_eq hmissing, h.fingerprint_eq hsite] at hrecord
  obtain ⟨_, _, hwrite, hdone⟩ := Change.bind_eq_ok.1 hrecord
  cases hdone
  have hcreated : (m?.elim .missing Disk.Record.found).found?.bind Meta.createdAt =
      m?.bind Meta.createdAt := by cases m? <;> rfl
  rw [hcreated] at hwrite
  exact h.writeMeta hsite.tree hsite.direct hwrite

theorem Keeping.markChecked (h : Keeping names e d m?) (htree : e.IsTree)
    (hdirect : IsDirect names e) (hmissing : stored e (.ofNames names) = .missing)
    (hrun : Gate.markChecked (.ofNames names) now d = .ok () d') :
    Keeping names e d' (m?.map fun m => { m with lastCheck := some now }) := by
  unfold Gate.markChecked at hrun
  rw [Change.get_bind, h.stored_eq hmissing] at hrun
  cases m? with
  | none =>
    cases hrun
    exact h
  | some m => exact h.writeMeta htree hdirect hrun

theorem Keeping.invalidate (h : Keeping names e d m?) (hsite : g.Site names e)
    (hrun : (g.invalidate (.ofNames names) now d).1.reset = .ok ()) :
    Keeping names e (g.invalidate (.ofNames names) now d).2 (some .empty) := by
  cases hreset : Change.writeRecord (metaRoute (.ofNames names)) Meta.empty.encode now d with
  | ok _ d' =>
    rw [(invalidate_run (g := g) (attempt_of_ok hreset)).2]
    exact (h.writeMeta hsite.tree hsite.direct hreset).clearAll hsite.hooks
  | error err d' =>
    rw [(invalidate_run (g := g) (attempt_of_error hreset)).1] at hrun
    cases hrun

/-- After a run the metadata are what its operations say one after the other. -/
theorem Performed.keeping {ops : List Operation} (h : g.Performed (.ofNames names) e ops d)
    (hsite : g.Site names e) (hmissing : stored e (.ofNames names) = .missing) :
    Keeping names e d (metaAfter (g.fingerprint e (.ofNames names)) ops) := by
  induction h with
  | start => rfl
  | record _ hrun ih =>
    rw [metaAfter_concat]
    exact ih.record hsite hmissing hrun
  | markChecked _ hrun ih =>
    rw [metaAfter_concat]
    exact ih.markChecked hsite.tree hsite.direct hmissing hrun
  | check _ ih =>
    rw [metaAfter_concat]
    exact ih
  | invalidate _ hrun ih =>
    rw [metaAfter_concat]
    exact ih.invalidate hsite hrun

/-! ### What a check says -/

theorem Keeping.found?_eq (h : Keeping names e d m?)
    (hmissing : stored e (.ofNames names) = .missing) :
    (stored d (.ofNames names)).found? = m? := by
  rw [h.stored_eq hmissing]
  cases m? <;> rfl

/-- Noting a check leaves the reasons and the fingerprint of a status. -/
theorem Keeping.check_markChecked (h : Keeping names e d m?) (hsite : g.Site names e)
    (hmissing : stored e (.ofNames names) = .missing)
    (hrun : Gate.markChecked (.ofNames names) now d = .ok () d') :
    (g.check d' (.ofNames names)).reasons = (g.check d (.ofNames names)).reasons ∧
      (g.check d' (.ofNames names)).current = (g.check d (.ofNames names)).current := by
  have hnext := h.markChecked hsite.tree hsite.direct hmissing hrun
  have hcurrent : g.fingerprint d' (.ofNames names) = g.fingerprint d (.ofNames names) := by
    rw [hnext.fingerprint_eq hsite, h.fingerprint_eq hsite]
  refine ⟨?_, hcurrent⟩
  show staleReasons (stored d' (.ofNames names)) (g.fingerprint d' (.ofNames names)) =
    staleReasons (stored d (.ofNames names)) (g.fingerprint d (.ofNames names))
  rw [hcurrent, hnext.stored_eq hmissing, h.stored_eq hmissing]
  cases m? <;> rfl

theorem Keeping.isFresh_iff {ops : List Operation}
    (h : Keeping names e d (metaAfter (g.fingerprint e (.ofNames names)) ops))
    (hsite : g.Site names e) (hmissing : stored e (.ofNames names) = .missing) :
    (g.check d (.ofNames names)).isFresh = true ↔ EndsRecorded ops := by
  unfold check Status.isFresh staleReasons
  simp only [h.stored_eq hmissing, h.fingerprint_eq hsite]
  rcases metaAfter_cases (g.fingerprint e (.ofNames names)) ops with
    ⟨hends, m, hm, hfingerprint, hschema⟩ | ⟨hends, hm⟩
  · have hsupported : isSupported schemaVersion minSchemaVersion = true := by decide
    simp [hm, hfingerprint, hschema, hsupported, hends]
  · refine iff_of_false ?_ hends
    cases hafter : metaAfter (g.fingerprint e (.ofNames names)) ops with
    | none => simp
    | some m => simp [hm m hafter]

/-- Whatever stands on the disk, a record is fresh only if the tree is as before it was made. -/
theorem fingerprint_eq_of_isFresh {root : Route} (h : g.record root now d = .ok m d')
    (hfresh : (g.check d' root).isFresh = true) : g.fingerprint d' root = g.fingerprint d root := by
  have hrecord := recordFingerprint_of_record h
  unfold recordFingerprint at hrecord
  rw [Change.get_bind] at hrecord
  obtain ⟨_, _, hwrite, hdone⟩ := Change.bind_eq_ok.1 hrecord
  cases hdone
  obtain ⟨written, hstored, -⟩ := exists_stored_of_isValid hfresh
  obtain rfl := stored_after_write hwrite hstored
  by_contra hne
  have hstale : (g.check d' root).isFresh = false := by
    unfold check Status.isFresh staleReasons
    simp [hstored, Ne.symm hne]
  rw [hstale] at hfresh
  cases hfresh

/-- A record that is made with a change of the tree is stale at once. -/
theorem exists_stale_record {root : Route} (hok : (attempt (g.record root now) d).1.isOk = true)
    (hchanged : g.fingerprint (diskAfter (g.record root now) d) root ≠ g.fingerprint d root) :
    ∃ d', g.Performed root d [.record now] d' ∧ (g.check d' root).isFresh = false := by
  obtain ⟨m, hrecord⟩ := exists_ok_of_attempt hok
  refine ⟨_, .record .start hrecord, ?_⟩
  rw [Bool.eq_false_iff]
  intro hfresh
  exact hchanged (fingerprint_eq_of_isFresh hrecord hfresh)

/-! ### Where it holds -/

/-- On a plain disk the cache of a project holds nothing but what its gate writes there. -/
theorem Site.of_plain (h : e.IsPlain) (hnumbers : e.numbers.entries = []) :
    (ofProject (.ofNames names)).Site names e where
  tree := h.folders
  root := .inr (h.maintains.straight names)
  direct := .of_links h.links hnumbers
  apart home d hd hstoring := by
    have hmaintains : Maintains e d := by
      refine ⟨fun _ => hstoring.folder, fun p target hlink => ?_, fun p content time hgit => ?_⟩
      · exact h.maintains.links p target (hstoring.link_iff.1 hlink)
      · rw [hstoring.file_iff (by decide)] at hgit
        exact h.maintains.repositories p content time hgit
    obtain rfl := (Disk.leads_of_follow hd.follow).eq_of_straight (hmaintains.straight _)
    have hrules : ∀ base, Scan.rulesOf d base = Scan.rulesOf e base := fun base =>
      Scan.rulesOf_congr hmaintains h.maintains h.folders fun p name hname content time =>
        hstoring.file_iff (ruleNames_not_cacheFiles name hname)
    have hsame : SameRules names e d := .of_status (hrules names) (h.maintains.straight _)
      (hmaintains.straight _)
      (fun node => hmaintains.status_iff h.maintains h.folders (node?_settingsPlace hstoring))
      (hstoring.time _ settingsPlace_not_prefix_place)
    exact ⟨fun base _ => hrules base, hsame.settings⟩
  hooks hook hhook := by
    obtain rfl := List.mem_singleton.1 hhook
    exact Hook.ofArtifacts_clearsArtifacts names

section

variable {root : Route}

/-- A record is made where the metadata can be written. -/
theorem exists_record (g : Gate) (h : ∀ v,
    (attempt (Change.writeRecord (metaRoute root) v now) d).1.isOk = true) :
    ∃ m : Meta, g.record root now d =
      .ok m (diskAfter (Change.writeRecord (metaRoute root) m.encode now) d) := by
  refine ⟨⟨some toolVersion, some schemaVersion,
    some (((stored d root).found?.bind Meta.createdAt).getD now), some now,
    some (g.fingerprint d root)⟩, ?_⟩
  unfold record recordFingerprint
  rw [Change.get_bind, Change.get_bind, Change.bind_eq_ok]
  obtain ⟨_, hrun⟩ := exists_ok_of_attempt (h _)
  exact ⟨_, _, hrun, rfl⟩

theorem exists_markChecked (h : ∀ v,
    (attempt (Change.writeRecord (metaRoute root) v now) d).1.isOk = true) :
    ∃ d', Gate.markChecked root now d = .ok () d' := by
  unfold Gate.markChecked
  rw [Change.get_bind]
  cases stored d root with
  | missing => exact ⟨d, rfl⟩
  | corrupt => exact ⟨d, rfl⟩
  | found m =>
    obtain ⟨_, hrun⟩ := exists_ok_of_attempt (h { m with lastCheck := some now }.encode)
    exact ⟨_, hrun⟩

end

end Gate

namespace Sample

/-- A project with one source file and an empty cache folder. -/
def bare : Disk where
  nodes := .ofList [(["p"], .folder), (["p", ".atlas"], .folder),
    (["p", ".atlas", "cache"], .folder), (["p", "a.ts"], .file (.text "") 1000000)]
  faults := []
  workingFolder := []

/-- The draft of the metadata is a link to them. -/
def linked : Disk := bare.put ["p", ".atlas", "cache", "meta.json.tmp"] (.link "meta.json")

/-- The settings are a link to the metadata. -/
def mirrored : Disk := bare.put ["p", ".atlas", "config.json"] (.link "cache/meta.json")

/-- A project whose cache folder is not there yet. -/
def young : Disk where
  nodes := .ofList [(["p"], .folder), (["p", ".atlas"], .folder),
    (["p", "a.ts"], .file (.text "") 1000000)]
  faults := []
  workingFolder := []
  clock := [7000000]

/-- A gate that takes the folder of the cache folder for the settings. -/
def broad : Gate := { Gate.ofProject root with settings := some ".atlas" }

/-- A way to the project that leads through a folder that is not there. -/
def detour : Route := [.down "p", .down "x", .up]

theorem isPlain_bare : bare.IsPlain := by decide

theorem site_bare : (Gate.ofProject root).Site ["p"] bare := .of_plain isPlain_bare rfl

theorem isOk_write (v : Json) (now : UInt64) :
    (Gate.attempt (Change.writeRecord (metaRoute root) v now) bare).1.isOk = true := rfl

theorem isOk_rewrite (v w : Json) (now now' : UInt64) :
    (Gate.attempt (Change.writeRecord (metaRoute root) w now')
      (diskAfter (Change.writeRecord (metaRoute root) v now) bare)).1.isOk = true := rfl

end Sample

namespace Gate

variable {g : Gate} {names : List String} {e d : Disk}

/-- A reset is fresh where a hook makes a record after it. -/
theorem exists_fresh_reset (hmissing : stored Sample.bare Sample.root = .missing) :
    ∃ d, Sample.recording.Performed Sample.root Sample.bare [.invalidate 6] d ∧
      (Sample.recording.check d Sample.root).isFresh = true := by
  obtain ⟨_, hreset⟩ := exists_ok_of_attempt (Sample.isOk_write Meta.empty.encode 6)
  obtain ⟨m, hrecord⟩ := exists_record (ofProject Sample.root)
    fun v => Sample.isOk_rewrite Meta.empty.encode v 6 7
  obtain ⟨hok, hdisk⟩ := invalidate_run (g := Sample.recording) (attempt_of_ok hreset)
  rw [show Sample.recording.hooks = [Sample.recorder] from rfl, clearAll_cons_disk,
    Sample.recorder_diskAfter hrecord, clearAll_nil_disk] at hdisk
  refine ⟨_, .invalidate .start hok, ?_⟩
  have hsite := Sample.site_bare
  have hnone : Keeping ["p"] Sample.bare Sample.bare none := rfl
  have hempty := hnone.writeMeta hsite.tree hsite.direct hreset
  have hkept : Keeping ["p"] Sample.bare _
      (metaAfter ((ofProject Sample.root).fingerprint Sample.bare (.ofNames ["p"]))
        [.invalidate 6, .record 7]) := hempty.record hsite hmissing hrecord
  have hfresh := hkept.isFresh_iff hsite hmissing
  rw [hdisk]
  exact hfresh.2 ⟨7, rfl⟩

end Gate
end Cache
end Gazetteer
