import Gazetteer.Proofs.Cache.Ledger

/-!
# Maps and metadata that belong together

A history starts with an empty cache. Then the tree is edited, maps are asked for, checks are noted
and the cache is invalidated, in any order, and any change in the cache folder may fail. A stored
map belongs to the fingerprint that is recorded beside it, except after a torn run: one that has
saved its map and could not record the fingerprint, so that an earlier one stands beside the new
map.
-/

namespace Gazetteer.Cache

open Command
open Disk (Clear Route)
open Disk.Change (diskAfter)

/-- An edit leaves the cache folder alone, puts no link on the way to it and gives no file in it
another name. -/
structure Untouched (names : List String) (d d' : Disk) : Prop where
  node : ∀ p, place names <+: p → d'.node? p = d.node? p
  clear : Clear (place names) d'

theorem Untouched.of_place {names p : List String} {d d' : Disk} {new : Option Disk.Node}
    (h : Clear (place names) d) (hp : ¬ place names <+: p) (hparting : Disk.Parting d d')
    (hnode : ∀ q, d'.node? q = if q = p then new else d.node? q)
    (hnew : ∀ target, new ≠ some (.link target)) : Untouched names d d' where
  node q hq := by
    rw [hnode, if_neg]
    rintro rfl
    exact hp hq
  clear := h.of_place hparting hnode hnew

/-- Disks that come about from one with an empty cache, with their ledgers. -/
inductive Reach (names : List String) : Ledger → Disk → Prop
  | start {d} (vacant : IsVacant names d) : Reach names .empty d
  | edit {l d d'} (before : Reach names l d) (edit : Untouched names d d') : Reach names l d'
  | load {l s} (before : Reach names l s.disk) (project : Project) (force : Bool) (now : UInt64)
    (root : project.root = .ofNames names)
    (count : (⟨project.config, s.disk⟩ : Build).IsCountable (.ofNames names)) :
    Reach names (l.afterLoad project force now s.disk)
      (MapSnapshot.loadOrBuild project force now s).2.disk
  | markChecked {l d} (before : Reach names l d) (now : UInt64) :
    Reach names l (diskAfter (Gate.markChecked (.ofNames names) now) d)
  | invalidate {l d} (before : Reach names l d) (now : UInt64) :
    Reach names
      (l.afterInvalidation ((Gate.ofProject (.ofNames names)).invalidate (.ofNames names) now d).1)
      ((Gate.ofProject (.ofNames names)).invalidate (.ofNames names) now d).2

variable {names : List String} {l : Ledger} {d d' : Disk}

theorem Ledger.Describes.of_untouched (h : l.Describes names d) (hedit : Untouched names d d') :
    l.Describes names d' :=
  h.of_node? hedit.clear (.inl (hedit.node _ (List.prefix_append _ _)))
    (.inl (hedit.node _ (List.prefix_append _ _)))

theorem Reach.describes (h : Reach names l d) : l.Describes names d := by
  induction h with
  | start hvacant => exact .empty hvacant
  | edit _ hedit ih => exact ih.of_untouched hedit
  | load _ project force now hroot hcount ih => exact ih.afterLoad hroot hcount force now
  | markChecked _ now ih => exact ih.markChecked now
  | invalidate _ now ih => exact ih.afterInvalidation now

/-! ## Torn runs -/

/-- The stored map was built from a tree with the recorded fingerprint, if there are both. -/
def Ledger.IsPaired (root : Route) (l : Ledger) : Prop :=
  ∀ b f, l.kept = some b → l.recorded = some f → b.fingerprint root = f

/-- A ledger that is not torn is paired. -/
def Ledger.IsWhole (root : Route) (l : Ledger) : Prop := l.torn = false → l.IsPaired root

theorem Ledger.IsWhole.afterStore {root : Route} {b : Build} {now : UInt64}
    (h : l.IsWhole root) : (l.afterStore root b now d).IsWhole root := by
  unfold Ledger.afterStore
  split
  · exact h
  · split
    · -- The map is saved and its fingerprint is not: the run is torn.
      exact nofun
    · intro _ kept recorded hkept hrecorded
      cases hkept
      cases hrecorded
      rfl

theorem Ledger.IsWhole.afterInvalidation {root : Route} {result : Invalidation}
    (h : l.IsWhole root) : (l.afterInvalidation result).IsWhole root := by
  unfold Ledger.afterInvalidation
  split
  · exact fun _ _ _ _ hrecorded => nomatch hrecorded
  · exact h

theorem Reach.isWhole (h : Reach names l d) : l.IsWhole (.ofNames names) := by
  induction h with
  | start => exact fun _ _ _ hkept => nomatch hkept
  | edit _ _ ih => exact ih
  | load _ project force now hroot _ ih =>
    unfold Ledger.afterLoad
    split
    · exact ih
    · rw [hroot]
      exact ih.afterStore
  | markChecked _ _ ih => exact ih
  | invalidate _ _ ih => exact ih.afterInvalidation

/-! ## A torn run

A project of one file has its map stored. A second file comes, and the next run can save the map of
both but not its metadata. When the second file goes away again, the fingerprint on record is that
of the tree, and the map of two files counts as fresh. -/

namespace Sample

def root : Route := .ofNames ["p"]

def project : Project := ⟨root, .default, none, []⟩

/-- A project with one source file and no cache. -/
def disk : Disk where
  nodes := .ofList [(["p"], .folder), (["p", "a.ts"], .file (.text "") 1000000)]
  faults := []
  workingFolder := []

/-- The disk after a run that asks for the map of the project. -/
def after (force : Bool) (now : UInt64) (d : Disk) : Disk :=
  (MapSnapshot.loadOrBuild project force now (.ofDisk d)).2.disk

def stored : Disk := after false 5 disk

/-- A second file, and a disk that will refuse to write the metadata. -/
def grown : Disk :=
  { stored.put ["p", "b.ts"] (.file (.text "") 2000000) with
    faults := [none, none, none, none, some .refusal] }

def torn : Disk := after true 6 grown

def shrunk : Disk := torn.erase ["p", "b.ts"]

def firstLedger : Ledger := Ledger.empty.afterLoad project false 5 disk

def ledger : Ledger := firstLedger.afterLoad project true 6 grown

theorem reach_after {l : Ledger} {d : Disk} {force : Bool} {now : UInt64} (h : Reach ["p"] l d)
    (hcount : (⟨project.config, d⟩ : Build).IsCountable root) :
    Reach ["p"] (l.afterLoad project force now d) (after force now d) :=
  .load (s := .ofDisk d) h project force now rfl hcount

theorem reach_stored : Reach ["p"] firstLedger stored :=
  reach_after (.start (.of_entries (by decide) (by decide))) (by decide)

theorem reach_grown : Reach ["p"] firstLedger grown :=
  have hplace : ["p", "b.ts"] ≠ [] := by decide
  reach_stored.edit (.of_place reach_stored.describes.clear (by decide)
    (Disk.parting_put (d := stored) hplace _) (Disk.node?_put (d := stored) hplace _) nofun)

theorem reach_shrunk : Reach ["p"] ledger shrunk :=
  have h : Reach ["p"] ledger torn := reach_after reach_grown (by decide)
  h.edit (.of_place h.describes.clear (by decide) (Disk.parting_erase (by decide))
    (Disk.node?_erase (by decide)) nofun)

end Sample

/-! ## The map and its metadata -/

/-- Whatever was edited and whatever failed, the map that can be loaded is the one that the last
successful save stored, and the fingerprint that can be read is the one that was recorded last. They
are of one tree if the run that saved the map was not torn. After a torn run the fingerprint is one
that had been on record before. -/
theorem stored_map_matches_fingerprint (h : Reach names l d) {m : Meta} {f : Fingerprint}
    {map : ProjectMap} (hstored : Gate.stored d (.ofNames names) = .found m)
    (hfingerprint : m.fingerprint = some f)
    (hload : Artifact.load? d (.ofNames names) .map ProjectMap.decoder = some map) :
    ∃ b, l.kept = some b ∧ b.map (.ofNames names) = map ∧ l.recorded = some f ∧
      (l.torn = false → b.fingerprint (.ofNames names) = f) := by
  obtain ⟨b, hkept, hmap⟩ := h.describes.map_of_load? hload
  have hrecorded : l.recorded = some f :=
    (h.describes.stored_eq_found hstored).1.symm.trans hfingerprint
  exact ⟨b, hkept, hmap, hrecorded, fun htorn => h.isWhole htorn b f hkept hrecorded⟩

/-- After the first run both can be read, and they match. -/
theorem first_map_matches_fingerprint : ∃ (m : Meta) (f : Fingerprint) (map : ProjectMap),
    Gate.stored Sample.stored (.ofNames ["p"]) = .found m ∧ m.fingerprint = some f ∧
      Artifact.load? Sample.stored (.ofNames ["p"]) .map ProjectMap.decoder = some map ∧
      ∃ b, Sample.firstLedger.kept = some b ∧ b.map (.ofNames ["p"]) = map ∧
        Sample.firstLedger.recorded = some f ∧
          (Sample.firstLedger.torn = false → b.fingerprint (.ofNames ["p"]) = f) := by
  have hreach := Sample.reach_stored
  obtain ⟨m, hm⟩ := hreach.describes.exists_stored (by decide)
  obtain ⟨b, hb, hload⟩ := hreach.describes.exists_load? (by decide)
  have hrecorded : Sample.firstLedger.recorded = some ⟨1, 1, 1⟩ := by decide
  have hf : m.fingerprint = some ⟨1, 1, 1⟩ :=
    (hreach.describes.stored_eq_found hm).1.trans hrecorded
  exact ⟨m, _, _, hm, hf, hload, stored_map_matches_fingerprint hreach hm hf hload⟩

/-- The stored map need not be of a tree with the recorded fingerprint, even where that is the
fingerprint of the tree as it is. -/
theorem exists_unmatched_map : ∃ (l : Ledger) (d : Disk) (m : Meta) (f : Fingerprint) (b : Build),
    Reach ["p"] l d ∧ Gate.stored d (.ofNames ["p"]) = .found m ∧ m.fingerprint = some f ∧
      Artifact.load? d (.ofNames ["p"]) .map ProjectMap.decoder = some (b.map (.ofNames ["p"])) ∧
      l.kept = some b ∧ b.fingerprint (.ofNames ["p"]) ≠ f ∧
      (Gate.ofProject (.ofNames ["p"])).fingerprint d (.ofNames ["p"]) = f ∧
      b.map (.ofNames ["p"]) ≠ MapSnapshot.built Sample.project d := by
  have hreach := Sample.reach_shrunk
  obtain ⟨m, hm⟩ := hreach.describes.exists_stored (by decide)
  obtain ⟨b, hb, hload⟩ := hreach.describes.exists_load? (by decide)
  have hrecorded : Sample.ledger.recorded = some ⟨1, 1, 1⟩ := by decide
  have hkept : Sample.ledger.kept = some ⟨.default, Sample.grown⟩ := rfl
  obtain rfl := Option.some.inj (hb.symm.trans hkept)
  refine ⟨_, _, m, _, _, hreach, hm, (hreach.describes.stored_eq_found hm).1.trans hrecorded, hload,
    hb, by decide, by decide, fun heq => ?_⟩
  have hlengths : ((⟨.default, Sample.grown⟩ : Build).map Sample.root).files.length ≠
      (MapSnapshot.built Sample.project Sample.shrunk).files.length := by decide
  exact hlengths (congrArg (fun m => m.files.length) heq)

end Gazetteer.Cache
