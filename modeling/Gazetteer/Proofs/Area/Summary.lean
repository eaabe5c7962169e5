import Gazetteer.Proofs.Area.Reference
import Gazetteer.Proofs.Area.Relation
import Mathlib.Algebra.BigOperators.Group.List.Lemmas
import Mathlib.Algebra.Ring.Nat

/-!
# What a map says of itself

The entries of a map, its numbers by category and its summaries of areas are made in different
passes and are read apart later. They agree (`isConsistent_build`): the numbers count the entries,
and the summaries speak of the areas that the entries name.
-/

namespace Gazetteer.ProjectMap

variable {r : Area.Resolver} {files : List String}

/-! ## Entries -/

theorem filePaths_build : (build r files).filePaths =
    (r.assignments files).entries.map Prod.fst := by
  show (((r.index files).byFile.entries.map _).map MapEntry.path) = _
  rw [List.map_map]
  show ((r.assignments files).entries.map _).map Prod.fst = _
  rw [List.map_map]
  rfl

theorem increasing_filePaths :
    (build r files).filePaths.Pairwise fun p q => compare p q = .lt := by
  rw [filePaths_build, List.pairwise_map]
  exact (r.assignments files).increasing

theorem mem_filePaths_iff {path : String} : path ∈ (build r files).filePaths ↔
    (∃ file ∈ files, path = Path.relative file) ∧ r.isIgnored path = false := by
  rw [← Area.Resolver.mem_kept_iff, filePaths_build, List.mem_map]
  have hfind : (r.assignments files).find? path =
      if path ∈ r.kept files then some (r.assign path) else none :=
    Area.Resolver.find?_assignments
  constructor
  · rintro ⟨⟨key, a⟩, he, rfl⟩
    rw [OrdMap.find?_eq_some_iff.2 he] at hfind
    by_contra hnot
    rw [if_neg hnot] at hfind
    cases hfind
  · intro hkept
    rw [if_pos hkept] at hfind
    exact ⟨_, OrdMap.find?_eq_some_iff.1 hfind, rfl⟩

/-! ## Categories -/

/-- The numbers by category add up: each entry is counted once. -/
theorem sum_countCategories (entries : List MapEntry) :
    (countCategories entries).values.sum = entries.length := by
  have hcount : ∀ e ∈ (countCategories entries).entries,
      e.2 = (entries.map MapEntry.category).count e.1 :=
    fun e he => (find?_countCategories_eq_some_iff.1 (OrdMap.find?_eq_some_iff.2 he)).1
  have hvalues : (countCategories entries).values =
      (countCategories entries).keys.map fun c => (entries.map MapEntry.category).count c := by
    rw [OrdMap.values, OrdMap.keys, List.map_map]
    exact List.map_congr_left hcount
  have hmem : ∀ c, c ∈ (countCategories entries).keys ↔
      c ∈ (entries.map MapEntry.category).dedup := by
    intro c
    rw [List.mem_dedup]
    constructor
    · intro hc
      obtain ⟨⟨c, n⟩, he, rfl⟩ := List.mem_map.1 hc
      obtain ⟨rfl, hpos⟩ := find?_countCategories_eq_some_iff.1 (OrdMap.find?_eq_some_iff.2 he)
      exact List.count_pos_iff.1 hpos
    · intro hc
      have hfind := find?_countCategories_eq_some_iff.2 ⟨rfl, List.count_pos_iff.2 hc⟩
      exact List.mem_map.2 ⟨_, OrdMap.find?_eq_some_iff.1 hfind, rfl⟩
  have hperm : (countCategories entries).keys.Perm (entries.map MapEntry.category).dedup :=
    (List.perm_ext_iff_of_nodup (OrdMap.nodup_keys _) (List.nodup_dedup _)).2 hmem
  rw [hvalues, (hperm.map _).sum_eq, List.sum_map_count_dedup_eq_length, List.length_map]

/-! ## Areas -/

/-- A map lists the areas that its entries name. -/
theorem exists_mem_areas_iff {id : String} :
    (∃ a ∈ (build r files).areas, a.id = id) ↔ ∃ e ∈ (build r files).files, id ∈ e.areas := by
  have hlisted : (∃ a ∈ (build r files).areas, a.id = id) ↔
      ∃ a, (r.index files).areas.find? id = some a := by
    constructor
    · rintro ⟨a, ha, rfl⟩
      exact ⟨a, mem_areas_iff.1 ha⟩
    · rintro ⟨a, ha⟩
      obtain rfl := id_of_find?_areas ha
      exact ⟨a, mem_areas_iff.2 ha, rfl⟩
  rw [hlisted, Area.Resolver.exists_find?_areas_iff]
  simp [build]

theorem length_areaFiles {id : String} : ((build r files).areaFiles id).length =
    (Area.Resolver.holders (r.index files).byFile.entries id).length := by
  rw [areaFiles, build, List.filter_map, List.length_map, Area.Resolver.holders, List.length_map]
  rfl

theorem fileCount_of_mem_areas {a : Area.Info} (h : a ∈ (build r files).areas) :
    a.fileCount = ((build r files).areaFiles a.id).length := by
  obtain ⟨members, hmembers, ha⟩ := Area.Resolver.find?_areas_eq_some_iff.1 (mem_areas_iff.1 h)
  obtain ⟨-, rfl⟩ := Area.Resolver.find?_byArea_eq_some_iff.1 hmembers
  rw [length_areaFiles]
  exact congrArg Area.Info.fileCount ha

/-! ## The whole map -/

/-- Whether the parts of a map agree. -/
structure IsConsistent (m : ProjectMap) : Prop where
  increasing : m.filePaths.Pairwise fun p q => compare p q = .lt
  /-- The categories that have a number are those that occur, and the number says how often. -/
  counts : ∀ c n, m.categories.find? c = some n ↔
    n = (m.files.filter fun e => e.category = c).length ∧ 0 < n
  total : m.categories.values.sum = m.files.length
  /-- The areas that are listed are those that some entry names. -/
  areas : ∀ id, (∃ a ∈ m.areas, a.id = id) ↔ ∃ e ∈ m.files, id ∈ e.areas
  once : (m.areas.map Area.Info.id).Nodup
  fileCounts : ∀ a ∈ m.areas, a.fileCount = (m.areaFiles a.id).length
  /-- Areas stand by falling number of files, and by rising id where the numbers are equal. -/
  ordered : m.areaCounts.Pairwise fun a b =>
    b.2 < a.2 ∨ a.2 = b.2 ∧ compare a.1 b.1 = .lt

/-- The map of every list of files is consistent. -/
theorem isConsistent_build (r : Area.Resolver) (files : List String) :
    (build r files).IsConsistent where
  increasing := increasing_filePaths
  counts c n := by
    have hcount : (((build r files).files.map MapEntry.category).count c) =
        ((build r files).files.filter fun e => e.category = c).length := by
      rw [List.count, List.countP_map, List.countP_eq_length_filter]
      rfl
    rw [← hcount]
    exact find?_countCategories_eq_some_iff
  total := sum_countCategories _
  areas id := exists_mem_areas_iff
  once := Area.Resolver.nodup_map_id_byPopulation
  fileCounts a h := fileCount_of_mem_areas h
  ordered := List.pairwise_map.2 Area.Resolver.ordered_byPopulation

end Gazetteer.ProjectMap
