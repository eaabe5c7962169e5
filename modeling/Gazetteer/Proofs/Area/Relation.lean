import Gazetteer.Proofs.Area.Index

/-!
# The relation of files and areas

An index is made in passes: files are assigned, with flags taken in on the way, the assignment is
turned round, and what was turned round is summed up. The passes agree. Under every file stand its
areas, under every area its files, and the summary of an area speaks of exactly these files
(`isFaithful_index`), for files in several areas or in none, files that are left out, files that are
named more than once, and areas that one file was put into by a rule and another by its directory.
-/

namespace Gazetteer.Area

/-! ## Order of areas -/

namespace Info

/-- Whether an area goes before another one: it has more files, or as many and the lesser id. -/
def Before (a b : Info) : Prop :=
  b.fileCount < a.fileCount ∨ a.fileCount = b.fileCount ∧ compare a.id b.id = .lt

theorem precedes_iff {a b : Info} : a.precedes b = true ↔
    b.fileCount < a.fileCount ∨ a.fileCount = b.fileCount ∧ compare a.id b.id ≠ .gt := by
  unfold precedes
  by_cases h : a.fileCount = b.fileCount
  · simp [h]
  · simp [h]

theorem precedes_trans {a b c : Info} (hab : a.precedes b = true) (hbc : b.precedes c = true) :
    a.precedes c = true := by
  rw [precedes_iff] at *
  rcases hab with hab | ⟨hab, hidab⟩ <;> rcases hbc with hbc | ⟨hbc, hidbc⟩
  · exact .inl (Nat.lt_trans hbc hab)
  · exact .inl (hbc ▸ hab)
  · exact .inl (hab ▸ hbc)
  · have hle := Std.TransCmp.isLE_trans (Ordering.isLE_iff_ne_gt.2 hidab)
      (Ordering.isLE_iff_ne_gt.2 hidbc)
    exact .inr ⟨hab.trans hbc, Ordering.isLE_iff_ne_gt.1 hle⟩

theorem precedes_total (a b : Info) : (a.precedes b || b.precedes a) = true := by
  rw [Bool.or_eq_true, precedes_iff, precedes_iff]
  rcases Nat.lt_trichotomy a.fileCount b.fileCount with h | h | h
  · exact .inr (.inl h)
  · by_cases hid : compare a.id b.id = .gt
    · exact .inr (.inr ⟨h.symm, by rw [Std.OrientedCmp.lt_of_gt hid]; decide⟩)
    · exact .inl (.inr ⟨h, hid⟩)
  · exact .inl (.inl h)

theorem before_of_precedes {a b : Info} (h : a.precedes b = true) (hid : a.id ≠ b.id) :
    a.Before b := by
  rcases precedes_iff.1 h with hcount | ⟨hcount, hle⟩
  · exact .inl hcount
  · cases hcompare : compare a.id b.id with
    | lt => exact .inr ⟨hcount, hcompare⟩
    | eq => exact absurd (Std.LawfulEqCmp.eq_of_compare hcompare) hid
    | gt => exact absurd hcompare hle

end Info

namespace Resolver

variable {r : Resolver} {files : List String} {id : String}

/-! ## Flags -/

theorem find?_flag (flags : OrdMap String Bool) (a : Assignment) (id : String) :
    (flag flags a).find? id =
      if id ∈ a.ids then some ((flags.find? id).getD true && a.autoDetected)
      else flags.find? id :=
  OrdMap.find?_foldl_alter flags a.ids _ id

/-- An area is not automatic as soon as one file is put into it by a rule. Files that are named more
than once are taken in each time, and the flag is the same. -/
theorem getD_flags_eq_false_iff : ((r.flags files).find? id).getD true = false ↔
    ∃ path ∈ r.kept files, id ∈ (r.assign path).ids ∧ (r.assign path).autoDetected = false := by
  unfold flags
  induction r.kept files using List.reverseRecOn with
  | nil => simp
  | append_singleton paths path ih =>
    rw [List.foldl_append, List.foldl_cons, List.foldl_nil, find?_flag]
    simp only [List.mem_append, List.mem_singleton, or_and_right, exists_or, exists_eq_left]
    by_cases h : id ∈ (r.assign path).ids
    · rw [if_pos h, Option.getD_some, Bool.and_eq_false_iff, ih]
      simp [h]
    · rw [if_neg h, ih]
      simp [h]

end Resolver

/-! ## Indexes -/

/-- Whether an index says of a list of files what a resolver assigns to them. -/
structure Index.IsFaithful (index : Index) (r : Resolver) (files : List String) : Prop where
  /-- Under the normalised paths of the files that are not left out stand their areas. -/
  byFile : ∀ path ids, index.byFile.find? path = some ids ↔
    (∃ file ∈ files, path = Path.relative file) ∧ r.isIgnored path = false ∧
      ids = (r.assign path).ids
  /-- A file stands under an area if the area stands under the file. -/
  inverse : ∀ path id, (∃ members, index.byArea.find? id = some members ∧ path ∈ members) ↔
    ∃ ids, index.byFile.find? path = some ids ∧ id ∈ ids
  nonempty : ∀ id members, index.byArea.find? id = some members → members ≠ []
  increasing : ∀ id members, index.byArea.find? id = some members →
    members.Pairwise fun p q => compare p q = .lt
  /-- The areas that are summed up are those with files. -/
  keys : index.areas.keys = index.byArea.keys
  /-- A summary speaks of the files of its area. -/
  areas : ∀ id i members, index.areas.find? id = some i → index.byArea.find? id = some members →
    i.id = id ∧ i.fileCount = members.length ∧
      (i.autoDetected = false ↔ ∃ path ∈ members, (r.assign path).autoDetected = false)
  /-- The areas by population are those that are summed up. -/
  population : index.byPopulation.Perm index.areas.values
  ids : (index.byPopulation.map Info.id).Perm index.areas.keys
  once : (index.byPopulation.map Info.id).Nodup
  ordered : index.byPopulation.Pairwise Info.Before

namespace Resolver

variable {r : Resolver} {files : List String} {id path : String} {members : List String}

theorem find?_byArea_eq_some_iff : (r.index files).byArea.find? id = some members ↔
    members ≠ [] ∧ members = holders (r.index files).byFile.entries id :=
  find?_invert_eq_some_iff

theorem mem_iff_of_find?_byArea (h : (r.index files).byArea.find? id = some members) :
    path ∈ members ↔ path ∈ r.kept files ∧ id ∈ (r.assign path).ids := by
  obtain ⟨-, rfl⟩ := find?_byArea_eq_some_iff.1 h
  simp only [mem_holders_iff, find?_byFile_eq_some_iff]
  constructor
  · rintro ⟨ids, ⟨hkept, rfl⟩, hid⟩
    exact ⟨hkept, hid⟩
  · rintro ⟨hkept, hid⟩
    exact ⟨_, ⟨hkept, rfl⟩, hid⟩

theorem increasing_holders (byFile : OrdMap String (OrdSet String)) (id : String) :
    (holders byFile.entries id).Pairwise fun p q => compare p q = .lt :=
  List.pairwise_map.2 (byFile.increasing.filter _)

theorem map_id_values : (r.index files).areas.values.map Info.id = (r.index files).areas.keys := by
  show (((r.index files).byArea.entries.map _).map Prod.snd).map Info.id =
    ((r.index files).byArea.entries.map _).map Prod.fst
  simp only [List.map_map]
  rfl

theorem perm_byPopulation : (r.index files).byPopulation.Perm (r.index files).areas.values :=
  List.mergeSort_perm ..

theorem nodup_map_id_byPopulation : ((r.index files).byPopulation.map Info.id).Nodup := by
  rw [(perm_byPopulation.map Info.id).nodup_iff, map_id_values]
  exact OrdMap.nodup_keys _

theorem ordered_byPopulation : (r.index files).byPopulation.Pairwise Info.Before := by
  have hsorted : (r.index files).byPopulation.Pairwise fun a b => a.precedes b = true := by
    apply List.pairwise_mergeSort
    · exact fun a b c => Info.precedes_trans
    · exact Info.precedes_total
  have hne : (r.index files).byPopulation.Pairwise fun a b => a.id ≠ b.id :=
    List.pairwise_map.1 nodup_map_id_byPopulation
  exact (hsorted.and hne).imp fun h => Info.before_of_precedes h.1 h.2

/-- The index of a list of files says of them what the configuration assigns, in both directions. -/
theorem isFaithful_index (config : Config) (files : List String) :
    ((ofConfig config).index files).IsFaithful (ofConfig config) files where
  byFile path ids := by
    rw [find?_byFile_eq_some_iff, mem_kept_iff, and_assoc]
  inverse path id := by
    constructor
    · rintro ⟨members, hmembers, hpath⟩
      obtain ⟨-, rfl⟩ := find?_byArea_eq_some_iff.1 hmembers
      exact mem_holders_iff.1 hpath
    · intro hids
      have hpath := mem_holders_iff.2 hids
      exact ⟨_, find?_byArea_eq_some_iff.2 ⟨List.ne_nil_of_mem hpath, rfl⟩, hpath⟩
  nonempty id members h := (find?_byArea_eq_some_iff.1 h).1
  increasing id members h := by
    obtain ⟨-, rfl⟩ := find?_byArea_eq_some_iff.1 h
    exact increasing_holders _ id
  keys := by
    show (((ofConfig config).index files).byArea.entries.map _).map Prod.fst = _
    rw [List.map_map]
    rfl
  areas id i members hi hmembers := by
    obtain ⟨others, hothers, rfl⟩ := find?_areas_eq_some_iff.1 hi
    obtain rfl := Option.some.inj (hothers.symm.trans hmembers)
    refine ⟨rfl, rfl, getD_flags_eq_false_iff.trans (exists_congr fun path => ?_)⟩
    rw [mem_iff_of_find?_byArea hmembers, and_assoc]
  population := perm_byPopulation
  ids := by
    rw [← map_id_values]
    exact perm_byPopulation.map Info.id
  once := nodup_map_id_byPopulation
  ordered := ordered_byPopulation

/-- One file is in the area `cart` by a rule and another by its directory: the area is not
automatic, and the file that is named twice counts once. -/
example :
    let r := ofConfig
      ⟨.ofList [("cart", ⟨none, none, ["src/basket/*"]⟩)], .empty, ["*.gen.ts"], true⟩
    let index := r.index
      ["features/cart/b.ts", "src/basket/a.ts", " features\\cart\\b.ts", "features/cart/c.gen.ts"]
    index.byArea.entries = [("cart", ["features/cart/b.ts", "src/basket/a.ts"])] ∧
      index.byPopulation = [⟨"cart", "Cart", none, false, 2⟩] := by
  decide +kernel

end Resolver
end Gazetteer.Area
