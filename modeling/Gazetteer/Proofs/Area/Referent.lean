import Gazetteer.Proofs.Area.Reference
import Gazetteer.Proofs.Area.Spelling
import Gazetteer.Proofs.Area.Summary
import Gazetteer.Proofs.Text.Folding

/-!
# What references lead to

But for a declared id that is spelled exactly, a text names areas by its folded form alone, so texts
that fold alike lead to the same area or stand for themselves (`alike_references_agree`).

An area can be referred to as soon as the directories of some file name it. An index takes a file
for an area that its directories name only if no declared area holds the file, so a reference can
lead to an area that is not listed (`inferred_reference_is_listed_iff`).
-/

namespace Gazetteer.Area.Resolver

variable {r : Resolver} {files : List String} {text other : String}

/-! ## Texts that fold alike -/

theorem named?_congr_fold (h : Text.fold text.toList = Text.fold other.toList) {tier : Tier}
    (htier : tier ≠ .id) : r.named? files text tier = r.named? files other tier := by
  cases tier with
  | id => exact absurd rfl htier
  | name => simp only [named?, h]
  | builtin => simp only [named?, Builtin.ofName?, h]
  | idPart => simp only [named?, h]
  | inferredPart => simp only [named?, h]

theorem named?_id_eq_none (h : ∀ area ∈ r.declared, area.id ≠ text) :
    r.named? files text .id = none := by
  rw [named?_eq_none_iff]
  rintro id ⟨area, harea, hid, -⟩
  exact h area harea hid

/-- The only tier that looks at a text as it is spelled is that of the declared ids. -/
theorem referent?_congr_fold (h : Text.fold text.toList = Text.fold other.toList)
    (htext : ∀ area ∈ r.declared, area.id ≠ text) (hother : ∀ area ∈ r.declared, area.id ≠ other) :
    r.referent? text files = r.referent? other files := by
  have htiers : r.named? files text = r.named? files other := by
    funext tier
    by_cases htier : tier = .id
    · subst htier
      rw [named?_id_eq_none htext, named?_id_eq_none hother]
    · exact named?_congr_fold h htier
  rw [referent?_eq_findSome?, referent?_eq_findSome?, htiers]

theorem declared_ne_of_not_mem_keys {config : Config} (h : text ∉ config.areas.keys) :
    ∀ area ∈ (ofConfig config).declared, area.id ≠ text := by
  rintro _ harea rfl
  obtain ⟨e, he, rfl⟩ := List.mem_map.1 harea
  exact h (List.mem_map.2 ⟨e, he, rfl⟩)

/-- Two texts that fold alike, neither of which spells a declared id but for white space around it,
lead to the same area, or each of them stands for itself. -/
theorem alike_references_agree (config : Config) (files : List String) {x y : String}
    (hfold : Text.fold x.toList = Text.fold y.toList)
    (hx : String.ofList (Text.trim x.toList) ∉ config.areas.keys)
    (hy : String.ofList (Text.trim y.toList) ∉ config.areas.keys) :
    let r := ofConfig config
    r.resolveReference x files = r.resolveReference y files ∨
      r.resolveReference x files = x ∧ r.resolveReference y files = y := by
  intro r
  have hreferent : r.referent? (.ofList (Text.trim x.toList)) files =
      r.referent? (.ofList (Text.trim y.toList)) files := by
    apply referent?_congr_fold
    · rw [String.toList_ofList, String.toList_ofList, Text.fold_trim, Text.fold_trim, hfold]
    · exact declared_ne_of_not_mem_keys hx
    · exact declared_ne_of_not_mem_keys hy
  simp only [resolveReference, String.toList_ofList, Text.fold_trim, hfold, hreferent]
  by_cases hblank : Text.fold y.toList = []
  · right
    rw [if_pos hblank, if_pos hblank]
    exact ⟨rfl, rfl⟩
  · rw [if_neg hblank, if_neg hblank]
    cases r.referent? (.ofList (Text.trim y.toList)) files with
    | none => exact .inr ⟨rfl, rfl⟩
    | some id => exact .inl rfl

namespace Sample

/-- A project with an area for payments that has a name of its own. -/
def payments : Config :=
  ⟨.ofList [("payments-core", ⟨some "Paiements", none, []⟩)], .empty, [], true⟩

end Sample

theorem paiements_is_found_in_any_spelling :
    Text.fold " PAIEMENTS".toList = Text.fold "paiéments".toList ∧
      (ofConfig Sample.payments).resolveReference " PAIEMENTS" [] = "payments-core" ∧
        (ofConfig Sample.payments).resolveReference "paiéments" [] = "payments-core" := by
  have hfold : Text.fold " PAIEMENTS".toList = Text.fold "paiéments".toList := by decide
  have hfirst : (ofConfig Sample.payments).resolveReference " PAIEMENTS" [] = "payments-core" := by
    decide
  have hagree := alike_references_agree Sample.payments [] hfold (by decide)
    (by decide)
  rcases hagree with hsame | ⟨hself, -⟩
  · exact ⟨hfold, hfirst, hsame.symm.trans hfirst⟩
  · rw [hfirst] at hself
    exact absurd hself (by decide)

/-- Declared ids are told apart by their case. -/
example : let r := ofConfig ⟨.ofList [("Shop", ⟨none, none, []⟩), ("shop", ⟨none, none, []⟩)],
      .empty, [], true⟩
    r.resolveReference "Shop" [] = "Shop" ∧ r.resolveReference "shop " [] = "shop" := by
  decide

/-! ## Areas that directories name -/

section

variable {file path id : String}

theorem infer_congr (h : Path.relative file = Path.relative other) : infer file = infer other := by
  unfold infer directories
  rw [h]

theorem declaredIds_congr (h : Path.relative file = Path.relative other) :
    r.declaredIds file = r.declaredIds other := by
  unfold declaredIds
  rw [h]

theorem mem_declaredIds (h : id ∈ r.declaredIds path) : ∃ area ∈ r.declared, area.id = id := by
  unfold declaredIds at h
  obtain ⟨area, harea, hid⟩ := List.mem_map.1 (OrdSet.mem_ofList.1 h)
  exact ⟨area, (List.mem_filter.1 harea).1, hid⟩

theorem eq_empty_of_isEmpty {ids : OrdSet String} (h : ids.toList.isEmpty = true) :
    ids = .empty := by
  apply OrdSet.ext_mem
  intro id
  show id ∈ ids.toList ↔ _
  rw [List.isEmpty_iff.1 h]
  exact iff_of_false List.not_mem_nil OrdSet.not_mem_empty

/-- An area that is not declared holds a file if the directories of the file name it and no declared
area holds the file. -/
theorem mem_ids_assign_iff (h : ∀ area ∈ r.declared, area.id ≠ id) : id ∈ (r.assign path).ids ↔
    r.isIgnored path = false ∧ r.declaredIds path = .empty ∧ id ∈ infer (Path.relative path) := by
  unfold assign
  split
  next hignored =>
    constructor
    · intro hid
      exact absurd hid OrdSet.not_mem_empty
    · rintro ⟨hkept, -⟩
      rw [hignored] at hkept
      cases hkept
  next hkept =>
    dsimp only
    split
    next hempty =>
      have hnone := eq_empty_of_isEmpty hempty
      constructor
      · intro hid
        exact ⟨Bool.not_eq_true _ ▸ hkept, hnone, hid⟩
      · rintro ⟨-, -, hid⟩
        exact hid
    next hsome =>
      constructor
      · intro hid
        obtain ⟨area, harea, hdeclared⟩ := mem_declaredIds hid
        exact absurd hdeclared (h area harea)
      · rintro ⟨-, hnone, -⟩
        rw [hnone] at hsome
        exact absurd rfl hsome

theorem listed_iff : (∃ i, (r.index files).areas.find? id = some i) ↔
    ∃ path ∈ r.kept files, id ∈ (r.assign path).ids := by
  rw [exists_find?_areas_iff]
  constructor
  · rintro ⟨⟨path, ids⟩, he, hid⟩
    obtain ⟨hkept, rfl⟩ := find?_byFile_eq_some_iff.1 (OrdMap.find?_eq_some_iff.2 he)
    exact ⟨path, hkept, hid⟩
  · rintro ⟨path, hkept, hid⟩
    have hfind := find?_byFile_eq_some_iff.2 ⟨hkept, rfl⟩
    exact ⟨(path, _), OrdMap.find?_eq_some_iff.1 hfind, hid⟩

/-- Whether a file is not left out and its directories name an area. -/
def Suggests (r : Resolver) (file id : String) : Prop :=
  r.isIgnored file = false ∧ id ∈ infer file

theorem mem_inferredIds_iff_suggests :
    id ∈ r.inferredIds files ↔ ∃ file ∈ files, r.Suggests file id := by
  rw [mem_inferredIds_iff]
  exact exists_congr fun file => and_assoc

/-- Whether the normal forms of the paths of all files are normal. -/
def AreNormal (files : List String) : Prop :=
  ∀ file ∈ files, Path.relative (Path.relative file) = Path.relative file

theorem suggests_relative_iff (h : Path.relative (Path.relative file) = Path.relative file) :
    r.Suggests (Path.relative file) id ↔ r.Suggests file id := by
  rw [Suggests, Suggests, isIgnored_congr h, infer_congr h]

theorem listed_iff_suggested (hfiles : AreNormal files)
    (h : ∀ area ∈ r.declared, area.id ≠ id) :
    (∃ i, (r.index files).areas.find? id = some i) ↔
      ∃ file ∈ files, r.Suggests file id ∧ r.declaredIds file = .empty := by
  rw [listed_iff]
  constructor
  · rintro ⟨path, hkept, hid⟩
    obtain ⟨⟨file, hfile, rfl⟩, -⟩ := mem_kept_iff.1 hkept
    have hnormal := hfiles file hfile
    obtain ⟨hseen, hnone, hnamed⟩ := (mem_ids_assign_iff h).1 hid
    rw [hnormal] at hnamed
    refine ⟨file, hfile, (suggests_relative_iff hnormal).1 ⟨hseen, hnamed⟩, ?_⟩
    rw [← declaredIds_congr hnormal, hnone]
  · rintro ⟨file, hfile, hsuggests, hnone⟩
    have hnormal := hfiles file hfile
    obtain ⟨hseen, hnamed⟩ := (suggests_relative_iff hnormal).2 hsuggests
    refine ⟨Path.relative file, mem_kept_iff.2 ⟨⟨file, hfile, rfl⟩, hseen⟩, ?_⟩
    refine (mem_ids_assign_iff h).2 ⟨hseen, ?_, ?_⟩
    · rw [declaredIds_congr hnormal, hnone]
    · rw [hnormal]
      exact hnamed

/-- A map suggests the areas that its files do. -/
theorem resolveReference_filePaths (hfiles : AreNormal files) (input : String) :
    r.resolveReference input (ProjectMap.build r files).filePaths =
      r.resolveReference input files := by
  have hids : r.inferredIds (ProjectMap.build r files).filePaths = r.inferredIds files := by
    apply OrdSet.ext_mem
    intro id
    rw [mem_inferredIds_iff_suggests, mem_inferredIds_iff_suggests]
    constructor
    · rintro ⟨path, hpath, hsuggests⟩
      obtain ⟨⟨file, hfile, rfl⟩, -⟩ := ProjectMap.mem_filePaths_iff.1 hpath
      exact ⟨file, hfile, (suggests_relative_iff (hfiles file hfile)).1 hsuggests⟩
    · rintro ⟨file, hfile, hsuggests⟩
      have hpath := (suggests_relative_iff (hfiles file hfile)).2 hsuggests
      exact ⟨_, ProjectMap.mem_filePaths_iff.2 ⟨⟨file, hfile, rfl⟩, hpath.1⟩, hpath⟩
  unfold resolveReference referent?
  rw [hids]

/-! ## Areas that references lead to -/

theorem Names.cases {tier : Tier} (h : r.Names files text tier id) :
    (∃ area ∈ r.declared, area.id = id) ∨ (∃ b ∈ Builtin.all, b.id = id) ∨
      id ∈ r.inferredIds files := by
  cases tier with
  | id =>
    obtain ⟨area, harea, -, hid⟩ := h
    exact .inl ⟨area, harea, hid⟩
  | name =>
    obtain ⟨area, harea, -, hid⟩ := h
    exact .inl ⟨area, harea, hid⟩
  | builtin =>
    obtain ⟨b, hb, hid⟩ := h
    exact .inr (.inl ⟨b, mem_all_of_ofName? hb, hid⟩)
  | idPart =>
    obtain ⟨area, harea, -, hid⟩ := h
    exact .inl ⟨area, harea, hid⟩
  | inferredPart => exact .inr (.inr h.1)

/-- A text that does not stand for itself names the area that it leads to. -/
theorem exists_names_of_resolveReference (hordered : r.IsOrdered) {input : String}
    (h : r.resolveReference input files = id) (hself : id ≠ input) :
    ∃ tier, r.Names files (.ofList (Text.trim input.toList)) tier id := by
  unfold resolveReference at h
  dsimp only at h
  split at h
  · exact absurd h.symm hself
  · cases hreferent : r.referent? (.ofList (Text.trim input.toList)) files with
    | none =>
      rw [hreferent] at h
      exact absurd h.symm hself
    | some other =>
      rw [hreferent] at h
      obtain rfl : other = id := h
      obtain ⟨tier, hleast, -⟩ := (referent?_eq_some_iff hordered).1 hreferent
      exact ⟨tier, hleast.1⟩

/-- If a reference leads to an area that is neither declared nor built in, the directories of some
file name that area. It is listed exactly if they do so for a file that no declared area holds, and
what the map of the files answers for it is what the index lists. -/
theorem inferred_reference_is_listed_iff (config : Config) (files : List String)
    {input id : String} (h : (ofConfig config).resolveReference input files = id)
    (hself : id ≠ input) (hdeclared : id ∉ config.areas.keys)
    (hbuiltin : ∀ b ∈ Builtin.all, b.id ≠ id) :
    let r := ofConfig config
    let m := ProjectMap.build r files
    (∃ file ∈ files, r.Suggests file id) ∧
      (AreNormal files →
        ((∃ i, (r.index files).areas.find? id = some i) ↔
          ∃ file ∈ files, r.Suggests file id ∧ r.declaredIds file = .empty) ∧
        m.area? (r.resolveReference input m.filePaths) = (r.index files).areas.find? id) := by
  intro r m
  have hother : ∀ area ∈ r.declared, area.id ≠ id := declared_ne_of_not_mem_keys hdeclared
  obtain ⟨tier, hnames⟩ := exists_names_of_resolveReference (isOrdered_ofConfig config) h hself
  refine ⟨?_, fun hfiles => ⟨listed_iff_suggested hfiles hother, ?_⟩⟩
  · rcases hnames.cases with ⟨area, harea, hid⟩ | ⟨b, hb, hid⟩ | hinferred
    · exact absurd hid (hother area harea)
    · exact absurd hid (hbuiltin b hb)
    · exact mem_inferredIds_iff_suggests.1 hinferred
  · rw [resolveReference_filePaths hfiles, h]
    exact ProjectMap.area?_build

end

namespace Sample

/-- A project whose only area holds everything below a directory. -/
def below (directory : String) : Config :=
  ⟨.ofList [("core", ⟨none, none, [directory ++ "/**"]⟩)], .empty, [], true⟩

end Sample

theorem cart_beside_core_is_listed :
    (ofConfig (Sample.below "src/core")).resolveReference "car"
        ["src/core/a.ts", "src/features/cart/b.ts"] = "cart" ∧
      ∃ i, ((ofConfig (Sample.below "src/core")).index
        ["src/core/a.ts", "src/features/cart/b.ts"]).areas.find? "cart" = some i := by
  have hreference : (ofConfig (Sample.below "src/core")).resolveReference "car"
      ["src/core/a.ts", "src/features/cart/b.ts"] = "cart" := by
    decide
  have hsuggests : (ofConfig (Sample.below "src/core")).Suggests "src/features/cart/b.ts" "cart" :=
    ⟨by decide, by decide⟩
  have hnormal : AreNormal ["src/core/a.ts", "src/features/cart/b.ts"] := by
    unfold AreNormal
    decide
  obtain ⟨-, hlisted⟩ := inferred_reference_is_listed_iff (Sample.below "src/core") _ hreference
    (by decide) (by decide) (by decide)
  obtain ⟨hiff, -⟩ := hlisted hnormal
  exact ⟨hreference, hiff.2 ⟨_, by simp, hsuggests, by decide +kernel⟩⟩

/-- A declared area that holds the only file of a cart takes the cart off the list, but not out of
reach. -/
theorem exists_reference_not_listed :
    let r := ofConfig (Sample.below "src")
    r.resolveReference "car" ["src/features/cart/a.ts"] = "cart" ∧
      "cart" ∉ (Sample.below "src").areas.keys ∧ (∀ b ∈ Builtin.all, b.id ≠ "cart") ∧
        (r.index ["src/features/cart/a.ts"]).areas.find? "cart" = none := by
  decide

end Gazetteer.Area.Resolver
