import Gazetteer.Proofs.Area.Relation

/-!
# Lists of the same files

A list of files can be given in any order, with repetitions, and with its paths spelled in several
ways. What is made of it depends on none of this. An index tells apart only which paths are
kept (`index_eq_iff`), although flags are taken in file by file and the files of an area are put in
one after the other; a reference tells apart only which files there are.
-/

namespace Gazetteer

namespace Area.Resolver

variable {r : Resolver} {files others : List String}

/-! ## Indexes -/

/-- Lists of which the same paths are kept. -/
def KeepsSame (r : Resolver) (files others : List String) : Prop :=
  ∀ path, path ∈ r.kept files ↔ path ∈ r.kept others

theorem keepsSame_of_same_paths
    (h : ∀ path, path ∈ files.map Path.relative ↔ path ∈ others.map Path.relative) :
    r.KeepsSame files others := by
  intro path
  rw [kept, kept, List.mem_filter, List.mem_filter, h]

theorem getD_flags_congr (h : r.KeepsSame files others) (id : String) :
    ((r.flags files).find? id).getD true = ((r.flags others).find? id).getD true := by
  have hfalse : ((r.flags files).find? id).getD true = false ↔
      ((r.flags others).find? id).getD true = false := by
    rw [getD_flags_eq_false_iff, getD_flags_eq_false_iff]
    exact exists_congr fun path => and_congr_left fun _ => h path
  cases hflag : ((r.flags others).find? id).getD true with
  | false => exact hfalse.2 hflag
  | true =>
    rw [← Bool.not_eq_false, hfalse, hflag]
    exact Bool.noConfusion

theorem byFile_congr (h : r.KeepsSame files others) :
    (r.index files).byFile = (r.index others).byFile := by
  apply OrdMap.ext_find?
  intro path
  ext ids
  rw [find?_byFile_eq_some_iff, find?_byFile_eq_some_iff, h path]

/-- Two lists have one index exactly if the same paths of theirs are kept. -/
theorem index_eq_iff : r.index files = r.index others ↔ r.KeepsSame files others := by
  constructor
  · intro h path
    have hlists : ∀ list, (r.index list).byFile.find? path = some (r.assign path).ids ↔
        path ∈ r.kept list := by
      intro list
      rw [find?_byFile_eq_some_iff]
      exact and_iff_left rfl
    rw [← hlists files, h, hlists others]
  · intro h
    have hbyFile := byFile_congr h
    have hbyArea : (r.index files).byArea = (r.index others).byArea := congrArg invert hbyFile
    have hareas : (r.index files).areas = (r.index others).areas := by
      apply OrdMap.ext_find?
      intro id
      ext i
      rw [find?_areas_eq_some_iff, find?_areas_eq_some_iff, hbyArea, getD_flags_congr h]
    exact (Index.mk.injEq ..).mpr ⟨hbyFile, hbyArea, hareas⟩

/-! ## References -/

theorem mem_inferredIds_iff {id : String} : id ∈ r.inferredIds files ↔
    ∃ file, (file ∈ files ∧ r.isIgnored file = false) ∧ id ∈ infer file := by
  rw [inferredIds, OrdSet.mem_ofList, List.mem_flatMap]
  refine exists_congr fun file => and_congr_left fun _ => ?_
  rw [List.mem_filter, Bool.not_eq_true']

/-- A reference depends on the files that are not left out, as they are spelled. -/
theorem resolveReference_congr
    (h : ∀ file, (file ∈ files ∧ r.isIgnored file = false) ↔
      (file ∈ others ∧ r.isIgnored file = false)) (input : String) :
    r.resolveReference input files = r.resolveReference input others := by
  have hids : r.inferredIds files = r.inferredIds others := by
    apply OrdSet.ext_mem
    intro id
    simp only [mem_inferredIds_iff, h]
  unfold resolveReference referent?
  rw [hids]

end Area.Resolver

namespace ProjectMap

variable {r : Area.Resolver} {files others : List String}

theorem build_congr (h : r.KeepsSame files others) : build r files = build r others := by
  unfold build
  rw [Area.Resolver.index_eq_iff.2 h]

/-- Lists whose files have the same normal forms have one index and one map, and lists of the same
files give a reference one meaning. -/
theorem build_of_same_files (r : Area.Resolver) (files others : List String) :
    ((∀ path, path ∈ files.map Path.relative ↔ path ∈ others.map Path.relative) →
      r.index files = r.index others ∧ build r files = build r others) ∧
    ((∀ file, file ∈ files ↔ file ∈ others) →
      ∀ input, r.resolveReference input files = r.resolveReference input others) := by
  constructor
  · intro h
    have hkept : r.KeepsSame files others := Area.Resolver.keepsSame_of_same_paths h
    exact ⟨Area.Resolver.index_eq_iff.2 hkept, build_congr hkept⟩
  · exact fun h => Area.Resolver.resolveReference_congr fun file => and_congr_left fun _ => h file

namespace Sample

/-- Two files, one of them in `cart` by a rule. -/
def resolver : Area.Resolver :=
  .ofConfig ⟨.ofList [("cart", ⟨none, none, ["src/basket/*"]⟩)], .empty, [], true⟩

def plain : List String := ["features/cart/b.ts", "src/basket/a.ts"]

/-- The same paths in another order, one of them twice, and none as it is. -/
def spelled : List String :=
  ["./src\\basket/a.ts", "/features/cart/b.ts", " features\\cart\\b.ts"]

/-- The same files in another order, one of them twice. -/
def repeated : List String := ["src/basket/a.ts", "features/cart/b.ts", "src/basket/a.ts"]

end Sample

theorem spellings_make_one_map :
    build Sample.resolver Sample.spelled = build Sample.resolver Sample.plain ∧
      Sample.resolver.resolveReference "Car" Sample.repeated = "cart" := by
  have hpaths : ∀ path, path ∈ Sample.spelled.map Path.relative ↔
      path ∈ Sample.plain.map Path.relative := by
    have hspelled : Sample.spelled.map Path.relative =
        ["src/basket/a.ts", "features/cart/b.ts", "features/cart/b.ts"] := by decide
    have hplain : Sample.plain.map Path.relative = ["features/cart/b.ts", "src/basket/a.ts"] := by
      decide
    intro path
    rw [hspelled, hplain]
    simp [or_comm]
  have hfiles : ∀ file, file ∈ Sample.repeated ↔ file ∈ Sample.plain := by
    intro file
    simp only [Sample.repeated, Sample.plain, List.mem_cons, List.not_mem_nil, or_false]
    tauto
  obtain ⟨-, hbuild⟩ := (build_of_same_files Sample.resolver Sample.spelled Sample.plain).1 hpaths
  have hreference :=
    (build_of_same_files Sample.resolver Sample.repeated Sample.plain).2 hfiles "Car"
  have hcart : Sample.resolver.resolveReference "Car" Sample.plain = "cart" := by decide
  exact ⟨hbuild, hreference.trans hcart⟩

end ProjectMap
end Gazetteer
