import Gazetteer.Proofs.Area.Presentation
import Gazetteer.Proofs.Glob.Literal
import Gazetteer.Proofs.Path.Relative

/-!
# Files asked for alone and in an index

A resolver that is asked for one file normalises its path once. An index normalises the paths of a
list and then asks the resolver, which normalises them again. So an index says of a file what the
resolver says of it, whatever the configuration, exactly if the normal form of its path is normal
(`index_says_of_files_iff`). It is not where white space or `./` stands behind a leading slash, and
there a file that is left out can be listed.
-/

namespace Gazetteer

namespace Path

variable {path : String}

/-- The normal form of a path without backslashes is a part of it. -/
theorem relative_infix (h : '\\' ∉ path.toList) : (relative path).toList <:+: path.toList := by
  have htrim : Text.trim path.toList <:+: path.toList :=
    (Text.trimEnd_prefix _).isInfix.trans (Text.trimStart_suffix _).isInfix
  have hunify : unify path.toList = Text.trim path.toList :=
    Text.exchange_of_not_mem fun hmem => h (htrim.subset hmem)
  rw [toList_relative, hunify]
  exact (dropLead_suffix _).isInfix.trans htrim

/-- A path without backslashes that has as many bytes as its normal form is normal. -/
theorem relative_eq_self_of_length (h : '\\' ∉ path.toList)
    (hlength : (Glob.bytes (relative path)).length = (Glob.bytes path).length) :
    relative path = path := by
  obtain ⟨front, back, hparts⟩ := relative_infix h
  have hbytes : Glob.bytes path = front.flatMap String.utf8EncodeChar ++
      Glob.bytes (relative path) ++ back.flatMap String.utf8EncodeChar := by
    rw [Glob.bytes, ← hparts, List.flatMap_append, List.flatMap_append, Glob.bytes]
  have hempty : ∀ cs : List Char, (cs.flatMap String.utf8EncodeChar).length = 0 → cs = [] := by
    intro cs hcs
    cases cs with
    | nil => rfl
    | cons c cs =>
      have hpos := String.length_utf8EncodeChar c ▸ c.utf8Size_pos
      rw [List.flatMap_cons, List.length_append] at hcs
      omega
  rw [hbytes, List.length_append, List.length_append] at hlength
  have hfront := hempty front (by omega)
  have hback := hempty back (by omega)
  rw [hfront, hback, List.nil_append, List.append_nil] at hparts
  exact String.toList_inj.1 hparts

end Path

namespace Area

/-- The configuration that leaves out one path and nothing else. -/
def Config.leavingOut (path : String) : Config :=
  ⟨.empty, .empty, [.ofList (Glob.escaped path.toList)], true⟩

/-- Whether an index says of a file what a resolver says when it is asked for this file alone: the
file is listed unless it is left out, and with the areas that the resolver gives. -/
def Index.SaysOf (index : Index) (r : Resolver) (file : String) : Prop :=
  ∀ ids, index.byFile.find? (Path.relative file) = some ids ↔
    r.isIgnored file = false ∧ ids = (r.assign file).ids

namespace Resolver

variable {r : Resolver} {files : List String} {file : String}

/-! ## One file -/

/-- An index says of a file what the resolver says of the normal form of its path. -/
theorem saysOf_iff (h : file ∈ files) : (r.index files).SaysOf r file ↔
    r.isIgnored (Path.relative file) = r.isIgnored file ∧
      (r.isIgnored file = false → (r.assign (Path.relative file)).ids = (r.assign file).ids) := by
  have hfind : ∀ ids, (r.index files).byFile.find? (Path.relative file) = some ids ↔
      r.isIgnored (Path.relative file) = false ∧ ids = (r.assign (Path.relative file)).ids := by
    intro ids
    rw [find?_byFile_eq_some_iff, mem_kept_iff]
    exact and_congr_left fun _ => and_iff_right ⟨file, h, rfl⟩
  unfold Index.SaysOf
  simp only [hfind]
  constructor
  · intro halone
    have hignored : r.isIgnored (Path.relative file) = false ↔ r.isIgnored file = false :=
      ⟨fun hkept => ((halone _).1 ⟨hkept, rfl⟩).1, fun hkept => ((halone _).2 ⟨hkept, rfl⟩).1⟩
    refine ⟨?_, fun hkept => ((halone _).1 ⟨hignored.2 hkept, rfl⟩).2⟩
    rwa [← Bool.not_eq_true, ← Bool.not_eq_true, not_iff_not, ← Bool.eq_iff_iff] at hignored
  · rintro ⟨hignored, hids⟩ ids
    rw [hignored]
    exact and_congr_right fun hkept => by rw [hids hkept]

theorem saysOf_of_normal (h : file ∈ files)
    (hnormal : Path.relative (Path.relative file) = Path.relative file) :
    (r.index files).SaysOf r file := by
  have hignored : r.isIgnored (Path.relative file) = r.isIgnored file := by
    unfold isIgnored
    rw [hnormal]
  have hdeclared : r.declaredIds (Path.relative file) = r.declaredIds file := by
    unfold declaredIds
    rw [hnormal]
  refine (saysOf_iff h).2 ⟨hignored, fun _ => ?_⟩
  unfold assign
  rw [hignored, hdeclared, hnormal]

/-! ## The file that is left out -/

theorem ignore_leavingOut {path : String}
    (hlast : ∀ c, path.toList.getLast? = some c → Text.isBlank c = false) :
    (ofConfig (.leavingOut path)).ignore = [⟨path.toList.map .literal⟩] := by
  have hread : readIgnore (.ofList (Glob.escaped path.toList)) =
      .ok ⟨path.toList.map .literal⟩ := by
    rw [readIgnore, String.toList_ofList, Glob.trim_escaped hlast, Glob.read,
      String.toList_ofList, Glob.tokensOf_escaped]
  have hreadable : readableIgnores (.leavingOut path) = [⟨path.toList.map .literal⟩] := by
    rw [readableIgnores, Config.leavingOut, List.filterMap_cons, hread]
    rfl
  have hdepth : tooDeepPlace? (.leavingOut path) = none := by
    rw [tooDeepPlace?, hreadable, List.findIdx?_cons, Glob.isTooDeep, Glob.depth_literals]
    rfl
  rw [ofConfig, hreadable, hdepth]
  rfl

theorem isIgnored_leavingOut {path : String}
    (hlast : ∀ c, path.toList.getLast? = some c → Text.isBlank c = false) (file : String) :
    (ofConfig (.leavingOut path)).isIgnored file =
      Glob.sameBytes globRules (Glob.bytes path) (Glob.bytes (Path.relative file)) := by
  rw [isIgnored, ignore_leavingOut hlast, List.any_cons, List.any_nil, Bool.or_false,
    Glob.accepts_literals]
  rfl

/-- The configuration that leaves out what an index takes a file for parts the two if the path is
not normal: it leaves out no file of another length. -/
theorem normal_of_saysOf (h : file ∈ files)
    (halone : ∀ config, ((ofConfig config).index files).SaysOf (ofConfig config) file) :
    Path.relative (Path.relative file) = Path.relative file := by
  have hignored := ((saysOf_iff h).1
    (halone (.leavingOut (Path.relative (Path.relative file))))).1
  have hlast : ∀ c, (Path.relative (Path.relative file)).toList.getLast? = some c →
      Text.isBlank c = false := fun c => Path.getLast?_relative
  rw [isIgnored_leavingOut hlast, isIgnored_leavingOut hlast, Glob.sameBytes_self] at hignored
  have hlength := Glob.length_eq_of_sameBytes hignored.symm
  exact Path.relative_eq_self_of_length (Path.not_mem_relative file) hlength

/-! ## Lists without what is left out -/

/-- The files of a list that a resolver does not leave out when it is asked for each alone. -/
def seen (r : Resolver) (files : List String) : List String :=
  files.filter fun file => !r.isIgnored file

theorem mem_seen_iff : file ∈ r.seen files ↔ file ∈ files ∧ r.isIgnored file = false := by
  rw [seen, List.mem_filter, Bool.not_eq_true']

/-- Files of one normal form are left out together. -/
theorem isIgnored_congr {other : String} (h : Path.relative file = Path.relative other) :
    r.isIgnored file = r.isIgnored other := by
  unfold isIgnored
  rw [h]

theorem index_seen_iff : r.index (r.seen files) = r.index files ↔
    ∀ file ∈ files, r.isIgnored file = true → r.isIgnored (Path.relative file) = true := by
  rw [index_eq_iff]
  constructor
  · intro hsame file hfile hignored
    by_contra hlisted
    have hkept : Path.relative file ∈ r.kept files :=
      mem_kept_iff.2 ⟨⟨file, hfile, rfl⟩, Bool.not_eq_true _ ▸ hlisted⟩
    obtain ⟨⟨other, hother, hform⟩, -⟩ := mem_kept_iff.1 ((hsame _).2 hkept)
    rw [isIgnored_congr hform, (mem_seen_iff.1 hother).2] at hignored
    cases hignored
  · intro hignored path
    rw [mem_kept_iff, mem_kept_iff]
    refine and_congr_left fun hlisted => ⟨?_, ?_⟩
    · rintro ⟨file, hfile, rfl⟩
      exact ⟨file, (mem_seen_iff.1 hfile).1, rfl⟩
    · rintro ⟨file, hfile, rfl⟩
      refine ⟨file, mem_seen_iff.2 ⟨hfile, ?_⟩, rfl⟩
      by_contra hleft
      rw [hignored file hfile (Bool.not_eq_false _ ▸ hleft)] at hlisted
      cases hlisted

theorem resolveReference_seen (input : String) :
    r.resolveReference input (r.seen files) = r.resolveReference input files := by
  refine resolveReference_congr (fun file => ?_) input
  rw [mem_seen_iff, and_assoc, and_self]

/-! ## Both ways of asking -/

/-- Whatever the configuration, an index says of a file what the resolver says of it alone, exactly
if the normal form of its path is normal. Without the files that are left out the index is the same
exactly if the normal forms of their paths are left out too, and references always mean the same. -/
theorem index_says_of_files_iff (files : List String) :
    (∀ file ∈ files,
      (∀ config, ((ofConfig config).index files).SaysOf (ofConfig config) file) ↔
        Path.relative (Path.relative file) = Path.relative file) ∧
    ∀ config, let r := ofConfig config
      (r.index (r.seen files) = r.index files ↔
        ∀ file ∈ files, r.isIgnored file = true → r.isIgnored (Path.relative file) = true) ∧
      ∀ input, r.resolveReference input (r.seen files) = r.resolveReference input files :=
  ⟨fun _ h => ⟨normal_of_saysOf h, fun hnormal _ => saysOf_of_normal h hnormal⟩,
    fun _ => ⟨index_seen_iff, resolveReference_seen⟩⟩

namespace Sample

/-- The name of a file with a space behind a leading backslash. -/
def odd : String := "\\ a.ts"

/-- Leaves out the normal form of that name. -/
def config : Config := ⟨.empty, .empty, ["[ ]a.ts"], true⟩

end Sample

theorem plain_file_is_indexed_as_asked :
    (∀ config, ((ofConfig config).index ["src/a.ts", Sample.odd]).SaysOf (ofConfig config)
      "src/a.ts") ∧
    ¬ ∀ config, ((ofConfig config).index ["src/a.ts", Sample.odd]).SaysOf (ofConfig config)
      Sample.odd := by
  obtain ⟨hfiles, -⟩ := index_says_of_files_iff ["src/a.ts", Sample.odd]
  constructor
  · exact (hfiles "src/a.ts" (by decide)).2 (by decide)
  · intro halone
    have hnormal := (hfiles Sample.odd (by decide)).1 halone
    exact absurd hnormal (by decide)

/-- A file that is left out is listed, and not without it. -/
theorem exists_ignored_but_indexed : ∃ config file, let r := ofConfig config
    r.isIgnored file = true ∧
      (r.index [file]).byFile.find? (Path.relative file) = some .empty ∧
      r.index (r.seen [file]) ≠ r.index [file] :=
  ⟨Sample.config, Sample.odd, by decide +kernel, by decide +kernel, by decide +kernel⟩

end Resolver
end Area
end Gazetteer
