import Gazetteer.Proofs.Area.Summary
import Gazetteer.Proofs.Cache.Coherence
import Gazetteer.Proofs.Path.Relative
import Gazetteer.Proofs.Text.Lowering

/-!
# What a map lists

A map lists the normalised paths of the files that a scan finds, each once and in order, without
those that the configuration leaves out. A path of the scan that is normal already is listed as it
is, and most are: only backslashes and white space in front are touched. Files whose paths are not
normal may be listed under another name, and two of them as one.
-/

namespace Gazetteer

/-! ## Names of source files -/

namespace Text

theorem cutLast?_eq_some {sep : Char} {cs before after : List Char}
    (h : cutLast? sep cs = some (before, after)) : cs = before ++ sep :: after := by
  induction cs generalizing before with
  | nil => cases h
  | cons c cs ih =>
    rw [cutLast?] at h
    split at h
    next start rest hrest =>
      cases h
      rw [ih hrest, List.cons_append]
    · split at h
      next hc =>
        cases h
        rw [hc, List.nil_append]
      · cases h

end Text

namespace Scan

/-- The name of a source file ends in its extension, so not in white space. -/
theorem getLast?_of_isSourceName {name : String} {c : Char} (h : isSourceName name = true)
    (hlast : name.toList.getLast? = some c) : Text.isBlank c = false := by
  -- The extensions are texts of letters, and white space would stand in the lower-case form too.
  have hends : ∀ e ∈ sourceExtensions,
      (e.toList.getLast?.any fun last => !Text.isBlank last) = true := by decide
  unfold isSourceName at h
  obtain ⟨e, he, hext⟩ := List.any_eq_true.1 h
  obtain ⟨last, hend, hletter⟩ := (Option.any_eq_true _ _).1 (hends e he)
  rw [Bool.not_eq_true'] at hletter
  rw [← of_decide_eq_true hext] at hend
  obtain ⟨start, ext, hname, hlower⟩ : ∃ start ext, name.toList = start ++ ext ∧
      Text.lower ext = Text.lower (Path.stemAndExtension name.toList).2 := by
    unfold Path.stemAndExtension
    split
    next stem ext hcut =>
      split
      · exact ⟨name.toList, [], (List.append_nil _).symm, rfl⟩
      · exact ⟨stem ++ ['.'], ext, by rw [Text.cutLast?_eq_some hcut]; simp, rfl⟩
    · exact ⟨name.toList, [], (List.append_nil _).symm, rfl⟩
  rw [← hlower] at hend
  rcases List.eq_nil_or_concat ext with rfl | ⟨front, final, rfl⟩
  · cases hend
  · rw [hname, List.concat_eq_append, ← List.append_assoc, List.getLast?_concat] at hlast
    obtain rfl := Option.some.inj hlast
    by_cases hblank : Text.isBlank final = true
    · rw [List.concat_eq_append, Text.lower, Text.getLast?_lowerAfter hblank] at hend
      obtain rfl := Option.some.inj hend
      exact hletter
    · exact Bool.not_eq_true _ ▸ hblank

end Scan

/-! ## Files of a scan -/

/-- Every name on a disk can stand in a folder. -/
def Disk.IsNamed (d : Disk) : Prop := ∀ e ∈ d.nodes.entries, ∀ name ∈ e.1, Path.IsName name

instance (d : Disk) : Decidable d.IsNamed :=
  inferInstanceAs (Decidable (∀ e ∈ d.nodes.entries, ∀ name ∈ e.1, Path.IsName name))

namespace Scan

variable {d : Disk} {root : Disk.Route} {depth : Nat} {f : SourceFile}

/-- A file of a scan has the name of a source file, if it lies below the root. -/
theorem names_of_mem_files (h : f ∈ files d root depth) : f.names = [] ∨
    isSourceName (f.names.getLastD "") = true ∧
      ∃ base node, d.node? (base ++ f.names) = some node := by
  unfold files at h
  split at h
  next own base _ _ =>
    split at h
    · obtain ⟨-, ⟨content, time, hnode, -⟩, -, hsource, -⟩ := mem_filesBelow.1 h
      exact .inr ⟨hsource, base, _, hnode⟩
    · split at h
      · obtain rfl := List.mem_singleton.1 h
        exact .inl rfl
      · cases h
    · cases h
  · cases h

theorem isName_of_mem_files (hnamed : d.IsNamed) (h : f ∈ files d root depth) :
    ∀ name ∈ f.names, Path.IsName name := by
  intro name hname
  rcases names_of_mem_files h with hnil | ⟨-, base, node, hnode⟩
  · rw [hnil] at hname
    cases hname
  · have hmem : name ∈ base ++ f.names := List.mem_append_right _ hname
    rw [Disk.node?_of_ne_nil (List.ne_nil_of_mem hmem), OrdMap.find?_eq_some_iff] at hnode
    exact hnamed _ hnode name hmem

/-- The path of a file does not end in white space. -/
theorem getLast?_path (hnamed : d.IsNamed) (h : f ∈ files d root depth) {c : Char}
    (hlast : f.path.toList.getLast? = some c) : Text.isBlank c = false := by
  rcases names_of_mem_files h with hnil | ⟨hsource, -⟩
  · rw [SourceFile.path, hnil] at hlast
    cases hlast
  · have hnames := isName_of_mem_files hnamed h
    rw [SourceFile.path] at hlast
    rcases List.eq_nil_or_concat f.names with hnil | ⟨above, name, hname⟩
    · rw [hnil] at hlast
      cases hlast
    rw [List.concat_eq_append] at hname
    rw [hname, List.getLastD_concat] at hsource
    obtain ⟨start, hstart⟩ := Path.exists_toList_intercalate_concat above name
    have hne : name.toList ≠ [] := by
      intro heq
      exact (hnames name (hname ▸ List.mem_append_right _ List.mem_cons_self)).1
        (String.toList_inj.1 heq)
    rw [hname, hstart, List.getLast?_append_of_ne_nil _ hne] at hlast
    exact getLast?_of_isSourceName hsource hlast

theorem nodup_paths (hnamed : d.IsNamed) : (paths (files d root depth)).Nodup := by
  refine List.pairwise_map.2 ((increasing_files d root depth).imp_of_mem ?_)
  intro f g hf hg hlt hpath
  have hnames : f.names = g.names :=
    Path.intercalate_inj (isName_of_mem_files hnamed hf) (isName_of_mem_files hnamed hg) hpath
  exact Entries.ne_of_compare_lt hlt hnames

end Scan

/-! ## Maps of a tree -/

namespace Command.MapSnapshot

/-- A path that a map lists as it is: no backslash stands in it, and no white space in front. -/
def IsVerbatim (path : String) : Prop :=
  '\\' ∉ path.toList ∧ ∀ c, path.toList.head? = some c → Text.isBlank c = false

theorem isVerbatim_iff {path : String} : IsVerbatim path ↔
    '\\' ∉ path.toList ∧ path.toList.head?.all (fun c => !Text.isBlank c) = true := by
  unfold IsVerbatim
  cases path.toList.head? <;> simp

instance (path : String) : Decidable (IsVerbatim path) := decidable_of_iff' _ isVerbatim_iff

section

variable {project : Project} {force : Bool} {now : UInt64} {s : Session}

/-- A run that does not answer from the cache answers with the map of the tree as it is. -/
theorem map_of_not_hit (h : (loadOrBuild project force now s).1.cacheHit = false) :
    (loadOrBuild project force now s).1.map = built project s.disk := by
  cases hfound : found? project force s.disk with
  | some map =>
    rw [loadOrBuild_of_found hfound] at h
    cases h
  | none => rw [loadOrBuild_of_not_found hfound, (rebuild_eq project _ now s).1]

theorem relative_path_iff {d : Disk} (hnamed : d.IsNamed) {f : Scan.SourceFile}
    (hf : f ∈ Scan.files d project.root Scan.maxDepth) :
    Path.relative f.path = f.path ↔ IsVerbatim f.path :=
  Path.relative_intercalate_iff (Scan.isName_of_mem_files hnamed hf)
    fun _ hlast => Scan.getLast?_path hnamed hf hlast

/-- A map that is built lists, once and in order, the normalised paths of the files of the tree that
are not left out. The path of a file is the one that leads to it from the root, and it is listed as
it is exactly if it has no backslash and no white space in front. Where this holds of all files,
none is lost and none goes under another name. -/
theorem rebuilt_map_lists_scanned_files (hnamed : s.disk.IsNamed)
    (hrebuilt : (loadOrBuild project force now s).1.cacheHit = false) :
    let files := Scan.files s.disk project.root Scan.maxDepth
    let r := Area.Resolver.ofConfig project.config
    let listed := (loadOrBuild project force now s).1.map.filePaths
    (listed.Pairwise fun p q => compare p q = .lt) ∧
      (∀ p, p ∈ listed ↔ (∃ f ∈ files, p = Path.relative f.path) ∧ r.isIgnored p = false) ∧
      (∀ f ∈ files,
        Path.relativeTo project.root.text (project.root.text ++ "/" ++ f.path) = f.path) ∧
      (∀ f ∈ files, Path.relative f.path = f.path ↔ IsVerbatim f.path) ∧
      ((∀ f ∈ files, IsVerbatim f.path) →
        listed.Perm ((Scan.paths files).filter fun p => !r.isIgnored p)) := by
  intro files r listed
  have hlisted : listed = (ProjectMap.build r (Scan.paths files)).filePaths :=
    congrArg ProjectMap.filePaths (map_of_not_hit hrebuilt)
  have hincreasing : listed.Pairwise fun p q => compare p q = .lt := by
    rw [hlisted]
    exact ProjectMap.increasing_filePaths
  have hmem : ∀ p, p ∈ listed ↔
      (∃ f ∈ files, p = Path.relative f.path) ∧ r.isIgnored p = false := by
    intro p
    rw [hlisted, ProjectMap.mem_filePaths_iff]
    simp only [Scan.paths, List.mem_map, exists_exists_and_eq_and]
  refine ⟨hincreasing, hmem, fun f hf => ?_, fun f hf => relative_path_iff hnamed hf, ?_⟩
  · refine Path.relativeTo_names ?_ (Scan.isName_of_mem_files hnamed hf)
    simp [Disk.Route.text]
  · intro hverbatim
    have hsame : ∀ f ∈ files, Path.relative f.path = f.path :=
      fun f hf => (relative_path_iff hnamed hf).2 (hverbatim f hf)
    have hnodup : listed.Nodup := hincreasing.imp Entries.ne_of_compare_lt
    refine (List.perm_ext_iff_of_nodup hnodup ((Scan.nodup_paths hnamed).filter _)).2 fun p => ?_
    rw [hmem, List.mem_filter, Bool.not_eq_true', Scan.paths, List.mem_map]
    refine and_congr_left fun _ => ⟨?_, ?_⟩
    · rintro ⟨f, hf, rfl⟩
      exact ⟨f, hf, (hsame f hf).symm⟩
    · rintro ⟨f, hf, rfl⟩
      exact ⟨f, hf, (hsame f hf).symm⟩

end

/-! ### Names with backslashes and white space -/

namespace Sample

def project : Project := ⟨.ofNames ["p"], .default, none, []⟩

def plain : Disk where
  nodes := .ofList [(["p"], .folder), (["p", "a"], .folder),
    (["p", "a", "b.ts"], .file (.text "") 1000000), (["p", "c.ts"], .file (.text "") 1000000)]
  faults := []
  workingFolder := []

/-- The same files, the name of one of them with a space in front, and a third one whose name is the
path of another but for a backslash. -/
def odd : Disk where
  nodes := .ofList [(["p"], .folder), (["p", " c.ts"], .file (.text "") 1000000),
    (["p", "a"], .folder), (["p", "a", "b.ts"], .file (.text "") 1000000),
    (["p", "a\\b.ts"], .file (.text "") 1000000)]
  faults := []
  workingFolder := []

def run (d : Disk) : MapSnapshot := (loadOrBuild project true 5 (.ofDisk d)).1

theorem run_eq (d : Disk) : (run d).cacheHit = false ∧ (run d).map = built project d := by
  have hhit : (run d).cacheHit = false := by
    show (loadOrBuild project true 5 (.ofDisk d)).1.cacheHit = false
    rw [loadOrBuild_of_not_found rfl, (rebuild_eq project _ 5 (.ofDisk d)).1]
  exact ⟨hhit, map_of_not_hit hhit⟩

end Sample

theorem plain_files_are_listed : Sample.plain.IsNamed ∧ (Sample.run Sample.plain).cacheHit = false ∧
    (∀ f ∈ Scan.files Sample.plain Sample.project.root Scan.maxDepth, IsVerbatim f.path) ∧
      (Sample.run Sample.plain).map.filePaths.Perm ["a/b.ts", "c.ts"] := by
  have hnamed : Sample.plain.IsNamed := by decide
  have hverbatim : ∀ f ∈ Scan.files Sample.plain Sample.project.root Scan.maxDepth,
      IsVerbatim f.path := by decide
  obtain ⟨-, -, -, -, hlisted⟩ := rebuilt_map_lists_scanned_files (s := .ofDisk Sample.plain) hnamed
    (Sample.run_eq Sample.plain).1
  refine ⟨hnamed, (Sample.run_eq Sample.plain).1, hverbatim, ?_⟩
  have hscanned : (Scan.paths (Scan.files Sample.plain Sample.project.root Scan.maxDepth)).filter
      (fun p => !(Area.Resolver.ofConfig Sample.project.config).isIgnored p) =
        ["a/b.ts", "c.ts"] := by decide
  rw [← hscanned]
  exact hlisted hverbatim

/-- Of three files that a scan finds, none of them left out, a map may list two, one of them under
another name. -/
theorem exists_merged_and_renamed_files : ∃ d : Disk, d.IsNamed ∧ (Sample.run d).cacheHit = false ∧
    Scan.paths (Scan.files d Sample.project.root Scan.maxDepth) = [" c.ts", "a/b.ts", "a\\b.ts"] ∧
      (∀ p, (Area.Resolver.ofConfig Sample.project.config).isIgnored p = false) ∧
        (Sample.run d).map.filePaths = ["a/b.ts", "c.ts"] := by
  refine ⟨Sample.odd, by decide, (Sample.run_eq Sample.odd).1, by decide, fun p => rfl, ?_⟩
  rw [(Sample.run_eq Sample.odd).2]
  decide

end Command.MapSnapshot
end Gazetteer
