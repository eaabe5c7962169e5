import Gazetteer.Scan.Walk
import Gazetteer.Proofs.Disk.Way
import Gazetteer.Proofs.Ordered.OfList
import Mathlib.Data.List.Perm.Subperm

/-!
# What a scan lists

A scan lists its files in the order of their names, so the files determine the list. Whether a file
is listed depends on what stands at its place and on the ignore files of the folders on the way.
-/

namespace Gazetteer

open Disk (Node)

namespace Scan

variable {d : Disk} {base : List String} {depth : Nat}

/-! ## Order -/

/-- Whether files stand in the order of their names, each name once. -/
abbrev InOrder (l : List SourceFile) : Prop :=
  l.Pairwise fun f g => compare f.names g.names = .lt

theorem compare_append (base a b : List String) :
    compare (base ++ a) (base ++ b) = compare a b := by
  induction base with
  | nil => rfl
  | cons name base ih =>
    rw [List.cons_append, List.cons_append, List.compare_cons_cons, Std.compare_self, ih]
    rfl

theorem mem_nodesBelow {names : List String} {node : Node} :
    (names, node) ∈ nodesBelow d base ↔ names ≠ [] ∧ d.node? (base ++ names) = some node := by
  unfold nodesBelow
  rw [List.mem_filterMap]
  constructor
  · rintro ⟨⟨place, node'⟩, hentry, hsome⟩
    simp only at hsome
    split at hsome
    next hbelow =>
      obtain ⟨rfl, rfl⟩ := Prod.mk.inj (Option.some.inj hsome)
      simp only [Bool.and_eq_true, List.isPrefixOf_iff_prefix, decide_eq_true_eq] at hbelow
      obtain ⟨⟨names, rfl⟩, hne⟩ := hbelow
      have hnames : names ≠ [] := by
        rintro rfl
        exact hne (List.append_nil base).symm
      rw [List.drop_left, Disk.node?_of_ne_nil (by simp [hnames])]
      exact ⟨hnames, OrdMap.find?_eq_some_iff.2 hentry⟩
    next => cases hsome
  · rintro ⟨hnames, hnode⟩
    rw [Disk.node?_of_ne_nil (by simp [hnames])] at hnode
    refine ⟨(base ++ names, node), OrdMap.find?_eq_some_iff.1 hnode, ?_⟩
    simp [hnames]

theorem increasing_nodesBelow (d : Disk) (base : List String) :
    (nodesBelow d base).Pairwise fun a b => compare a.1 b.1 = .lt := by
  unfold nodesBelow
  rw [List.pairwise_filterMap]
  refine d.nodes.increasing.imp ?_
  rintro ⟨p, _⟩ ⟨q, _⟩ hlt a ha b hb
  simp only at ha hb
  split at ha
  next hp =>
    split at hb
    next hq =>
      cases ha
      cases hb
      simp only [Bool.and_eq_true, List.isPrefixOf_iff_prefix] at hp hq
      obtain ⟨⟨p, rfl⟩, -⟩ := hp
      obtain ⟨⟨q, rfl⟩, -⟩ := hq
      -- Both places begin with the base, which does not count in their order.
      rw [List.drop_left, List.drop_left]
      exact (compare_append base p q).symm.trans hlt
    next => cases hb
  next => cases ha

theorem increasing_filesBelow (d : Disk) (base : List String) (depth : Nat) :
    InOrder (filesBelow d base depth) := by
  unfold InOrder filesBelow
  simp only
  rw [List.pairwise_filterMap]
  refine (increasing_nodesBelow d base).imp ?_
  rintro ⟨p, m⟩ ⟨q, n⟩ hlt f hf g hg
  cases m with
  | file _ _ =>
    cases n with
    | file _ _ =>
      simp only [Option.ite_none_right_eq_some, Option.some.injEq] at hf hg
      obtain ⟨-, rfl⟩ := hf
      obtain ⟨-, rfl⟩ := hg
      exact hlt
    | folder => cases hg
    | link _ => cases hg
  | folder => cases hf
  | link _ => cases hf

theorem increasing_files (d : Disk) (root : Disk.Route) (depth : Nat) :
    InOrder (files d root depth) := by
  unfold files
  split
  · split
    · exact increasing_filesBelow ..
    · split
      · exact List.pairwise_singleton _ _
      · exact .nil
    · exact .nil
  · exact .nil

theorem nodup {l : List SourceFile} (h : InOrder l) :
    l.Nodup := h.imp fun hlt heq => Entries.ne_of_compare_lt hlt (congrArg SourceFile.names heq)

/-- Of two lists in the order of names, one that holds the other and has no more files is the same.
-/
theorem eq_of_subset {l l' : List SourceFile} (h : InOrder l) (h' : InOrder l') (hsubset : l ⊆ l')
    (hlength : l'.length ≤ l.length) : l = l' := by
  have hnodup : l.Nodup := nodup h
  refine ((hnodup.subperm hsubset).perm_of_length_le hlength).eq_of_pairwise ?_ h h'
  intro f g _ _ hfg hgf
  rw [Std.OrientedCmp.gt_of_lt hfg] at hgf
  cases hgf

/-- Lists in the order of names are the same when they hold the same files. -/
theorem eq_of_mem_iff {l l' : List SourceFile} (h : InOrder l) (h' : InOrder l')
    (hmem : ∀ f, f ∈ l ↔ f ∈ l') : l = l' := by
  have hlength : l'.length ≤ l.length := ((nodup h').subperm fun f => (hmem f).2).length_le
  exact eq_of_subset h h' (fun f => (hmem f).1) hlength

/-! ### Lists that differ in one file -/

section

variable {l l' : List SourceFile} {names : List String}

def before (names : List String) (l : List SourceFile) : List SourceFile :=
  l.filter fun f => compare f.names names = .lt

def named (names : List String) (l : List SourceFile) : List SourceFile :=
  l.filter fun f => f.names = names

def behind (names : List String) (l : List SourceFile) : List SourceFile :=
  l.filter fun f => compare f.names names = .gt

theorem parts_of_behind (h : ∀ f ∈ l, compare f.names names = .gt) :
    before names l = [] ∧ named names l = [] ∧ behind names l = l := by
  refine ⟨List.filter_eq_nil_iff.2 fun f hf => by simp [h f hf],
    List.filter_eq_nil_iff.2 fun f hf => ?_, List.filter_eq_self.2 fun f hf => by simp [h f hf]⟩
  have hne : f.names ≠ names := by
    intro heq
    have hgt := h f hf
    rw [heq, Std.compare_self] at hgt
    cases hgt
  simpa using hne

/-- A list in the order of names falls apart at a name, which one file has at most. -/
theorem eq_append_at (h : InOrder l) (names : List String) :
    l = before names l ++ (named names l ++ behind names l) ∧
      (named names l = [] ∨ ∃ f, named names l = [f]) := by
  induction l with
  | nil => exact ⟨rfl, .inl rfl⟩
  | cons f l ih =>
    obtain ⟨hf, hl⟩ := List.pairwise_cons.1 h
    -- Behind a file with this name, or a later one, there are only later files.
    cases hcompare : compare f.names names with
    | lt =>
      have hne : f.names ≠ names := Entries.ne_of_compare_lt hcompare
      have hbefore : before names (f :: l) = f :: before names l :=
        List.filter_cons_of_pos (by simpa using hcompare)
      have hnamed : named names (f :: l) = named names l :=
        List.filter_cons_of_neg (by simpa using hne)
      have hbehind : behind names (f :: l) = behind names l :=
        List.filter_cons_of_neg (by simp [hcompare])
      rw [hbefore, hnamed, hbehind, List.cons_append, ← (ih hl).1]
      exact ⟨rfl, (ih hl).2⟩
    | eq =>
      have hname : f.names = names := Std.LawfulEqOrd.eq_of_compare hcompare
      have hgreater : ∀ g ∈ l, compare g.names names = .gt := by
        intro g hg
        rw [← hname]
        exact Std.OrientedCmp.gt_of_lt (hf g hg)
      obtain ⟨hbefore, hnamed, hbehind⟩ := parts_of_behind hgreater
      have hbefore' : before names (f :: l) = before names l :=
        List.filter_cons_of_neg (by simp [hcompare])
      have hnamed' : named names (f :: l) = f :: named names l :=
        List.filter_cons_of_pos (by simpa using hname)
      have hbehind' : behind names (f :: l) = behind names l :=
        List.filter_cons_of_neg (by simp [hcompare])
      rw [hbefore', hnamed', hbehind', hbefore, hnamed, hbehind]
      exact ⟨rfl, .inr ⟨f, rfl⟩⟩
    | gt =>
      have hgreater : ∀ g ∈ f :: l, compare g.names names = .gt := by
        intro g hg
        rcases List.mem_cons.1 hg with rfl | hg
        · exact hcompare
        · have hlt := Std.OrientedCmp.lt_of_gt hcompare
          exact Std.OrientedCmp.gt_of_lt (Std.TransCmp.lt_trans hlt (hf g hg))
      obtain ⟨hbefore, hnamed, hbehind⟩ := parts_of_behind hgreater
      rw [hbefore, hnamed, hbehind]
      exact ⟨rfl, .inl rfl⟩

theorem filter_eq_of_others (h : InOrder l) (h' : InOrder l')
    (hothers : ∀ f, f.names ≠ names → (f ∈ l' ↔ f ∈ l)) {p : SourceFile → Bool}
    (hp : ∀ f, p f = true → f.names ≠ names) : l'.filter p = l.filter p := by
  refine eq_of_mem_iff (h'.filter p) (h.filter p) fun f => ?_
  rw [List.mem_filter, List.mem_filter]
  exact and_congr_left fun hf => hothers f (hp f hf)

/-- Lists that hold the same files, but for those of one name, differ at one place at most. -/
theorem exists_differ_at (h : InOrder l) (h' : InOrder l')
    (hothers : ∀ f, f.names ≠ names → (f ∈ l' ↔ f ∈ l)) : ∃ start rest,
      l = start ++ (named names l ++ rest) ∧ l' = start ++ (named names l' ++ rest) ∧
        (named names l = [] ∨ ∃ f, named names l = [f]) ∧
          (named names l' = [] ∨ ∃ f, named names l' = [f]) := by
  obtain ⟨hparts, hnamed⟩ := eq_append_at h names
  obtain ⟨hparts', hnamed'⟩ := eq_append_at h' names
  have hbefore : before names l' = before names l := by
    refine filter_eq_of_others h h' hothers fun f hf => ?_
    exact Entries.ne_of_compare_lt (by simpa using hf)
  have hbehind : behind names l' = behind names l := by
    refine filter_eq_of_others h h' hothers fun f hf => ?_
    have hlt := Std.OrientedCmp.lt_of_gt (by simpa using hf : compare f.names names = .gt)
    exact (Entries.ne_of_compare_lt hlt).symm
  rw [hbefore, hbehind] at hparts'
  exact ⟨_, _, hparts, hparts', hnamed, hnamed'⟩

end

/-! ## Rules -/

/-- What a folder's ignore files say to a scan below `base`. -/
def rulesOf (d : Disk) (base : List String) : List String → FolderRules :=
  FolderRules.ofTable (FolderRules.table d base)

theorem eq_none_of_isEmpty {rules : FolderRules} (h : rules.isEmpty = true) : rules = .none := by
  obtain ⟨general, git, excluded⟩ := rules
  simpa [FolderRules.isEmpty, FolderRules.none, and_assoc] using h

/-- The folders whose ignore files a scan below `base` reads. -/
def folders (d : Disk) (base : List String) : List (List String) :=
  [] :: d.nodes.entries.filterMap fun (place, node) =>
    if node = .folder && (base.isPrefixOf place || place.isPrefixOf base) then some place else none

theorem mem_folders {folder : List String} : folder ∈ folders d base ↔
    d.node? folder = some .folder ∧ (base <+: folder ∨ folder <+: base) := by
  unfold folders
  rw [List.mem_cons, List.mem_filterMap]
  by_cases hfolder : folder = []
  · simp [hfolder]
  · rw [Disk.node?_of_ne_nil hfolder, OrdMap.find?_eq_some_iff]
    simp [hfolder, and_comm]

theorem rulesOf_eq (d : Disk) (base folder : List String) : rulesOf d base folder =
    if d.node? folder = some .folder ∧ (base <+: folder ∨ folder <+: base)
      then FolderRules.read d folder else .none := by
  let read := (folders d base).map fun folder => (folder, FolderRules.read d folder)
  have hgraph : ∀ e ∈ read.filter fun e => !e.2.isEmpty,
      e.2 = FolderRules.read d e.1 := by
    intro e he
    obtain ⟨folder, -, rfl⟩ := List.mem_map.1 (List.mem_filter.1 he).1
    rfl
  show ((OrdMap.ofList (read.filter fun e => !e.2.isEmpty)).find? folder).getD .none = _
  rw [OrdMap.find?_ofList_graph hgraph]
  simp only [← mem_folders]
  -- A folder without rules is left out of the table, and is read as one without rules.
  by_cases hempty : (FolderRules.read d folder).isEmpty = true
  · rw [eq_none_of_isEmpty hempty]
    split <;> split <;> rfl
  · have hkey : folder ∈ (read.filter fun e => !e.2.isEmpty).map Prod.fst ↔
        folder ∈ folders d base := by
      simp only [List.mem_map, List.mem_filter, read]
      constructor
      · rintro ⟨_, ⟨⟨folder, hfolder, rfl⟩, -⟩, rfl⟩
        exact hfolder
      · intro hfolder
        exact ⟨_, ⟨⟨folder, hfolder, rfl⟩, by simpa using hempty⟩, rfl⟩
    simp only [hkey]
    split <;> rfl

/-! ## What the way to a file says -/

theorem chainOf_congr {rulesAt rulesAt' : List String → FolderRules} {above rest : List String}
    (h : ∀ folder, folder <+: above ++ rest → rulesAt' folder = rulesAt folder) :
    chainOf rulesAt' above rest = chainOf rulesAt above rest := by
  induction rest generalizing above with
  | nil => rfl
  | cons name rest ih =>
    rw [chainOf, chainOf, h above (List.prefix_append _ _), ih]
    simpa using h

theorem isSkipped_congr {rulesAt rulesAt' : List String → FolderRules} {entry : List String}
    (h : ∀ folder, folder <+: entry → rulesAt' folder = rulesAt folder) (isFolder : Bool) :
    isSkipped rulesAt' entry isFolder = isSkipped rulesAt entry isFolder := by
  unfold isSkipped
  rw [chainOf_congr (by simpa using h)]

/-- Whether a scan comes to a file depends on the rules of the folders on the way only. -/
theorem isReached_congr {rulesAt rulesAt' : List String → FolderRules} {names : List String}
    (h : ∀ folder, folder <+: base ++ names → rulesAt' folder = rulesAt folder) :
    isReached rulesAt' base names = isReached rulesAt base names := by
  induction names generalizing base with
  | nil => rfl
  | cons name names ih =>
    have hfirst : ∀ folder, folder <+: base ++ [name] → rulesAt' folder = rulesAt folder := by
      intro folder hfolder
      exact h folder (hfolder.trans (List.append_cons base name names ▸ List.prefix_append _ _))
    cases names with
    | nil => rw [isReached, isReached, isSkipped_congr hfirst]
    | cons next names =>
      have hbelow : ∀ folder, folder <+: base ++ [name] ++ (next :: names) →
          rulesAt' folder = rulesAt folder := by simpa using h
      have hrest := ih hbelow
      show (!isSkipped rulesAt' (base ++ [name]) true &&
          isReached rulesAt' (base ++ [name]) (next :: names)) =
        (!isSkipped rulesAt (base ++ [name]) true &&
          isReached rulesAt (base ++ [name]) (next :: names))
      rw [isSkipped_congr hfirst, hrest]

/-! ## Files -/

theorem mem_filesBelow {f : SourceFile} : f ∈ filesBelow d base depth ↔
    f.names ≠ [] ∧ (∃ content time, d.node? (base ++ f.names) = some (.file content time) ∧
      f.modified = Disk.milliseconds time) ∧ f.names.length ≤ depth ∧
        isSourceName (f.names.getLastD "") = true ∧
          isReached (rulesOf d base) base f.names = true := by
  unfold filesBelow
  simp only [List.mem_filterMap]
  constructor
  · rintro ⟨⟨names, node⟩, hnode, hsome⟩
    obtain ⟨hnames, hnode⟩ := mem_nodesBelow.1 hnode
    cases node with
    | file content time =>
      simp only [Option.ite_none_right_eq_some, Option.some.injEq, Bool.and_eq_true,
        decide_eq_true_eq] at hsome
      obtain ⟨⟨⟨hdepth, hsource⟩, hreached⟩, rfl⟩ := hsome
      exact ⟨hnames, ⟨content, time, hnode, rfl⟩, hdepth, hsource, hreached⟩
    | folder => cases hsome
    | link target => cases hsome
  · rintro ⟨hnames, ⟨content, time, hnode, htime⟩, hdepth, hsource, hreached⟩
    refine ⟨(f.names, .file content time), mem_nodesBelow.2 ⟨hnames, hnode⟩, ?_⟩
    have hcondition : (f.names.length ≤ depth && isSourceName (f.names.getLastD "") &&
        isReached (rulesOf d base) base f.names) = true := by
      rw [hsource, hreached, decide_eq_true hdepth]
      rfl
    show (if (f.names.length ≤ depth && isSourceName (f.names.getLastD "") &&
      isReached (rulesOf d base) base f.names) = true then _ else _) = _
    rw [if_pos hcondition, ← htime]

/-- Where ignore files say the same, a scan meets a source file that stands where it stood. -/
theorem mem_filesBelow_congr {d' : Disk} {f : SourceFile}
    (hrules : rulesOf d' base = rulesOf d base)
    (hnode : isSourceName (f.names.getLastD "") = true → ∀ content time,
      d'.node? (base ++ f.names) = some (.file content time) ↔
        d.node? (base ++ f.names) = some (.file content time)) :
    f ∈ filesBelow d' base depth ↔ f ∈ filesBelow d base depth := by
  rw [mem_filesBelow, mem_filesBelow, hrules]
  constructor
  · rintro ⟨hnames, ⟨content, time, hstands, htime⟩, hdepth, hsource, hreached⟩
    have hstands' := (hnode hsource content time).1 hstands
    exact ⟨hnames, ⟨content, time, hstands', htime⟩, hdepth, hsource, hreached⟩
  · rintro ⟨hnames, ⟨content, time, hstands, htime⟩, hdepth, hsource, hreached⟩
    have hstands' := (hnode hsource content time).2 hstands
    exact ⟨hnames, ⟨content, time, hstands', htime⟩, hdepth, hsource, hreached⟩

/-- Where nothing has changed on the way to a root, its files are the same, or both times those of a
folder. -/
theorem files_congr {d' : Disk} (h : d.Straight base)
    (hsame : ∀ p, p <+: base → d'.node? p = d.node? p) :
    files d' (.ofNames base) depth = files d (.ofNames base) depth ∨
      files d (.ofNames base) depth = filesBelow d base depth ∧
        files d' (.ofNames base) depth = filesBelow d' base depth := by
  unfold files
  rw [Disk.locate_congr h hsame, Disk.follow_congr h hsame]
  cases d.locate (.ofNames base) with
  | error e => exact .inl rfl
  | ok own =>
    cases hfollow : d.follow (.ofNames base) with
    | error e => exact .inl rfl
    | ok place =>
      obtain rfl := Disk.follow_ofNames h hfollow
      simp only [hsame place List.prefix_rfl]
      cases d.node? place with
      | none => exact .inl rfl
      | some node =>
        cases node with
        | file content time => exact .inl rfl
        | folder => exact .inr ⟨rfl, rfl⟩
        | link target => exact .inl rfl

end Scan
end Gazetteer
