import Gazetteer.Proofs.Disk.Removal
import Gazetteer.Proofs.Scan.Plain
import Gazetteer.Proofs.Text.Cutting

/-!
# What a bounded walk finds

Where no ignore file has a say, whether a scan lists a file can be read off the names on the way to
it (`IsListed`): a walk that passes over hidden and denied entries loses just the files below one of
them. Such a scan lists the same files in the same order as the recursive walk that goes into one
folder after the other (`filesBelow_eq_walk`).
-/

namespace Gazetteer

namespace Scan

open Disk (Node)

variable {d : Disk} {root : Disk.Route} {base names : List String} {depth : Nat}

/-! ## Names -/

/-- The extension of a source file stands after its last dot, and something before it. -/
theorem isSourceName_iff {name : String} : isSourceName name = true ↔ ∃ stem ext : List Char,
    name.toList = stem ++ '.' :: ext ∧ stem ≠ [] ∧ '.' ∉ ext ∧
      ∃ e ∈ sourceExtensions, Text.lower ext = e.toList := by
  have hblank : ¬ ∃ e ∈ sourceExtensions, Text.lower [] = e.toList := by decide
  unfold isSourceName Path.stemAndExtension
  simp only [List.any_eq_true, decide_eq_true_eq]
  rcases Text.not_mem_or_exists_cut '.' name.toList with hdot | ⟨stem, ext, hname, hext⟩
  · rw [Text.cutLast?_of_not_mem hdot]
    refine iff_of_false hblank ?_
    rintro ⟨stem, ext, hname, -⟩
    exact hdot (hname ▸ List.mem_append_right _ List.mem_cons_self)
  · have hcut : ∀ stem' ext' : List Char, name.toList = stem' ++ '.' :: ext' → '.' ∉ ext' →
        stem' = stem ∧ ext' = ext := by
      intro stem' ext' hname' hext'
      have hsame : Text.cutLast? '.' (stem ++ '.' :: ext) = some (stem, ext) :=
        Text.cutLast?_append_cons hext
      rw [← hname, hname', Text.cutLast?_append_cons hext'] at hsame
      exact Prod.mk.inj (Option.some.inj hsame)
    rw [hname, Text.cutLast?_append_cons hext]
    by_cases hstem : stem = []
    · simp only [hstem, if_true]
      refine iff_of_false hblank ?_
      rintro ⟨stem', ext', hname', hne, hext', -⟩
      exact hne ((hcut stem' ext' (by rw [hname, hstem, hname']) hext').1.trans hstem)
    · simp only [hstem, if_false]
      constructor
      · intro hsource
        exact ⟨stem, ext, rfl, hstem, hext, hsource⟩
      · rintro ⟨stem', ext', hname', -, hext', hsource⟩
        rwa [← (hcut stem' ext' (hname.trans hname') hext').2]

theorem isDenied_eq_false_iff {name : String} : isDenied name = false ↔
    ∀ denied ∈ deniedNames, Text.lower name.toList ≠ denied.toList := by
  simp [isDenied]

theorem isHidden_eq_false_iff {name : String} :
    isHidden name = false ↔ name.toList.head? ≠ some '.' := by simp [isHidden]

/-- Whether the names on the way to a file let a walk of so many steps come to it and list it. -/
structure IsListed (depth : Nat) (names : List String) : Prop where
  below : names ≠ []
  near : names.length ≤ depth
  visible : ∀ name ∈ names, name.toList.head? ≠ some '.'
  allowed : ∀ name ∈ names, ∀ denied ∈ deniedNames, Text.lower name.toList ≠ denied.toList
  source : ∃ stem ext : List Char, (names.getLastD "").toList = stem ++ '.' :: ext ∧ stem ≠ [] ∧
    '.' ∉ ext ∧ ∃ e ∈ sourceExtensions, Text.lower ext = e.toList

/-! ## Ignore files without a say -/

/-- Whether no ignore file decides about anything at or below a place. -/
def IsSilent (d : Disk) (base : List String) : Prop :=
  ∀ names isFolder, chainVerdict? (chainOf (rulesOf d base) [] (base ++ names)) isFolder = none

theorem chainVerdict?_of_none {chain : Chain} (h : ∀ e ∈ chain, e.1 = .none) (isFolder : Bool) :
    chainVerdict? chain isFolder = none := by
  have hfile : ∀ file : FolderRules → IgnoreFile, file .none = [] →
      chain.findSome? (fun e => (file e.1).verdict? e.2 isFolder) = none := by
    intro file hnone
    refine List.findSome?_eq_none_iff.2 fun e he => ?_
    rw [h e he, hnone]
    rfl
  unfold chainVerdict?
  simp only
  rw [hfile FolderRules.general rfl, hfile FolderRules.git rfl, hfile FolderRules.excluded rfl]
  rfl

theorem mem_chainOf {rulesAt : List String → FolderRules} {above rest : List String}
    {e : FolderRules × String} (h : e ∈ chainOf rulesAt above rest) :
    ∃ folder, e.1 = rulesAt folder := by
  induction rest generalizing above with
  | nil => cases h
  | cons name rest ih =>
    rw [chainOf] at h
    rcases List.mem_append.1 h with hrest | hlast
    · exact ih hrest
    · exact ⟨above, by rw [List.mem_singleton.1 hlast]⟩

theorem isSilent_of_rulesOf (h : ∀ folder, rulesOf d base folder = .none) : IsSilent d base := by
  intro names isFolder
  refine chainVerdict?_of_none (fun e he => ?_) isFolder
  obtain ⟨folder, hfolder⟩ := mem_chainOf he
  rw [hfolder, h]

/-- On a tree of files and folders nothing has a say if no file has the name of an ignore file. -/
theorem IsSilent.of_isPlain (h : d.IsPlain)
    (hnames : ∀ e ∈ d.nodes.entries, e.1.getLast? ∉ ruleNames.map some) (base : List String) :
    IsSilent d base := by
  refine isSilent_of_rulesOf fun folder => ?_
  have hnil : ∀ p, ∀ name ∈ ruleNames, FolderRules.rulesAt d (.ofNames (p ++ [name])) = [] := by
    intro p name hname
    unfold FolderRules.rulesAt
    cases hread : d.read (.ofNames (p ++ [name])) with
    | error e => rfl
    | ok content =>
      obtain ⟨time, hfile⟩ := Disk.node?_of_read (h.maintains.straight _) hread
      have hentry := Disk.mem_entries_of_node? (by simp) hfile
      refine absurd ?_ (hnames _ hentry)
      rw [List.getLast?_concat]
      exact List.mem_map_of_mem hname
  rw [rulesOf_eq]
  split
  · rw [read_eq h.maintains, hnil _ _ (by decide), hnil _ _ (by decide), hnil _ _ (by decide)]
    rfl
  · rfl

/-! ## Entries passed over -/

theorem IsSilent.isSkipped (h : IsSilent d base) (name : String) (isFolder : Bool) :
    isSkipped (rulesOf d base) (base ++ names ++ [name]) isFolder =
      (isDenied name || isHidden name) := by
  unfold Scan.isSkipped
  rw [List.append_assoc, h (names ++ [name]) isFolder]
  simp

/-- A walk comes to a file exactly if it passes over nothing on the way. -/
theorem IsSilent.isReached_iff (h : IsSilent d base) (above : List String) :
    isReached (rulesOf d base) (base ++ above) names = true ↔
      ∀ name ∈ names, isDenied name = false ∧ isHidden name = false := by
  induction names generalizing above with
  | nil => simp [isReached]
  | cons name names ih =>
    have hstep : isReached (rulesOf d base) (base ++ above) (name :: names) = true ↔
        (isDenied name = false ∧ isHidden name = false) ∧
          isReached (rulesOf d base) (base ++ (above ++ [name])) names = true := by
      have hskipped (isFolder : Bool) :
          Scan.isSkipped (rulesOf d base) (base ++ above ++ [name]) isFolder =
            (isDenied name || isHidden name) := h.isSkipped name isFolder
      rw [← List.append_assoc]
      cases names with
      | nil => simp only [isReached, hskipped, Bool.not_eq_true', Bool.or_eq_false_iff, and_true]
      | cons next names =>
        simp only [isReached, hskipped, Bool.and_eq_true, Bool.not_eq_true', Bool.or_eq_false_iff]
    rw [hstep, ih, List.forall_mem_cons]

theorem isListed_iff (h : IsSilent d base) : IsListed depth names ↔ names ≠ [] ∧
    names.length ≤ depth ∧ isSourceName (names.getLastD "") = true ∧
      isReached (rulesOf d base) base names = true := by
  have hreached := @h.isReached_iff _ _ names []
  rw [List.append_nil] at hreached
  rw [hreached, isSourceName_iff]
  simp only [isDenied_eq_false_iff, isHidden_eq_false_iff]
  constructor
  · intro hlisted
    exact ⟨hlisted.below, hlisted.near, hlisted.source, fun name hname =>
      ⟨hlisted.allowed name hname, hlisted.visible name hname⟩⟩
  · rintro ⟨hbelow, hnear, hsource, hway⟩
    exact ⟨hbelow, hnear, fun name hname => (hway name hname).2,
      fun name hname => (hway name hname).1, hsource⟩

/-! ## Files -/

/-- A scan of a folder finds the files below it, also if the folder is behind links. -/
theorem files_of_folder (hfollow : d.follow root = .ok base)
    (hfolder : d.node? base = some .folder) :
    files d root depth = filesBelow d base depth := by
  obtain ⟨own, hown⟩ := Disk.exists_locate hfollow
  unfold files
  rw [hown, hfollow]
  simp only [hfolder]

theorem toNat_milliseconds (time : Int) :
    (Disk.milliseconds time).toNat = (time / 1000000).toNat % UInt64.size := by
  rw [Disk.milliseconds, UInt64.toNat_ofNat']

/-- Where no ignore file has a say, a scan of a folder lists the files whose names allow it, each
with its time in milliseconds, in the order of their names and so each one once. -/
theorem files_are_the_listed (hfollow : d.follow root = .ok base)
    (hfolder : d.node? base = some .folder) (hsilent : IsSilent d base) (depth : Nat) :
    (∀ f : SourceFile, f ∈ files d root depth ↔ IsListed depth f.names ∧
      ∃ content time, d.node? (base ++ f.names) = some (.file content time) ∧
        f.modified.toNat = (time / 1000000).toNat % UInt64.size) ∧
      (files d root depth).Pairwise fun f g => compare f.names g.names = .lt := by
  refine ⟨fun f => ?_, increasing_files d root depth⟩
  rw [files_of_folder hfollow hfolder, mem_filesBelow, isListed_iff hsilent]
  have htime : ∀ time, f.modified = Disk.milliseconds time ↔
      f.modified.toNat = (time / 1000000).toNat % UInt64.size := by
    intro time
    rw [← toNat_milliseconds, UInt64.toNat_inj]
  constructor
  · rintro ⟨hbelow, ⟨content, time, hnode, hmodified⟩, hnear, hsource, hreached⟩
    exact ⟨⟨hbelow, hnear, hsource, hreached⟩, content, time, hnode, (htime time).1 hmodified⟩
  · rintro ⟨⟨hbelow, hnear, hsource, hreached⟩, content, time, hnode, hmodified⟩
    exact ⟨hbelow, ⟨content, time, hnode, (htime time).2 hmodified⟩, hnear, hsource, hreached⟩

/-- A project with a source file in a folder, and others that are passed over. -/
def Sample.tree : Disk where
  nodes := .ofList [(["p"], .folder), (["p", "src"], .folder),
    (["p", "src", "App.TSX"], .file (.text "") 1500999999),
    (["p", "src", ".App.ts"], .file (.text "") 0),
    (["p", "Dist"], .folder), (["p", "Dist", "app.js"], .file (.text "") 0)]
  faults := []
  workingFolder := []

theorem nested_file_is_listed :
    (Sample.tree.follow (.ofNames ["p"]) = .ok ["p"] ∧ Sample.tree.node? ["p"] = some .folder ∧
      IsSilent Sample.tree ["p"]) ∧
    ⟨["src", "App.TSX"], 1500⟩ ∈ files Sample.tree (.ofNames ["p"]) 2 ∧
      ∀ f ∈ files Sample.tree (.ofNames ["p"]) 2, f.names.head? ≠ some "Dist" := by
  have hfollow : Sample.tree.follow (.ofNames ["p"]) = .ok ["p"] := by decide
  have hfolder : Sample.tree.node? ["p"] = some .folder := by decide
  have hsilent : IsSilent Sample.tree ["p"] :=
    .of_isPlain (by decide) (by decide) _
  obtain ⟨hmem, -⟩ := files_are_the_listed hfollow hfolder hsilent 2
  refine ⟨⟨hfollow, hfolder, hsilent⟩, (hmem _).2 ⟨?_, .text "", 1500999999, by decide, by decide⟩,
    fun f hf hhead => ?_⟩
  · exact ⟨by decide, by decide, by decide, by decide, "App".toList, "TSX".toList,
      by decide, by decide, by decide, by decide⟩
  · obtain ⟨rest, hnames⟩ := List.head?_eq_some_iff.1 hhead
    have hallowed := ((hmem f).1 hf).1.allowed "Dist" (hnames ▸ List.mem_cons_self) "dist"
      (by decide)
    exact hallowed (by decide)

/-! ## The walk -/

/-- What stands in a folder, each with its name. -/
def children (d : Disk) (place : List String) : List (String × Node) :=
  d.nodes.entries.filterMap fun (p, node) =>
    if p.dropLast = place then p.getLast?.map (·, node) else none

/-- The source files at or below an entry of a folder; `onward` walks on from a folder. -/
def visit (d : Disk) (base above : List String) (onward : List String → List SourceFile)
    (entry : String × Node) : List SourceFile :=
  let names := above ++ [entry.1]
  match entry.2 with
  | .file _ modified =>
    if isSourceName entry.1 && !isSkipped (rulesOf d base) (base ++ names) false then
      [⟨names, Disk.milliseconds modified⟩]
    else []
  | .folder => if isSkipped (rulesOf d base) (base ++ names) true then [] else onward names
  | .link _ => []

/-- The source files that a walk of so many steps comes to below a folder: `above` holds the names
on the way to it from where the walk began. -/
def walk (d : Disk) (base : List String) : (depth : Nat) → (above : List String) → List SourceFile
  | 0, _ => []
  | depth + 1, above =>
    (children d (base ++ above)).flatMap (visit d base above (walk d base depth))

theorem mem_children {place : List String} {name : String} {node : Node} :
    (name, node) ∈ children d place ↔ d.node? (place ++ [name]) = some node := by
  unfold children
  rw [Disk.node?_of_ne_nil (by simp), OrdMap.find?_eq_some_iff, List.mem_filterMap]
  constructor
  · rintro ⟨⟨p, node'⟩, hentry, hsome⟩
    simp only at hsome
    split at hsome
    next hplace =>
      obtain ⟨last, hlast, heq⟩ := Option.map_eq_some_iff.1 hsome
      obtain ⟨rfl, rfl⟩ := Prod.mk.inj heq
      rwa [← hplace, List.dropLast_append_getLast? _ hlast]
    next => cases hsome
  · intro hentry
    refine ⟨_, hentry, ?_⟩
    simp

theorem increasing_children (d : Disk) (place : List String) :
    (children d place).Pairwise fun a b => compare a.1 b.1 = .lt := by
  unfold children
  rw [List.pairwise_filterMap]
  refine d.nodes.increasing.imp ?_
  rintro ⟨p, _⟩ ⟨q, _⟩ hlt a ha b hb
  simp only at ha hb
  split at ha
  next hp =>
    split at hb
    next hq =>
      obtain ⟨first, hfirst, rfl⟩ := Option.map_eq_some_iff.1 ha
      obtain ⟨second, hsecond, rfl⟩ := Option.map_eq_some_iff.1 hb
      have hlt : compare p q = .lt := hlt
      rw [← List.dropLast_append_getLast? _ hfirst, ← List.dropLast_append_getLast? _ hsecond, hp,
        hq, compare_append, List.compare_cons_cons] at hlt
      simpa using hlt
    next => cases hb
  next => cases ha

theorem isReached_cons {rulesAt : List String → FolderRules} {name : String} (hne : names ≠ []) :
    isReached rulesAt base (name :: names) =
      (!isSkipped rulesAt (base ++ [name]) true && isReached rulesAt (base ++ [name]) names) := by
  cases names with
  | nil => exact absurd rfl hne
  | cons next names => rfl

section Visit

variable {above : List String} {onward : List String → List SourceFile} {name : String}
  {f : SourceFile}

theorem mem_visit_file {content : Disk.Content} {time : Int} :
    f ∈ visit d base above onward (name, .file content time) ↔
      isSourceName name = true ∧
        isSkipped (rulesOf d base) (base ++ above ++ [name]) false = false ∧
        f = ⟨above ++ [name], Disk.milliseconds time⟩ := by
  simp only [visit, List.append_assoc]
  split
  next hlisted =>
    rw [Bool.and_eq_true, Bool.not_eq_true'] at hlisted
    simp [hlisted.1, hlisted.2]
  next hpassed =>
    refine iff_of_false List.not_mem_nil ?_
    rintro ⟨hsource, hreached, -⟩
    exact hpassed (by rw [hsource, hreached]; rfl)

theorem mem_visit_folder :
    f ∈ visit d base above onward (name, .folder) ↔
      isSkipped (rulesOf d base) (base ++ above ++ [name]) true = false ∧
        f ∈ onward (above ++ [name]) := by
  simp only [visit, List.append_assoc]
  split
  next hskipped => simp [hskipped]
  next hpassed => simp [hpassed]

end Visit

/-- Whether a walk of so many steps that has come down to `above` lists a file, which it comes to by
the names `rest`. -/
structure Finds (d : Disk) (base : List String) (depth : Nat) (above rest : List String)
    (f : SourceFile) : Prop where
  names : f.names = above ++ rest
  below : rest ≠ []
  near : rest.length ≤ depth
  stands : ∃ content time, d.node? (base ++ f.names) = some (.file content time) ∧
    f.modified = Disk.milliseconds time
  source : isSourceName (f.names.getLastD "") = true
  reached : isReached (rulesOf d base) (base ++ above) rest = true

section Finds

variable {above rest : List String} {name : String} {f : SourceFile}

/-- A walk lists the source files where it stands. -/
theorem finds_here_iff {onward : List String → List SourceFile} :
    Finds d base (depth + 1) above [name] f ↔
      ∃ content time, d.node? (base ++ above ++ [name]) = some (.file content time) ∧
        f ∈ visit d base above onward (name, .file content time) := by
  simp only [mem_visit_file]
  constructor
  · rintro ⟨hnames, -, -, ⟨content, time, hnode, htime⟩, hsource, hreached⟩
    rw [hnames] at hnode hsource
    refine ⟨content, time, by rwa [List.append_assoc], by simpa using hsource,
      by simpa [isReached] using hreached, ?_⟩
    rw [← hnames, ← htime]
  · rintro ⟨content, time, hnode, hsource, hpassed, rfl⟩
    exact ⟨rfl, List.cons_ne_nil _ _, by simp, ⟨content, time, by rwa [← List.append_assoc], rfl⟩,
      by simpa using hsource, by simpa [isReached] using hpassed⟩

/-- What a walk lists further down it lists when it goes on from a folder. -/
theorem finds_further_iff (htree : d.IsTree) (hne : rest ≠ []) :
    Finds d base (depth + 1) above (name :: rest) f ↔
      d.node? (base ++ above ++ [name]) = some .folder ∧
        isSkipped (rulesOf d base) (base ++ above ++ [name]) true = false ∧
        Finds d base depth (above ++ [name]) rest f := by
  have hreached_iff : isReached (rulesOf d base) (base ++ above) (name :: rest) = true ↔
      isSkipped (rulesOf d base) (base ++ above ++ [name]) true = false ∧
        isReached (rulesOf d base) (base ++ (above ++ [name])) rest = true := by
    rw [isReached_cons hne, ← List.append_assoc]
    simp
  constructor
  · rintro ⟨hnames, -, hnear, hstands, hsource, hreached⟩
    obtain ⟨hpassed, hreached⟩ := hreached_iff.1 hreached
    refine ⟨?_, hpassed, by rw [hnames, List.append_assoc]; rfl, hne,
      Nat.le_of_succ_le_succ hnear, hstands, hsource, hreached⟩
    -- What stands further down stands in folders.
    obtain ⟨content, time, hnode, -⟩ := hstands
    refine htree.folder (p := base ++ f.names) ?_ ⟨rest, by simp [hnames]⟩ (by simpa [hnames])
    rw [hnode]
    exact Option.some_ne_none _
  · rintro ⟨-, hpassed, hnames, -, hnear, hstands, hsource, hreached⟩
    exact ⟨by rw [hnames, List.append_assoc]; rfl, List.cons_ne_nil _ _, Nat.succ_le_succ hnear,
      hstands, hsource, hreached_iff.2 ⟨hpassed, hreached⟩⟩

theorem mem_walk (htree : d.IsTree) :
    f ∈ walk d base depth above ↔ ∃ rest, Finds d base depth above rest f := by
  induction depth generalizing above with
  | zero =>
    refine iff_of_false List.not_mem_nil ?_
    rintro ⟨rest, h⟩
    exact h.below (List.length_eq_zero_iff.1 (Nat.le_zero.1 h.near))
  | succ depth ih =>
    rw [walk, List.mem_flatMap]
    constructor
    · rintro ⟨⟨name, node⟩, hchild, hf⟩
      have hnode := mem_children.1 hchild
      cases node with
      | file content time => exact ⟨[name], finds_here_iff.2 ⟨content, time, hnode, hf⟩⟩
      | folder =>
        obtain ⟨hpassed, hf⟩ := mem_visit_folder.1 hf
        obtain ⟨rest, hrest⟩ := ih.1 hf
        exact ⟨name :: rest, (finds_further_iff htree hrest.below).2 ⟨hnode, hpassed, hrest⟩⟩
      | link target => cases hf
    · rintro ⟨rest, h⟩
      cases rest with
      | nil => exact absurd rfl h.below
      | cons name rest =>
        by_cases hend : rest = []
        · subst hend
          obtain ⟨content, time, hnode, hf⟩ := finds_here_iff.1 h
          exact ⟨(name, .file content time), mem_children.2 hnode, hf⟩
        · obtain ⟨hnode, hpassed, hrest⟩ := (finds_further_iff htree hend).1 h
          exact ⟨(name, .folder), mem_children.2 hnode,
            mem_visit_folder.2 ⟨hpassed, ih.2 ⟨rest, hrest⟩⟩⟩

theorem names_of_mem_visit (htree : d.IsTree) {entry : String × Node}
    (h : f ∈ visit d base above (walk d base depth) entry) :
    ∃ rest, f.names = above ++ entry.1 :: rest := by
  obtain ⟨name, node⟩ := entry
  cases node with
  | file content time =>
    obtain ⟨-, -, rfl⟩ := mem_visit_file.1 h
    exact ⟨[], rfl⟩
  | folder =>
    obtain ⟨rest, hrest⟩ := (mem_walk htree).1 (mem_visit_folder.1 h).2
    exact ⟨rest, by rw [hrest.names, List.append_assoc]; rfl⟩
  | link target => cases h

end Finds

theorem increasing_walk (htree : d.IsTree) (depth : Nat) (above : List String) :
    InOrder (walk d base depth above) := by
  induction depth generalizing above with
  | zero => exact .nil
  | succ depth ih =>
    rw [walk, InOrder, List.pairwise_flatMap]
    constructor
    · rintro ⟨name, node⟩ -
      cases node with
      | file content time =>
        simp only [visit]
        split
        · exact List.pairwise_singleton _ _
        · exact .nil
      | folder =>
        simp only [visit]
        split
        · exact .nil
        · exact ih _
      | link target => exact .nil
    · -- The files of two entries are told apart by the names of the entries.
      refine (increasing_children d (base ++ above)).imp fun {a b} hlt f hf g hg => ?_
      obtain ⟨x, hx⟩ := names_of_mem_visit htree hf
      obtain ⟨y, hy⟩ := names_of_mem_visit htree hg
      rw [hx, hy, compare_append, List.compare_cons_cons, hlt]
      rfl

/-- A scan lists what the recursive walk lists, which tries nothing below what it passes over. -/
theorem filesBelow_eq_walk (htree : d.IsTree) (base : List String) (depth : Nat) :
    filesBelow d base depth = walk d base depth [] := by
  refine eq_of_mem_iff (increasing_filesBelow d base depth) (increasing_walk htree depth [])
    fun f => ?_
  rw [mem_filesBelow, mem_walk htree]
  constructor
  · rintro ⟨hbelow, hstands, hnear, hsource, hreached⟩
    exact ⟨f.names, rfl, hbelow, hnear, hstands, hsource, by rwa [List.append_nil]⟩
  · rintro ⟨rest, hrest, hbelow, hnear, hstands, hsource, hreached⟩
    obtain rfl : f.names = rest := hrest
    exact ⟨hbelow, hstands, hnear, hsource, by rwa [List.append_nil] at hreached⟩

end Scan
end Gazetteer
