import Gazetteer.Disk.Record
import Gazetteer.Proofs.Disk.Effect

/-!
# What changes can change

Changes in a folder that no link leads to or stands in, and whose drafts have no other names, touch
only the files that they are about, and the folders that are made on the way. This holds whether
they succeed or fail. A record that was written stands in its file; a record that could not be
written leaves the file as it was.
-/

namespace Gazetteer.Disk

/-- The name of the neighbour to which a record is written first. -/
def Change.draftName (name : String) : String := Route.replaceExtension name "json.tmp"

/-- No link stands on the way to a folder or in it, and no draft in it has another name. -/
structure Clear (folder : List String) (d : Disk) : Prop where
  way : d.Straight folder
  inside : ∀ name target, d.node? (folder ++ [name]) ≠ some (.link target)
  drafts : ∀ name, d.IsSole (folder ++ [Change.draftName name])

theorem Clear.file {folder : List String} {d : Disk} (h : Clear folder d) (name : String) :
    d.Straight (folder ++ [name]) := h.way.concat (h.inside name)

theorem Clear.begun {folder : List String} {d : Disk} (h : Clear folder d) :
    Clear folder d.begun := ⟨h.way, h.inside, h.drafts⟩

/-- One place has changed, and what stands there now is no link. -/
theorem Clear.of_place {folder place : List String} {before after : Disk} {new : Option Node}
    (h : Clear folder before) (hparting : Parting before after)
    (hnode : ∀ p, after.node? p = if p = place then new else before.node? p)
    (hnew : ∀ target, new ≠ some (.link target)) : Clear folder after := by
  have hlink : ∀ p, (∀ target, before.node? p ≠ some (.link target)) →
      ∀ target, after.node? p ≠ some (.link target) := by
    intro p hp
    rw [hnode]
    split
    · exact hnew
    · exact hp
  exact ⟨fun p hp => hlink p (h.way p hp), fun name => hlink _ (h.inside name),
    fun name => hparting.isSole (h.drafts name)⟩

theorem IsLinkless.clear {d : Disk} {folder : List String} (h : d.IsLinkless)
    (hdrafts : ∀ name, d.IsSole (folder ++ [Change.draftName name])) : Clear folder d :=
  ⟨fun p _ => h.node?_ne p, fun _ => h.node?_ne _, hdrafts⟩

/-- A disk differs from an earlier one at most in files of a folder with certain names, and in
folders made on the way to it. Other folders have not changed since. -/
structure Confined (folder : List String) (names : List String) (before after : Disk) : Prop where
  node : ∀ p, (∀ name ∈ names, p ≠ folder ++ [name]) → after.node? p = before.node? p ∨
    p <+: folder ∧ before.node? p = none ∧ after.node? p = some .folder
  workingFolder : after.workingFolder = before.workingFolder
  clear : Clear folder after
  time : ∀ p, ¬ p <+: folder → after.folderTime p = before.folderTime p

variable {folder names : List String} {d before after : Disk}

/-- A place that is no way to a folder is neither the parent of one of its files. -/
theorem ne_dropLast_of_not_prefix {p place : List String} (hplace : place <+: folder)
    (hp : ¬ p <+: folder) : p ≠ place ∧ p ≠ place.dropLast := by
  constructor
  · rintro rfl
    exact hp hplace
  · rintro rfl
    exact hp ((List.dropLast_prefix _).trans hplace)

theorem ne_dropLast_concat {p : List String} {name : String} (hp : ¬ p <+: folder) :
    p ≠ (folder ++ [name]).dropLast := by
  rw [List.dropLast_concat]
  rintro rfl
  exact hp List.prefix_rfl

namespace Confined

theorem refl (h : Clear folder d) : Confined folder names d d :=
  ⟨fun _ _ => .inl rfl, rfl, h, fun _ _ => rfl⟩

theorem trans {middle : Disk} (h : Confined folder names before middle)
    (h' : Confined folder names middle after) : Confined folder names before after where
  node p hp := by
    rcases h.node p hp with hfirst | ⟨hway, hnone, hmade⟩
    · rw [← hfirst]
      exact h'.node p hp
    · rcases h'.node p hp with hsecond | ⟨-, hnone', -⟩
      · exact .inr ⟨hway, hnone, hsecond.trans hmade⟩
      · rw [hmade] at hnone'
        cases hnone'
  workingFolder := h'.workingFolder.trans h.workingFolder
  clear := h'.clear
  time p hp := (h'.time p hp).trans (h.time p hp)

theorem mono {more : List String} (h : Confined folder names before after)
    (hnames : ∀ name ∈ names, name ∈ more) : Confined folder more before after :=
  ⟨fun p hp => h.node p fun name hname => hp name (hnames name hname), h.workingFolder, h.clear,
    h.time⟩

/-- A file of the folder with another name is as it was. -/
theorem node?_file (h : Confined folder names before after) {name : String} (hname : name ∉ names) :
    after.node? (folder ++ [name]) = before.node? (folder ++ [name]) := by
  refine (h.node _ fun other hother heq => ?_).resolve_right fun ⟨hway, _, _⟩ => ?_
  · obtain rfl : name = other := by simpa using heq
    exact hname hother
  · have hlength := hway.length_le
    rw [List.length_append, List.length_singleton] at hlength
    omega

theorem of_place {place : List String} {new : Option Node} (h : Clear folder before)
    (hworking : after.workingFolder = before.workingFolder) (hparting : Parting before after)
    (htime : ∀ p, ¬ p <+: folder → after.folderTime p = before.folderTime p)
    (hnode : ∀ p, after.node? p = if p = place then new else before.node? p)
    (hnew : ∀ target, new ≠ some (.link target))
    (hplace : (∃ name ∈ names, place = folder ++ [name]) ∨
      place <+: folder ∧ before.node? place = none ∧ new = some .folder) :
    Confined folder names before after := by
  refine ⟨fun p hp => ?_, hworking, h.of_place hparting hnode hnew, htime⟩
  by_cases heq : p = place
  · subst heq
    rcases hplace with ⟨name, hname, heq⟩ | ⟨hway, hnone, hfolder⟩
    · exact absurd heq (hp name hname)
    · exact .inr ⟨hway, hnone, by rw [hnode, if_pos rfl, hfolder]⟩
  · exact .inl (by rw [hnode, if_neg heq])

/-- A file that is moved within the folder is no link, so none comes to stand at its new place. -/
theorem moved {source target : String} {node : Node} (h : Clear folder d)
    (hsole : d.IsSole (folder ++ [source])) (hsource : source ∈ names) (htarget : target ∈ names)
    (hnode : d.node? (folder ++ [source]) = some node) :
    Confined folder names d (d.moved (folder ++ [source]) (folder ++ [target]) node) := by
  by_cases hsame : folder ++ [source] = folder ++ [target] ∨
      d.isTwin (folder ++ [source]) (folder ++ [target]) = true
  · rw [moved_of_same hsame]
    exact .refl h
  have hmoved := node?_moved (by simp) (by simp) hsame node
  have hparting : Parting d (d.moved (folder ++ [source]) (folder ++ [target]) node) :=
    parting_moved (by simp) (by simp) hsole hnode
  have hlink : ∀ p, (∀ link, d.node? p ≠ some (.link link)) →
      ∀ link, (d.moved (folder ++ [source]) (folder ++ [target]) node).node? p ≠
        some (.link link) := by
    intro p hp link
    rw [hmoved]
    split
    · exact hnode ▸ h.inside source link
    · split
      · exact nofun
      · exact hp link
  refine ⟨fun p hp => ?_, workingFolder_moved _ _ _, ⟨fun p hp => hlink p (h.way p hp),
    fun name => hlink _ (h.inside name), fun name => hparting.isSole (h.drafts name)⟩,
    fun p hp => folderTime_moved (ne_dropLast_concat hp) (ne_dropLast_concat hp) node⟩
  exact .inl (by rw [hmoved, if_neg (hp target htarget), if_neg (hp source hsource)])

end Confined

/-! ## Changes -/

/-- From a disk where no link leads to a folder or stands in it, only files of the folder with
certain names have changed. -/
def Confining (folder names : List String) (before after : Disk) : Prop :=
  Clear folder before → Confined folder names before after

instance : Change.Frame (Confining folder names) where
  refl _ h := .refl h
  trans h h' hclear := (h hclear).trans (h' (h hclear).clear)
  faults _ _ h := ⟨fun _ _ => .inl rfl, rfl, ⟨h.way, h.inside, h.drafts⟩, fun _ _ => rfl⟩

/-- Nothing stands on a disk that did not stand there earlier. -/
def Thinning (before after : Disk) : Prop :=
  ∀ p, after.node? p = before.node? p ∨ after.node? p = none

instance : Change.Frame Thinning where
  refl _ _ := .inl rfl
  trans h h' p := by
    rcases h' p with heq | hnone
    · rw [heq]
      exact h p
    · exact .inr hnone
  faults _ _ _ := .inl rfl

theorem thinning_removed {d : Disk} {place : List String} (hplace : place ≠ []) :
    Thinning d (d.removed place) := by
  intro p
  rw [node?_removed hplace]
  split
  · exact .inr rfl
  · exact .inl rfl

namespace Change

/-! ### Single changes -/

theorem keeps_makeFolder {way : List String} (hway : way <+: folder) :
    Keeps (Confining folder names) (makeFolder (Route.ofNames way)) := by
  refine keeps_of_founded fun d place hplace hnone h => ?_
  have heq : place = way := by
    rcases List.eq_nil_or_concat way with rfl | ⟨above, name, rfl⟩
    · exact follow_ofNames (h.way.of_prefix hway) hplace
    · rw [List.concat_eq_append] at hplace hway ⊢
      exact locate_ofNames (h.way.of_prefix ((List.prefix_append _ _).trans hway)) hplace
  subst heq
  have hne : place ≠ [] := ne_nil_of_ne_folder (hnone.trans_ne nofun)
  refine .of_place h rfl (parting_founded hne) (fun p hp => ?_) (node?_founded hne) nofun
    (.inr ⟨hway, hnone, rfl⟩)
  obtain ⟨hplace, hparent⟩ := ne_dropLast_of_not_prefix hway hp
  exact folderTime_founded hplace hparent

theorem keeps_makeFolders (folder names : List String) :
    Keeps (Confining folder names) (makeFolders (Route.ofNames folder)) := by
  refine .makeFoldersUpTo fun r hr => ?_
  rw [List.reverse_reverse] at hr
  obtain ⟨way, hway, rfl⟩ := List.prefix_map_iff.1 hr
  exact keeps_makeFolder hway

theorem keeps_writeFile {name : String} (hname : draftName name ∈ names) (text : String)
    (now : UInt64) : Keeps (Confining folder names)
      (writeFile (Route.ofNames (folder ++ [draftName name])) text now) := by
  refine keeps_of_written fun d place kept hplace _ h => ?_
  obtain rfl := landing_ofNames (h.file (draftName name)) hplace
  exact .of_place h (workingFolder_written _ _) (parting_written (by simp) (h.drafts name) _)
    (fun p hp => folderTime_written (ne_dropLast_concat hp) _)
    (node?_written_of_isSole (by simp) (h.drafts name) _) nofun (.inl ⟨_, hname, rfl⟩)

theorem keeps_rename {name target : String} (hname : draftName name ∈ names)
    (htarget : target ∈ names) : Keeps (Confining folder names) (rename
      (Route.ofNames (folder ++ [draftName name])) (Route.ofNames (folder ++ [target]))) := by
  refine keeps_of_moved fun d place place' node hplace hplace' hnode _ h => ?_
  obtain rfl := locate_ofNames h.way hplace
  obtain rfl := locate_ofNames h.way hplace'
  exact .moved h (h.drafts name) hname htarget hnode

theorem keeps_removeFile {name : String} (hname : name ∈ names) :
    Keeps (Confining folder names) (removeFile (Route.ofNames (folder ++ [name]))) := by
  refine keeps_of_removed fun d place node hplace _ _ h => ?_
  obtain rfl := locate_ofNames h.way hplace
  exact .of_place h rfl (parting_removed (by simp))
    (fun p hp => folderTime_removed (ne_dropLast_concat hp)) (node?_removed (by simp)) nofun
    (.inl ⟨name, hname, rfl⟩)

theorem thinning_removeFile (r : Route) : Keeps Thinning (removeFile r) :=
  keeps_of_removed fun _ _ _ _ hnode hfolder =>
    thinning_removed (ne_nil_of_ne_folder (hnode.trans_ne (by simpa using hfolder)))

/-! ### Records -/

theorem draftRoute_ofNames {name : String} (h : Route.isDotted name = false) :
    draftRoute (Route.ofNames (folder ++ [name])) = Route.ofNames (folder ++ [draftName name]) :=
  Route.withExtension_ofNames folder "json.tmp" h

theorem keeps_writeRecord {name : String} (h : Route.isDotted name = false) (v : Json)
    (now : UInt64) : Keeps (Confining folder [name, draftName name])
      (writeRecord (Route.ofNames (folder ++ [name])) v now) := by
  rw [writeRecord, Route.parent_ofNames, draftRoute_ofNames h]
  exact .bind (keeps_makeFolders folder _) fun _ =>
    .bind (keeps_writeFile (by simp) v.pretty now) fun _ => keeps_rename (by simp) (by simp)

/-! ### What success and failure leave

A record comes to stand in its file all at once: with success it stands there, and otherwise the
file is as it was. -/

variable {d d' : Disk} {now : UInt64}

theorem writeFile_ok {name text : String} (h : Clear folder d)
    (hrun : writeFile (Route.ofNames (folder ++ [name])) text now d = .ok () d') :
    ∃ time, d'.node? (folder ++ [name]) = some (.file (.text text) time) := by
  obtain ⟨place, hplace, -, rfl⟩ := written_of_writeFile hrun
  obtain rfl := landing_ofNames (h.begun.file name) hplace
  exact ⟨_, (node?_written (by simp) _ _).trans (if_pos (.inl rfl))⟩

theorem rename_ok {name target : String} (h : Clear folder d)
    (hrun : rename (Route.ofNames (folder ++ [draftName name]))
      (Route.ofNames (folder ++ [target])) d = .ok () d') :
    d'.node? (folder ++ [target]) = d.node? (folder ++ [draftName name]) := by
  obtain ⟨place, place', node, hplace, hplace', hnode, -, rfl⟩ := moved_of_rename hrun
  obtain rfl := locate_ofNames h.begun.way hplace
  obtain rfl := locate_ofNames h.begun.way hplace'
  by_cases hsame : folder ++ [draftName name] = folder ++ [target]
  · rw [moved_of_same (.inl hsame), ← hsame, node?_begun]
  · rw [node?_moved (by simp) (by simp) (by simp [hsame, (h.drafts name).isTwin]), if_pos rfl,
      ← hnode, node?_begun]

theorem writeRecord_ok {name : String} {v : Json} (hname : Route.isDotted name = false)
    (h : Clear folder d)
    (hrun : writeRecord (Route.ofNames (folder ++ [name])) v now d = .ok () d') :
    ∃ time, d'.node? (folder ++ [name]) = some (.file (.text v.pretty) time) := by
  rw [writeRecord, Route.parent_ofNames, draftRoute_ofNames hname] at hrun
  obtain ⟨_, m, hfolders, hrun⟩ := bind_eq_ok.1 hrun
  obtain ⟨_, m', hwrite, hrename⟩ := bind_eq_ok.1 hrun
  have hm := ((keeps_makeFolders folder []).of_ok hfolders h).clear
  have hm' := ((keeps_writeFile (List.mem_singleton.2 rfl) _ _).of_ok hwrite hm).clear
  rw [rename_ok hm' hrename]
  exact writeFile_ok hm hwrite

theorem writeRecord_error {name : String} {v : Json} {e : IoError}
    (hname : Route.isDotted name = false)
    (hrun : writeRecord (Route.ofNames (folder ++ [name])) v now d = .error e d') :
    Confining folder [draftName name] d d' := by
  rw [writeRecord, Route.parent_ofNames, draftRoute_ofNames hname] at hrun
  have hfolders := keeps_makeFolders folder [draftName name]
  have hwrite : Keeps (Confining folder [draftName name])
      (writeFile (Route.ofNames (folder ++ [draftName name])) v.pretty now) :=
    keeps_writeFile (List.mem_singleton.2 rfl) v.pretty now
  rcases bind_eq_error.1 hrun with hfailed | ⟨_, m, hmade, hrun⟩
  · exact hfolders.of_error hfailed
  have hm := hfolders.of_ok hmade
  rcases bind_eq_error.1 hrun with hfailed | ⟨_, m', hwritten, hrename⟩
  · exact Frame.trans hm (hwrite.of_error hfailed)
  · exact Frame.trans hm (Frame.trans (hwrite.of_ok hwritten) (rename_error hrename))

end Change
end Gazetteer.Disk
