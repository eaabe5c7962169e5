import Gazetteer.Proofs.Cache.Coherence
import Gazetteer.Proofs.Disk.Patch
import Gazetteer.Proofs.Scan.Plain

/-!
# Edits of one file

An edit creates one file of a project or writes it again, at another time: a source file, or the
configuration. If the fingerprint of the project does not change, its map does not either. Changes
in the cache do not count as edits, because a scan does not go by them.
-/

namespace Gazetteer.Cache

open Command
open Disk (Confined IsPlain Maintains Patch Route)
open Scan (SourceFile)

/-- The build of a project as a disk has it. -/
def Build.ofDisk (root : Route) (d : Disk) : Build := ⟨.onDisk d root, d⟩

/-- The place of the configuration of a project. -/
def settingsPlace (names : List String) : List String := names ++ [".atlas"] ++ ["config.json"]

/-- The files that storing a map touches. -/
def storeFiles : List String := Kind.map.files ++ metaFiles

/-- Whether ignore files and settings say the same about a project on two disks. -/
structure SameRules (names : List String) (d d' : Disk) : Prop where
  rules : Scan.rulesOf d' names = Scan.rulesOf d names
  settings : (Gate.ofProject (.ofNames names)).settingsTime d' (.ofNames names) =
    (Gate.ofProject (.ofNames names)).settingsTime d (.ofNames names)
  config : Area.Config.onDisk d' (.ofNames names) = Area.Config.onDisk d (.ofNames names)

/-- Whether the files of the cache are read neither as ignore files nor as settings. -/
def Secluded (names : List String) (d : Disk) : Prop :=
  ∀ d', Confined (place names) storeFiles d d' → SameRules names d d'

/-- A file with the folders that are made for it, all at one time. -/
def writing (folders : List (List String)) (file : List String) (content : Disk.Content)
    (time : Int) : Patch :=
  folders.map (fun folder => (folder, .folder, time)) ++ [(file, .file content time, time)]

/-- Whether folders stand on the way to a file, or can be made there. -/
def IsWay (d : Disk) (folders : List (List String)) (file : List String) : Prop :=
  ∀ folder ∈ folders, folder ≠ [] ∧ folder <+: file ∧ folder ≠ file ∧
    (d.node? folder = none ∨ d.node? folder = some .folder)

/-- Edits of at most one file of a project, which is created or written again at another time. -/
inductive Edit (names : List String) (d : Disk) : Patch → Prop
  | none : Edit names d []
  /-- A source file, which is read neither as an ignore file nor as settings. -/
  | source {folders rest content time} (name : Scan.isSourceName (rest.getLastD "") = true)
    (outside : ¬ place names <+: names ++ rest) (way : IsWay d folders (names ++ rest))
    (retimed : ∀ content' time', d.node? (names ++ rest) = some (.file content' time') →
      Disk.milliseconds time' ≠ Disk.milliseconds time)
    (same : SameRules names d (d.patched (writing folders (names ++ rest) content time))) :
    Edit names d (writing folders (names ++ rest) content time)
  /-- The configuration, which is not read as an ignore file. -/
  | settings {folders content time} (way : IsWay d folders (settingsPlace names))
    (seen : (Gate.ofProject (.ofNames names)).settingsTime
      (d.patched (writing folders (settingsPlace names) content time)) (.ofNames names) =
        some (Disk.milliseconds time))
    (dated : Disk.milliseconds time ≠ 0)
    (retimed : (Gate.ofProject (.ofNames names)).settingsTime d (.ofNames names) ≠
      some (Disk.milliseconds time))
    (rules : Scan.rulesOf (d.patched (writing folders (settingsPlace names) content time)) names =
      Scan.rulesOf d names) :
    Edit names d (writing folders (settingsPlace names) content time)

variable {names : List String} {d d' : Disk} {patch : Patch}

/-! ## What an edit changes -/

section

variable {folders : List (List String)} {file : List String} {content : Disk.Content} {time : Int}

theorem node?_folders (h : ∀ folder ∈ folders, folder ≠ []) (p : List String) :
    (d.patched (folders.map fun folder => (folder, .folder, time))).node? p =
      if p ∈ folders then some .folder else d.node? p := by
  induction folders using List.reverseRecOn with
  | nil => rfl
  | append_singleton folders folder ih =>
    rw [List.map_append, List.map_singleton, Disk.patched_concat]
    show ((d.patched _).put folder .folder).node? p = _
    rw [Disk.node?_put (h folder (by simp)), ih fun f hf => h f (List.mem_append_left _ hf)]
    by_cases hp : p = folder <;> simp [hp]

/-- Only the file comes to be a file, and what is a folder stays one. -/
theorem node?_writing (hway : IsWay d folders file) (hfile : file ≠ []) (p : List String) :
    (d.patched (writing folders file content time)).node? p =
      if p = file then some (.file content time)
      else if p ∈ folders then some .folder else d.node? p := by
  rw [writing, Disk.patched_concat]
  show ((d.patched _).put file _).node? p = _
  rw [Disk.node?_put hfile, node?_folders fun folder hfolder => (hway folder hfolder).1]

/-- Only folders on the way to the file change. -/
theorem folderTime_writing (hway : IsWay d folders file) {p : List String} (hp : ¬ p <+: file) :
    (d.patched (writing folders file content time)).folderTime p = d.folderTime p := by
  have hkept : ∀ way : List String, way <+: file → p ∉ [way.dropLast, way] := by
    intro way hprefix hmem
    simp only [List.mem_cons, List.not_mem_nil, or_false] at hmem
    rcases hmem with rfl | rfl
    · exact hp ((List.dropLast_prefix way).trans hprefix)
    · exact hp hprefix
  rw [writing, Disk.patched_concat, Disk.folderTime_dated, if_neg (hkept file List.prefix_rfl),
    Disk.folderTime_put]
  have hfolders : ∀ folder ∈ folders, folder <+: file := fun folder hfolder =>
    (hway folder hfolder).2.1
  clear hway
  induction folders using List.reverseRecOn with
  | nil => rfl
  | append_singleton folders folder ih =>
    rw [List.map_append, List.map_singleton, Disk.patched_concat, Disk.folderTime_dated,
      if_neg (hkept folder (hfolders folder (by simp))), Disk.folderTime_put]
    exact ih fun other hother => hfolders other (List.mem_append_left _ hother)

theorem node?_writing_of_ne (hway : IsWay d folders file) (hfile : file ≠ []) {p : List String}
    (hp : p ≠ file) (content' : Disk.Content) (time' : Int) :
    (d.patched (writing folders file content time)).node? p = some (.file content' time') ↔
      d.node? p = some (.file content' time') := by
  rw [node?_writing hway hfile, if_neg hp]
  by_cases hfolder : p ∈ folders
  · rw [if_pos hfolder]
    rcases (hway p hfolder).2.2.2 with hnone | hstands
    · simp [hnone]
    · simp [hstands]
  · rw [if_neg hfolder]

theorem writing_avoids {folder : List String} (hway : IsWay d folders file) (hfile : file ≠ [])
    (h : ¬ folder <+: file) : (writing folders file content time).Avoids folder := by
  have hcases : ∀ e ∈ writing folders file content time,
      (∃ way ∈ folders, e = (way, .folder, time)) ∨ e = (file, .file content time, time) := by
    intro e he
    rcases List.mem_append.1 he with hmade | hwritten
    · obtain ⟨way, hmem, rfl⟩ := List.mem_map.1 hmade
      exact .inl ⟨way, hmem, rfl⟩
    · exact .inr (List.mem_singleton.1 hwritten)
  constructor
  · intro e he
    rcases hcases e he with ⟨way, hmem, rfl⟩ | rfl
    · exact (hway way hmem).1
    · exact hfile
  · intro e he
    rcases hcases e he with ⟨way, hmem, rfl⟩ | rfl
    · intro hfolder
      exact h (hfolder.trans (hway way hmem).2.1)
    · exact h
  · intro e he target
    rcases hcases e he with ⟨way, hmem, rfl⟩ | rfl <;> exact nofun

end

theorem rest_ne_nil {rest : List String} (h : Scan.isSourceName (rest.getLastD "") = true) :
    rest ≠ [] := by
  rintro rfl
  revert h
  decide

theorem settingsPlace_ne_nil : settingsPlace names ≠ [] := by simp [settingsPlace]

theorem place_not_prefix_settingsPlace : ¬ place names <+: settingsPlace names := by
  intro h
  have hlast := List.IsPrefix.eq_of_length h (by simp [place, settingsPlace])
  simp [place, settingsPlace] at hlast

theorem settingsPlace_not_prefix_place : ¬ settingsPlace names <+: place names := by
  intro h
  have hlast := List.IsPrefix.eq_of_length h (by simp [place, settingsPlace])
  simp [place, settingsPlace] at hlast

theorem Edit.avoids (h : Edit names d patch) : patch.Avoids (place names) := by
  cases h with
  | none => exact .nil
  | source hname houtside hway =>
    exact writing_avoids hway (by simp [rest_ne_nil hname]) houtside
  | settings hway => exact writing_avoids hway settingsPlace_ne_nil place_not_prefix_settingsPlace

/-! ### On the way to the root -/

/-- Whether the root of a project is a folder that no link leads to. -/
structure IsRoot (names : List String) (d : Disk) : Prop where
  straight : d.Straight names
  folder : d.status (.ofNames names) = .ok .folder

theorem IsRoot.node? (h : IsRoot names d) {p : List String} (hp : p <+: names) :
    d.node? p = some .folder := by
  obtain ⟨-, hpass, hend⟩ := (Disk.status_ofNames_iff h.straight).1 h.folder
  by_cases heq : p = names
  · rw [heq, hend]
  · exact hpass.folder hp heq

theorem IsRoot.of_node? (h : IsRoot names d) (hnode : ∀ p, p <+: names → d'.node? p = d.node? p) :
    IsRoot names d' where
  straight p hp := by
    rw [hnode p hp]
    exact h.straight p hp
  folder := by
    have hstraight : d'.Straight names := fun p hp => by
      rw [hnode p hp]
      exact h.straight p hp
    obtain ⟨haccept, hpass, hend⟩ := (Disk.status_ofNames_iff h.straight).1 h.folder
    have hend' : d'.node? names = some .folder := by rw [hnode names List.prefix_rfl, hend]
    refine (Disk.status_ofNames_iff hstraight).2 ⟨haccept, ?_, hend'⟩
    refine hpass.congr (fun p hp hne => ?_) ?_
    · rw [List.nil_append, hnode p hp]
      exact h.node? hp
    · rw [List.nil_append, hnode names List.prefix_rfl, hend]
      exact nofun

theorem node?_writing_way {folders : List (List String)} {rest : List String}
    {content : Disk.Content} {time : Int} (h : IsRoot names d)
    (hway : IsWay d folders (names ++ rest)) (hrest : rest ≠ []) {p : List String}
    (hp : p <+: names) :
    (d.patched (writing folders (names ++ rest) content time)).node? p = d.node? p := by
  have hne : p ≠ names ++ rest := by
    rintro rfl
    have hlength := hp.length_le
    rw [List.length_append] at hlength
    exact hrest (List.length_eq_zero_iff.1 (by omega))
  rw [node?_writing hway (by simp [hrest]), if_neg hne, h.node? hp, ite_self]

theorem settingsPlace_eq : settingsPlace names = names ++ [".atlas", "config.json"] := by
  simp [settingsPlace]

theorem Edit.node?_way (h : Edit names d patch) (hroot : IsRoot names d) {p : List String}
    (hp : p <+: names) : (d.patched patch).node? p = d.node? p := by
  cases h with
  | none => rfl
  | source hname _ hway => exact node?_writing_way hroot hway (rest_ne_nil hname) hp
  | settings hway =>
    rw [settingsPlace_eq] at hway ⊢
    exact node?_writing_way hroot hway (by simp) hp

/-! ### Files -/

/-- The files that a build of a project is made from. -/
def filesOf (names : List String) (d : Disk) : List SourceFile :=
  Scan.files d (.ofNames names) Scan.maxDepth

theorem mem_filesOf_iff {f : SourceFile} (hstraight : d.Straight names)
    (hway : ∀ p, p <+: names → d'.node? p = d.node? p)
    (hrules : Scan.rulesOf d' names = Scan.rulesOf d names)
    (hnode : Scan.isSourceName (f.names.getLastD "") = true → ∀ content time,
      d'.node? (names ++ f.names) = some (.file content time) ↔
        d.node? (names ++ f.names) = some (.file content time)) :
    f ∈ filesOf names d' ↔ f ∈ filesOf names d := by
  unfold filesOf
  rcases Scan.files_congr hstraight hway with hsame | ⟨hbelow, hbelow'⟩
  · rw [hsame]
  · rw [hbelow, hbelow']
    exact Scan.mem_filesBelow_congr hrules hnode

theorem increasing_filesOf (names : List String) (d : Disk) :
    Scan.InOrder (filesOf names d) :=
  Scan.increasing_files d _ _

theorem filesOf_eq (h : ∀ f, f ∈ filesOf names d' ↔ f ∈ filesOf names d) :
    filesOf names d' = filesOf names d :=
  Scan.eq_of_mem_iff (increasing_filesOf names d') (increasing_filesOf names d) h

theorem isSourceName_storeFiles : ∀ name ∈ storeFiles, Scan.isSourceName name = false := by
  decide

/-- Files with the names of files of the cache, and folders that are made, do not change the files
of a project. -/
theorem filesOf_of_stored {home : List String} (hstraight : d.Straight names)
    (hway : ∀ p, p <+: names → d'.node? p = d.node? p)
    (hrules : Scan.rulesOf d' names = Scan.rulesOf d names)
    (hnode : ∀ p, (∃ name ∈ storeFiles, p = home ++ [name]) ∨ d'.node? p = d.node? p ∨
      d.node? p = none ∧ d'.node? p = some .folder) : filesOf names d' = filesOf names d := by
  refine filesOf_eq fun f => mem_filesOf_iff hstraight hway hrules fun hsource content time => ?_
  rcases hnode (names ++ f.names) with ⟨name, hname, heq⟩ | hsame | ⟨hnone, hmade⟩
  · have hlast := congrArg List.getLast? heq
    rw [List.getLast?_append_of_ne_nil _ (rest_ne_nil hsource), List.getLast?_concat] at hlast
    rw [List.getLastD_eq_getLast?, hlast, Option.getD_some, isSourceName_storeFiles name hname]
      at hsource
    cases hsource
  · rw [hsame]
  · simp [hnone, hmade]

/-- Changes to files of the cache do not change the files of a project. -/
theorem filesOf_of_confined (hroot : IsRoot names d)
    (h : Confined (place names) storeFiles d d')
    (hrules : Scan.rulesOf d' names = Scan.rulesOf d names) :
    filesOf names d' = filesOf names d := by
  have hnode : ∀ p, (∃ name ∈ storeFiles, p = place names ++ [name]) ∨ d'.node? p = d.node? p ∨
      d.node? p = none ∧ d'.node? p = some .folder := by
    intro p
    by_cases hp : ∃ name ∈ storeFiles, p = place names ++ [name]
    · exact .inl hp
    · right
      exact (h.node p fun name hname heq => hp ⟨name, hname, heq⟩).imp_right And.right
  have hway : ∀ p, p <+: names → d'.node? p = d.node? p := by
    intro p hp
    rcases hnode p with ⟨name, -, rfl⟩ | hsame | ⟨hnone, -⟩
    · have hlength := hp.length_le
      simp only [place, List.length_append, List.length_singleton] at hlength
      omega
    · exact hsame
    · rw [hroot.node? hp] at hnone
      cases hnone
  exact filesOf_of_stored hroot.straight hway hrules hnode

/-- A file of a project is met below its root. -/
theorem mem_filesBelow_of_mem_filesOf (hstraight : d.Straight names)
    (hfolder : d.node? names = some .folder) {f : SourceFile} (h : f ∈ filesOf names d) :
    f ∈ Scan.filesBelow d names Scan.maxDepth := by
  unfold filesOf Scan.files at h
  split at h
  next own base _ hfollow =>
    obtain rfl := Disk.follow_ofNames hstraight hfollow
    rw [hfolder] at h
    exact h
  next => cases h

theorem node?_of_mem_filesOf (hroot : IsRoot names d) {f : SourceFile} (h : f ∈ filesOf names d) :
    ∃ content time, d.node? (names ++ f.names) = some (.file content time) ∧
      f.modified = Disk.milliseconds time :=
  have hf := mem_filesBelow_of_mem_filesOf hroot.straight (hroot.node? List.prefix_rfl) h
  (Scan.mem_filesBelow.1 hf).2.1

/-! ### One edit -/

theorem fingerprint_ofDisk (names : List String) (d : Disk) :
    (Build.ofDisk (.ofNames names) d).fingerprint (.ofNames names) =
      .ofTimes ((filesOf names d).map SourceFile.modified)
        ((Gate.ofProject (.ofNames names)).settingsTime d (.ofNames names)) := rfl

theorem map_ofDisk_eq (hfiles : filesOf names d' = filesOf names d)
    (hconfig : Area.Config.onDisk d' (.ofNames names) = Area.Config.onDisk d (.ofNames names)) :
    (Build.ofDisk (.ofNames names) d').map (.ofNames names) =
      (Build.ofDisk (.ofNames names) d).map (.ofNames names) :=
  Build.map_eq_of_files hconfig hfiles

/-- One file that comes, goes or gets another time shows. -/
theorem files_eq_of_times {l l' : List SourceFile} {settings : Option UInt64} {rest : List String}
    (h : Scan.InOrder l) (h' : Scan.InOrder l')
    (hothers : ∀ f, f.names ≠ rest → (f ∈ l' ↔ f ∈ l))
    (hretimed : ∀ f ∈ Scan.named rest l, ∀ g ∈ Scan.named rest l', f.modified ≠ g.modified)
    (hsame : Fingerprint.ofTimes (l'.map SourceFile.modified) settings =
      Fingerprint.ofTimes (l.map SourceFile.modified) settings) : l' = l := by
  obtain ⟨start, after, hold, hnew, hat, hat'⟩ := Scan.exists_differ_at h h' hothers
  rcases hat with hnone | ⟨f, hone⟩
  · rcases hat' with hnone' | ⟨g, hone'⟩
    · rw [hnone] at hold
      rw [hnone'] at hnew
      rw [hold, hnew]
    · refine absurd hsame.symm (Fingerprint.ne_of_length_succ ?_)
      rw [hnone] at hold
      rw [hone'] at hnew
      rw [hold, hnew]
      simp
      omega
  · rcases hat' with hnone' | ⟨g, hone'⟩
    · refine absurd hsame (Fingerprint.ne_of_length_succ ?_)
      rw [hone] at hold
      rw [hnone'] at hnew
      rw [hold, hnew]
      simp
      omega
    · rw [hone, hone'] at hretimed
      rw [hone] at hold
      rw [hone'] at hnew
      rw [hold, hnew] at hsame
      simp only [List.map_append, List.map_cons, List.singleton_append] at hsame
      exact absurd (Fingerprint.time_eq_of_eq hsame).symm
        (hretimed f (List.mem_singleton.2 rfl) g (List.mem_singleton.2 rfl))

/-- An edit that does not show in the fingerprint leaves the map of the project as it is. -/
theorem Edit.map_eq (h : Edit names d patch) (hroot : IsRoot names d)
    (hsame : (Build.ofDisk (.ofNames names) (d.patched patch)).fingerprint (.ofNames names) =
      (Build.ofDisk (.ofNames names) d).fingerprint (.ofNames names)) :
    (Build.ofDisk (.ofNames names) (d.patched patch)).map (.ofNames names) =
      (Build.ofDisk (.ofNames names) d).map (.ofNames names) := by
  have hway : ∀ p, p <+: names → (d.patched patch).node? p = d.node? p := fun p hp =>
    h.node?_way hroot hp
  cases h with
  | none => rfl
  | @source folders rest content time hname houtside hmade hretimed hrules =>
    let d' := d.patched (writing folders (names ++ rest) content time)
    have hrest : names ++ rest ≠ [] := by simp [rest_ne_nil hname]
    have hothers : ∀ f : SourceFile, f.names ≠ rest →
        (f ∈ filesOf names d' ↔ f ∈ filesOf names d) := fun f hne =>
      mem_filesOf_iff hroot.straight hway hrules.rules fun _ =>
        node?_writing_of_ne hmade hrest fun heq => hne (List.append_cancel_left heq)
    have hstamps : ∀ f ∈ Scan.named rest (filesOf names d),
        ∀ g ∈ Scan.named rest (filesOf names d'), f.modified ≠ g.modified := by
      intro f hf g hg
      obtain ⟨hf, hfname⟩ := List.mem_filter.1 hf
      obtain ⟨hg, hgname⟩ := List.mem_filter.1 hg
      obtain ⟨content', time', hnode, hftime⟩ := node?_of_mem_filesOf hroot hf
      obtain ⟨content'', time'', hnode', hgtime⟩ :=
        node?_of_mem_filesOf (hroot.of_node? hway) hg
      rw [of_decide_eq_true hfname] at hnode
      rw [of_decide_eq_true hgname, node?_writing hmade hrest, if_pos rfl] at hnode'
      cases hnode'
      rw [hftime, hgtime]
      exact hretimed content' time' hnode
    rw [fingerprint_ofDisk, fingerprint_ofDisk, hrules.settings] at hsame
    have hfiles := files_eq_of_times (increasing_filesOf names d) (increasing_filesOf names d')
      hothers hstamps hsame
    exact map_ofDisk_eq hfiles hrules.config
  | @settings folders content time hmade hseen hdated hretimed hrules =>
    have hfiles : filesOf names (d.patched (writing folders (settingsPlace names) content time)) =
        filesOf names d := by
      refine filesOf_eq fun f => mem_filesOf_iff hroot.straight hway hrules fun hsource => ?_
      refine node?_writing_of_ne hmade settingsPlace_ne_nil fun heq => ?_
      rw [settingsPlace_eq] at heq
      rw [List.append_cancel_left heq] at hsource
      revert hsource
      decide
    rw [fingerprint_ofDisk, fingerprint_ofDisk, hfiles, hseen] at hsame
    have htime := Fingerprint.settings_eq_of_eq hsame
    cases hold : (Gate.ofProject (.ofNames names)).settingsTime d (.ofNames names) with
    | none =>
      rw [hold] at htime
      exact absurd htime hdated
    | some old =>
      rw [hold] at htime hretimed
      exact absurd (congrArg some htime.symm) hretimed

/-! ## Plain disks -/

theorem join_settings (names : List String) :
    (Route.ofNames names).join settingsFile = .ofNames (settingsPlace names) := by
  have hsteps : Route.stepsOf settingsFile.toList = Route.ofNames [".atlas", "config.json"] := by
    decide
  unfold Route.join
  split
  next rest hslash =>
    have hhead : settingsFile.toList.head? = some '.' := by decide
    rw [hslash] at hhead
    simp at hhead
  next =>
    rw [Route.opened_ofNames, hsteps, settingsPlace_eq, Route.ofNames, Route.ofNames, Route.ofNames,
      List.map_append]

theorem configRoute_ofNames (names : List String) :
    Area.Config.route (.ofNames names) = .ofNames (settingsPlace names) := by
  rw [Area.Config.route, Route.child_ofNames, Route.child_ofNames, settingsPlace]

/-- Where a straight route to the configuration leads to the same, the settings are the same. -/
theorem SameRules.of_status (hrules : Scan.rulesOf d' names = Scan.rulesOf d names)
    (hstraight : d.Straight (settingsPlace names)) (hstraight' : d'.Straight (settingsPlace names))
    (hstatus : ∀ node, d'.status (.ofNames (settingsPlace names)) = .ok node ↔
      d.status (.ofNames (settingsPlace names)) = .ok node)
    (htime : d'.folderTime (settingsPlace names) = d.folderTime (settingsPlace names)) :
    SameRules names d d' := by
  have hsettings : ∀ d : Disk, (Gate.ofProject (.ofNames names)).settingsTime d (.ofNames names) =
      (d.modified (.ofNames (settingsPlace names))).toOption := by
    intro d
    rw [← join_settings]
    rfl
  refine ⟨hrules, ?_, ?_⟩
  · rw [hsettings, hsettings, Disk.modified_ofNames hstraight, Disk.modified_ofNames hstraight',
      htime]
    cases hold : d.status (.ofNames (settingsPlace names)) with
    | ok node => rw [(hstatus node).2 hold]
    | error e =>
      cases hnew : d'.status (.ofNames (settingsPlace names)) with
      | ok node => cases hold.symm.trans ((hstatus node).1 hnew)
      | error e' => rfl
  · unfold Area.Config.onDisk Area.Config.tryLoad Disk.isPresent Disk.readText Disk.read
    rw [configRoute_ofNames]
    cases hold : d.status (.ofNames (settingsPlace names)) with
    | ok node => rw [(hstatus node).2 hold]
    | error e =>
      cases hnew : d'.status (.ofNames (settingsPlace names)) with
      | ok node => cases hold.symm.trans ((hstatus node).1 hnew)
      | error e' => rfl

theorem ruleNames_not_sources : ∀ name ∈ Scan.ruleNames, Scan.isSourceName name = false := by
  decide

theorem ruleNames_not_storeFiles : ∀ name ∈ Scan.ruleNames, name ∉ storeFiles := by decide

/-- On a plain disk with an empty cache what stands in the cache is no ignore file and no setting.
-/
theorem Secluded.of_plain (h : d.IsPlain) (hvacant : IsVacant names d) : Secluded names d := by
  intro d' hconfined
  have hcases : ∀ p, (∃ name ∈ storeFiles, p = place names ++ [name]) ∨
      d'.node? p = d.node? p ∨
        p <+: place names ∧ d.node? p = none ∧ d'.node? p = some .folder := by
    intro p
    by_cases hp : ∃ name ∈ storeFiles, p = place names ++ [name]
    · exact .inl hp
    · exact .inr (hconfined.node p fun name hname heq => hp ⟨name, hname, heq⟩)
  have hfile : ∀ p name, name ∉ storeFiles → ∀ content time,
      d'.node? (p ++ [name]) = some (.file content time) ↔
        d.node? (p ++ [name]) = some (.file content time) := by
    intro p name hname content time
    rcases hcases (p ++ [name]) with ⟨other, hother, heq⟩ | hsame | ⟨-, hnone, hmade⟩
    · obtain rfl : name = other := by simpa using (List.append_inj' heq rfl).2
      exact absurd hother hname
    · rw [hsame]
    · simp [hnone, hmade]
  have hmaintains : Maintains d d' := by
    refine ⟨fun p hfolder => ?_, fun p target hlink => ?_, fun p content time hgit => ?_⟩
    · rcases hcases p with ⟨name, -, rfl⟩ | hsame | ⟨-, hnone, -⟩
      · rw [hvacant.node _ (List.prefix_append _ _)] at hfolder
        cases hfolder
      · rw [hsame, hfolder]
      · rw [hnone] at hfolder
        cases hfolder
    · rcases hcases p with ⟨name, -, rfl⟩ | hsame | ⟨-, -, hmade⟩
      · exact hconfined.clear.inside name target hlink
      · exact h.links.node?_ne p target (hsame ▸ hlink)
      · rw [hmade] at hlink
        cases hlink
    · rw [hfile p ".git" (by decide)] at hgit
      exact h.maintains.repositories p content time hgit
  refine .of_status (Scan.rulesOf_congr hmaintains h.maintains h.folders fun p name hname =>
    hfile p name (ruleNames_not_storeFiles name hname)) (h.maintains.straight _)
    (hmaintains.straight _) (fun node => hmaintains.status_iff h.maintains h.folders ?_)
    (hconfined.time _ settingsPlace_not_prefix_place)
  rcases hcases (settingsPlace names) with ⟨name, -, heq⟩ | hsame | ⟨hway, -, -⟩
  · have hlength := congrArg List.length heq
    simp [settingsPlace, place] at hlength
  · exact hsame
  · have heq := hway.eq_of_length (by simp [settingsPlace, place])
    simp [settingsPlace, place] at heq

section

variable {folders : List (List String)} {rest : List String} {content : Disk.Content} {time : Int}

/-- On a plain disk a written file keeps all folders, and comes to be neither a link nor a file for
the data of a repository. -/
theorem maintains_writing {file : List String} (h : d.IsPlain) (hway : IsWay d folders file)
    (hfile : file ≠ []) (hfree : d.node? file ≠ some .folder) (hgit : file.getLast? ≠ some ".git") :
    Maintains d (d.patched (writing folders file content time)) where
  folders p hfolder := by
    have hne : p ≠ file := by
      rintro rfl
      exact hfree hfolder
    rw [node?_writing hway hfile, if_neg hne, hfolder, ite_self]
  links p target hlink := by
    rw [node?_writing hway hfile] at hlink
    split at hlink
    · cases hlink
    · split at hlink
      · cases hlink
      · exact h.links.node?_ne p target hlink
  repositories p content' time' hnode := by
    have hne : p ++ [".git"] ≠ file := fun heq => hgit (heq ▸ by simp)
    rw [node?_writing_of_ne hway hfile hne] at hnode
    exact h.maintains.repositories p content' time' hnode

/-- A file whose name is no name of an ignore file does not change what ignore files say. -/
theorem rulesOf_writing {file : List String} (h : d.IsPlain) (hway : IsWay d folders file)
    (hfile : file ≠ []) (hfree : d.node? file ≠ some .folder) (hgit : file.getLast? ≠ some ".git")
    (hrules : ∀ name ∈ Scan.ruleNames, file.getLast? ≠ some name) :
    Scan.rulesOf (d.patched (writing folders file content time)) names = Scan.rulesOf d names := by
  refine Scan.rulesOf_congr (maintains_writing h hway hfile hfree hgit) h.maintains h.folders
    fun p name hname => ?_
  refine node?_writing_of_ne hway hfile fun heq => hrules name hname ?_
  rw [← heq, List.getLast?_concat]

theorem getLast?_source (hname : Scan.isSourceName (rest.getLastD "") = true) {other : String}
    (hother : Scan.isSourceName other = false) : (names ++ rest).getLast? ≠ some other := by
  intro hlast
  rw [List.getLast?_append_of_ne_nil _ (rest_ne_nil hname)] at hlast
  rw [List.getLastD_eq_getLast?, hlast, Option.getD_some, hother] at hname
  cases hname

/-- On a plain disk a source file is read neither as an ignore file nor as settings. -/
theorem Edit.of_plain (h : d.IsPlain) (hname : Scan.isSourceName (rest.getLastD "") = true)
    (houtside : ¬ place names <+: names ++ rest) (hway : IsWay d folders (names ++ rest))
    (hfree : d.node? (names ++ rest) ≠ some .folder)
    (hsettings : ¬ settingsPlace names <+: names ++ rest)
    (hretimed : ∀ content' time', d.node? (names ++ rest) = some (.file content' time') →
      Disk.milliseconds time' ≠ Disk.milliseconds time) :
    Edit names d (writing folders (names ++ rest) content time) := by
  have hfile : names ++ rest ≠ [] := by simp [rest_ne_nil hname]
  have hgit : (names ++ rest).getLast? ≠ some ".git" := getLast?_source hname (by decide)
  have hmaintains : Maintains d (d.patched (writing folders (names ++ rest) content time)) :=
    maintains_writing h hway hfile hfree hgit
  refine .source hname houtside hway hretimed (.of_status ?_ (h.maintains.straight _)
    (hmaintains.straight _) (fun node => hmaintains.status_iff h.maintains h.folders ?_)
    (folderTime_writing hway hsettings))
  · exact rulesOf_writing h hway hfile hfree hgit fun name hrule =>
      getLast?_source hname (ruleNames_not_sources name hrule)
  · have hfolder : settingsPlace names ∉ folders := fun hmem => hsettings (hway _ hmem).2.1
    have hne : settingsPlace names ≠ names ++ rest := by
      intro heq
      rw [heq] at hsettings
      exact hsettings List.prefix_rfl
    rw [node?_writing hway hfile, if_neg hne, if_neg hfolder]

end

end Gazetteer.Cache
