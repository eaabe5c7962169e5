import Gazetteer.Proofs.Command.Opening
import Gazetteer.Proofs.Disk.Replacing
import Gazetteer.Proofs.Scan.Files

/-!
# Plain disks

On a plain disk everything stands in a folder, nothing is a link and no file stands for the data of
a repository. There ignore files and settings are read at their own places and nowhere else. So what
a scan goes by stays the same while folders stay and nothing else changes at these places.
-/

namespace Gazetteer

namespace Disk

structure IsPlain (d : Disk) : Prop where
  links : d.IsLinkless
  folders : ∀ e ∈ d.nodes.entries, d.node? e.1.dropLast = some .folder
  repositories : ∀ e ∈ d.nodes.entries, e.1.getLast? = some ".git" → e.2 = .folder

instance (d : Disk) : Decidable d.IsPlain :=
  decidable_of_iff (d.IsLinkless ∧ (∀ e ∈ d.nodes.entries, d.node? e.1.dropLast = some .folder) ∧
      ∀ e ∈ d.nodes.entries, e.1.getLast? = some ".git" → e.2 = .folder)
    ⟨fun h => ⟨h.1, h.2.1, h.2.2⟩, fun h => ⟨h.links, h.folders, h.repositories⟩⟩

/-- Whether a disk has all folders of an earlier one, and has neither links nor a file for the data
of a repository. -/
structure Maintains (d d' : Disk) : Prop where
  folders : ∀ p, d.node? p = some .folder → d'.node? p = some .folder
  links : ∀ p target, d'.node? p ≠ some (.link target)
  repositories : ∀ p content time, d'.node? (p ++ [".git"]) ≠ some (.file content time)

variable {d d' : Disk} {p : List String}

theorem mem_entries_of_node? {node : Node} (hp : p ≠ []) (h : d.node? p = some node) :
    (p, node) ∈ d.nodes.entries := by
  rw [node?_of_ne_nil hp] at h
  exact OrdMap.find?_eq_some_iff.1 h

namespace IsPlain

theorem maintains (h : d.IsPlain) : Maintains d d where
  folders _ hfolder := hfolder
  links p target := h.links.node?_ne p target
  repositories p content time hnode := by
    have hfolder := h.repositories _ (mem_entries_of_node? (by simp) hnode) (by simp)
    cases hfolder

end IsPlain

theorem Maintains.straight (h : Maintains d d') (p : List String) : d'.Straight p :=
  fun q _ => h.links q

/-- Where nothing has changed at a place, a route to it leads to the same. -/
theorem Maintains.status_iff (h : Maintains d d') (hd : Maintains d d) (htree : d.IsTree)
    (hnode : d'.node? p = d.node? p)
    {node : Node} : d'.status (.ofNames p) = .ok node ↔ d.status (.ofNames p) = .ok node := by
  rw [status_ofNames_iff (h.straight p), status_ofNames_iff (hd.straight p), hnode]
  constructor
  · rintro ⟨haccept, hpass, hend⟩
    have hpresent : d.node? p ≠ none := by
      rw [hend]
      exact nofun
    exact ⟨haccept, hpass.congr (fun q hq hne => htree.folder hpresent hq hne) hpresent, hend⟩
  · rintro ⟨haccept, hpass, hend⟩
    have hpresent : d'.node? p ≠ none := by
      rw [hnode, hend]
      exact nofun
    exact ⟨haccept, hpass.congr (fun q hq hne => h.folders q (hpass.folder hq hne)) hpresent, hend⟩

/-- Where the same files stand at a place, or none does, a route to it reads the same. -/
theorem Maintains.read_iff (h : Maintains d d') (hd : Maintains d d) (htree : d.IsTree)
    (hnode : ∀ content time, d'.node? p = some (.file content time) ↔
      d.node? p = some (.file content time)) {content : Content} :
    d'.read (.ofNames p) = .ok content ↔ d.read (.ofNames p) = .ok content := by
  rw [read_ofNames_iff (h.straight p), read_ofNames_iff (hd.straight p)]
  simp only [hnode]
  refine and_congr_right fun _ => and_congr_left fun ⟨time, hend⟩ => ?_
  have hpresent : d.node? p ≠ none := by
    rw [hend]
    exact nofun
  have hpresent' : d'.node? p ≠ none := by
    rw [(hnode content time).2 hend]
    exact nofun
  constructor
  · intro hpass
    exact hpass.congr (fun q hq hne => htree.folder hpresent hq hne) hpresent
  · intro hpass
    exact hpass.congr (fun q hq hne => h.folders q (hpass.folder hq hne)) hpresent'

end Disk

namespace Scan

open Disk (Maintains IsPlain)

variable {d d' : Disk} {base : List String}

/-! ## Ignore files -/

/-- The names of files that a scan reads. -/
def ruleNames : List String := [".ignore", ".gitignore", "exclude"]

theorem rulesAt_congr {r : Disk.Route}
    (h : ∀ content, d'.read r = .ok content ↔ d.read r = .ok content) :
    FolderRules.rulesAt d' r = FolderRules.rulesAt d r := by
  unfold FolderRules.rulesAt
  cases hread : d.read r with
  | ok content => rw [(h content).2 hread]
  | error e =>
    cases hread' : d'.read r with
    | ok content =>
      rw [(h content).1 hread'] at hread
      cases hread
    | error e' => rfl

theorem gitFolder?_eq (h : Maintains d d') (folder : List String) :
    FolderRules.gitFolder? d' folder = some (FolderRules.gitRoute folder) := by
  unfold FolderRules.gitFolder?
  split
  next content time hstatus =>
    rw [FolderRules.gitRoute, Disk.status_ofNames_iff (h.straight _)] at hstatus
    exact absurd hstatus.2.2 (h.repositories folder content time)
  · rfl

/-- The ignore files of a folder, each with the names from the folder to it. -/
theorem read_eq (h : Maintains d d') (folder : List String) : FolderRules.read d' folder =
    ⟨FolderRules.rulesAt d' (.ofNames (folder ++ [".ignore"])),
      FolderRules.rulesAt d' (.ofNames (folder ++ [".gitignore"])),
      FolderRules.rulesAt d' (.ofNames (folder ++ [".git", "info"] ++ ["exclude"]))⟩ := by
  unfold FolderRules.read
  rw [gitFolder?_eq h]
  simp only [Disk.Route.child_ofNames, FolderRules.gitRoute, FolderRules.excludeRoute,
    Option.map_some, Option.getD_some, List.append_assoc, List.cons_append, List.nil_append]

theorem rulesAt_eq_nil (h : Maintains d d') {p q : List String} (hq : q <+: p) (hne : q ≠ p)
    (hfolder : d'.node? q ≠ some .folder) : FolderRules.rulesAt d' (.ofNames p) = [] := by
  unfold FolderRules.rulesAt
  cases hread : d'.read (.ofNames p) with
  | error e => rfl
  | ok content =>
    have hpass := ((Disk.read_ofNames_iff (h.straight p)).1 hread).2.1
    exact absurd (hpass.folder hq hne) hfolder

/-- Where no folder stands there are no rules. -/
theorem read_eq_none (h : Maintains d d') {folder : List String}
    (hfolder : d'.node? folder ≠ some .folder) : FolderRules.read d' folder = .none := by
  have hnil : ∀ rest : List String, rest ≠ [] →
      FolderRules.rulesAt d' (.ofNames (folder ++ rest)) = [] := by
    intro rest hrest
    exact rulesAt_eq_nil h (List.prefix_append _ _) (by simpa using hrest.symm) hfolder
  rw [read_eq h, List.append_assoc, hnil _ (by simp), hnil _ (by simp), hnil _ (by simp)]
  rfl

/-- Ignore files say the same while they stay as they are. -/
theorem rulesOf_congr (h : Maintains d d') (hd : Maintains d d) (htree : d.IsTree)
    (hrules : ∀ p, ∀ name ∈ ruleNames, ∀ content time,
      d'.node? (p ++ [name]) = some (.file content time) ↔
        d.node? (p ++ [name]) = some (.file content time)) :
    rulesOf d' base = rulesOf d base := by
  have hread : ∀ folder, FolderRules.read d' folder = FolderRules.read d folder := by
    intro folder
    have hfile : ∀ p, ∀ name ∈ ruleNames, FolderRules.rulesAt d' (.ofNames (p ++ [name])) =
        FolderRules.rulesAt d (.ofNames (p ++ [name])) :=
      fun p name hname => rulesAt_congr fun _ => h.read_iff hd htree (hrules p name hname)
    rw [read_eq h, read_eq hd, hfile _ _ (by decide), hfile _ _ (by decide),
      hfile _ _ (by decide)]
  have hrulesOf : ∀ {d'' : Disk}, Maintains d d'' → ∀ folder, rulesOf d'' base folder =
      if base <+: folder ∨ folder <+: base then FolderRules.read d'' folder else .none := by
    intro d'' h'' folder
    rw [rulesOf_eq]
    by_cases hfolder : d''.node? folder = some .folder
    · simp only [hfolder, true_and]
    · rw [read_eq_none h'' hfolder]
      simp only [ite_self]
  funext folder
  rw [hrulesOf h, hrulesOf hd, hread]

end Scan
end Gazetteer
