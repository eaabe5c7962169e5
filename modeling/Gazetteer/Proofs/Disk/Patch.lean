import Gazetteer.Proofs.Disk.Writing

/-!
# Edits as patches

A patch says what comes to stand at some places, whatever stood there before, and when. A patch that
keeps out of a folder commutes with changes inside it: it does not matter at which moment of a run
it is applied.
-/

namespace Gazetteer.Disk

/-- What comes to stand at some places, one after the other, and when. -/
abbrev Patch := List (List String × Node × Int)

def patched (d : Disk) (patch : Patch) : Disk :=
  patch.foldl (fun d e => (d.put e.1 e.2.1).dated e.2.2 [e.1.dropLast, e.1]) d

/-- Whether a patch leaves a folder and everything in it alone. -/
structure Patch.Avoids (folder : List String) (patch : Patch) : Prop where
  places : ∀ e ∈ patch, e.1 ≠ []
  outside : ∀ e ∈ patch, ¬ folder <+: e.1
  links : ∀ e ∈ patch, ∀ target, e.2.1 ≠ .link target

variable {folder names : List String} {patch : Patch} {d d' : Disk}

theorem patched_concat (d : Disk) (patch : Patch) (e : List String × Node × Int) :
    d.patched (patch ++ [e]) =
      ((d.patched patch).put e.1 e.2.1).dated e.2.2 [e.1.dropLast, e.1] := by
  rw [patched, List.foldl_append]
  rfl

/-- A place has got what a patch puts there, or is left as it is, on all disks alike. -/
theorem node?_patched (hplaces : ∀ e ∈ patch, e.1 ≠ []) (p : List String) :
    (∃ node time, (p, node, time) ∈ patch ∧ ∀ d : Disk, (d.patched patch).node? p = some node) ∨
      (∀ node time, (p, node, time) ∉ patch) ∧
        ∀ d : Disk, (d.patched patch).node? p = d.node? p := by
  induction patch using List.reverseRecOn with
  | nil => exact .inr ⟨fun _ _ => List.not_mem_nil, fun _ => rfl⟩
  | append_singleton patch e ih =>
    have hput : ∀ d : Disk, (d.patched (patch ++ [e])).node? p =
        if p = e.1 then some e.2.1 else (d.patched patch).node? p := by
      intro d
      rw [patched_concat]
      exact node?_put (hplaces e (by simp)) e.2.1 p
    by_cases hp : p = e.1
    · refine .inl ⟨e.2.1, e.2.2, by simp [hp], fun d => ?_⟩
      rw [hput, if_pos hp]
    · simp only [hput, if_neg hp]
      rcases ih fun e he => hplaces e (List.mem_append_left _ he) with
        ⟨node, time, hmem, hnode⟩ | ⟨hnone, hnode⟩
      · exact .inl ⟨node, time, List.mem_append_left _ hmem, hnode⟩
      · refine .inr ⟨fun node time hmem => ?_, hnode⟩
        rcases List.mem_append.1 hmem with hmem | hmem
        · exact hnone node time hmem
        · exact hp (congrArg Prod.fst (List.mem_singleton.1 hmem))

/-- A patch changes a folder at one time on all disks, or on none. -/
theorem folderTime_patched (patch : Patch) (p : List String) :
    (∃ time, ∀ d : Disk, (d.patched patch).folderTime p = time) ∨
      ∀ d : Disk, (d.patched patch).folderTime p = d.folderTime p := by
  induction patch using List.reverseRecOn with
  | nil => exact .inr fun _ => rfl
  | append_singleton patch e ih =>
    simp only [patched_concat, folderTime_dated, folderTime_put]
    by_cases hp : p ∈ [e.1.dropLast, e.1]
    · exact .inl ⟨e.2.2, fun _ => if_pos hp⟩
    · simpa only [if_neg hp] using ih

theorem parting_patched (hplaces : ∀ e ∈ patch, e.1 ≠ []) (d : Disk) :
    Parting d (d.patched patch) := by
  induction patch using List.reverseRecOn with
  | nil => exact Change.Frame.refl d
  | append_singleton patch e ih =>
    rw [patched_concat]
    exact Change.Frame.trans (ih fun e he => hplaces e (List.mem_append_left _ he))
      (parting_put (hplaces e (by simp)) e.2.1)

theorem workingFolder_patched (d : Disk) (patch : Patch) :
    (d.patched patch).workingFolder = d.workingFolder := by
  induction patch generalizing d with
  | nil => rfl
  | cons e patch ih => exact ih _

namespace Patch.Avoids

theorem nil : Patch.Avoids folder [] := ⟨nofun, nofun, nofun⟩

theorem node? (h : patch.Avoids folder) {p : List String} (hp : folder <+: p) (d : Disk) :
    (d.patched patch).node? p = d.node? p := by
  rcases node?_patched h.places p with ⟨node, time, hmem, -⟩ | ⟨-, hnode⟩
  · exact absurd hp (h.outside _ hmem)
  · exact hnode d

theorem clear (h : patch.Avoids folder) (hclear : Clear folder d) :
    Clear folder (d.patched patch) := by
  have hlink : ∀ p, (∀ target, d.node? p ≠ some (.link target)) →
      ∀ target, (d.patched patch).node? p ≠ some (.link target) := by
    intro p hp target hnode
    rcases node?_patched h.places p with ⟨node, time, hmem, hput⟩ | ⟨-, hkept⟩
    · rw [hput] at hnode
      exact h.links _ hmem target (Option.some.inj hnode)
    · rw [hkept] at hnode
      exact hp target hnode
  exact ⟨fun p hp => hlink p (hclear.way p hp), fun name => hlink _ (hclear.inside name),
    fun name => (parting_patched h.places d).isSole (hclear.drafts name)⟩

/-- Patching commutes with changes to files of the folder. -/
theorem confined (h : patch.Avoids folder) (hconfined : Confined folder names d d') :
    Confined folder names (d.patched patch) (d'.patched patch) where
  node p hp := by
    rcases node?_patched h.places p with ⟨node, time, -, hput⟩ | ⟨-, hkept⟩
    · exact .inl (by rw [hput, hput])
    · rw [hkept, hkept]
      exact hconfined.node p hp
  workingFolder := by
    rw [workingFolder_patched, workingFolder_patched]
    exact hconfined.workingFolder
  clear := h.clear hconfined.clear
  time p hp := by
    rcases folderTime_patched patch p with ⟨time, hset⟩ | hkept
    · rw [hset, hset]
    · rw [hkept, hkept]
      exact hconfined.time p hp

end Patch.Avoids
end Gazetteer.Disk
