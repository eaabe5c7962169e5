import Gazetteer.Proofs.Disk.Housing

/-!
# Records in a folder

A record is drafted beside its file and moved over it. Where nothing stands in place of the draft
and no link or folder in place of the file, nothing changes but the file, whatever the way to the
folder is like, and the record can be read along that way.
-/

namespace Gazetteer.Disk

variable {d d' : Disk} {base : Route} {home : List String} {name draft : String}

/-- A file is written where its route finds a place, if no link stands there. -/
theorem locate_of_landing {r : Route} {links : Nat}
    (hdirect : ∀ place, d.locate r = .ok place → ∀ target, d.node? place ≠ some (.link target))
    (h : d.landing r links = .ok place) : d.locate r = .ok place := by
  cases links with
  | zero => cases h
  | succ links =>
    rw [landing] at h
    simp only [bind, Except.bind] at h
    split at h
    · cases h
    next located hlocate =>
      split at h
      next target hlink => exact absurd hlink (hdirect located hlocate target)
      · obtain rfl := Except.ok.inj h
        exact hlocate

namespace Change

variable {now : UInt64} {text : String} {v : Json}

/-- A file that is written where nothing stands is the only change, and has no other name. -/
theorem exists_home_of_writeFile (hbase : base.trimmed = base)
    (hfree : ∀ home, d.Leads [] base home → d.node? home = some .folder →
      d.node? (home ++ [name]) = none)
    (hrun : writeFile (base ++ [.down name]) text now d = .ok () d') :
    ∃ home time, d.follow base = .ok home ∧ d.node? home = some .folder ∧
      d'.IsSole (home ++ [name]) ∧ ∀ p, d'.node? p =
        if p = home ++ [name] then some (.file (.text text) time) else d.node? p := by
  obtain ⟨place, hlanding, -, rfl⟩ := written_of_writeFile hrun
  rw [landing_begun] at hlanding
  have hdirect : ∀ place, d.locate (base ++ [.down name]) = .ok place →
      ∀ target, d.node? place ≠ some (.link target) := by
    intro place hlocate target
    obtain ⟨home, hway, hfolder, rfl⟩ := locate_concat hlocate
    exact (hfree home hway hfolder).trans_ne nofun
  obtain ⟨-, -, home, hfollow, hfolder, rfl⟩ :=
    follow_of_locate (locate_of_landing hdirect hlanding)
  rw [hbase] at hfollow
  have hsole : d.begun.IsSole (home ++ [name]) :=
    isSole_of_node?_eq_none (hfree home (leads_of_follow hfollow) hfolder)
  exact ⟨home, _, hfollow, hfolder, (parting_written (by simp) hsole _).isSole hsole,
    node?_written_of_isSole (by simp) hsole _⟩

/-- A file that is moved within a folder goes from one place and comes to the other. -/
theorem node?_of_rename (hbase : base.trimmed = base) (hfollow : d.follow base = .ok home)
    (hne : draft ≠ name) (hsole : d.IsSole (home ++ [draft]))
    (hrun : rename (base ++ [.down draft]) (base ++ [.down name]) d = .ok () d') :
    accept (base ++ [.down name]) = .ok () ∧ name.utf8ByteSize ≤ maxNameSize ∧
      ∃ node, d.node? (home ++ [draft]) = some node ∧ ∀ p, d'.node? p =
        if p = home ++ [name] then some node else if p = home ++ [draft] then none
        else d.node? p := by
  obtain ⟨source, target, node, hsource, htarget, hnode, -, rfl⟩ := moved_of_rename hrun
  have hhome := ((alike_begun d).follow_eq _).trans hfollow
  obtain ⟨-, -, above, habove, -, rfl⟩ := follow_of_locate hsource
  obtain ⟨haccept, hsize, above', habove', -, rfl⟩ := follow_of_locate htarget
  rw [hbase, hhome] at habove habove'
  obtain rfl := Except.ok.inj habove
  obtain rfl := Except.ok.inj habove'
  refine ⟨haccept, hsize, node, hnode, node?_moved (by simp) (by simp) ?_ node⟩
  simp [hne, hsole.isTwin]

/-- A record that is drafted and moved to its place is the only change and can be read there. -/
theorem exists_home_of_draft (hbase : base.trimmed = base) (hne : draftName name ≠ name)
    (hfree : ∀ home, d.Leads [] base home → d.node? home = some .folder →
      d.node? (home ++ [draftName name]) = none ∧ IsLoose (d.node? (home ++ [name])))
    (hrun : (do
      writeFile (base ++ [.down (draftName name)]) v.pretty now
      rename (base ++ [.down (draftName name)]) (base ++ [.down name]) : Change Unit) d =
        .ok () d') :
    ∃ home time, (d.follow base = .ok home ∧ d.node? home = some .folder) ∧
      d'.node? (home ++ [name]) = some (.file (.text v.pretty) time) ∧
      (∀ p, p ≠ home ++ [name] → d'.node? p = d.node? p) ∧
      d'.read (base ++ [.down name]) = .ok (.text v.pretty) := by
  obtain ⟨_, m, hwrite, hrename⟩ := bind_eq_ok.1 hrun
  obtain ⟨home, time, hfollow, hfolder, hsole, hwritten⟩ :=
    exists_home_of_writeFile hbase (fun home hway hfolder => (hfree home hway hfolder).1) hwrite
  obtain ⟨hnone, hloose⟩ := hfree home (leads_of_follow hfollow) hfolder
  have hdrafted : m.node? (home ++ [draftName name]) = some (.file (.text v.pretty) time) := by
    rw [hwritten, if_pos rfl]
  have hstored : Filing home [draftName name] d m := by
    refine .of_file List.mem_cons_self ?_ ?_ fun p hp => by rw [hwritten, if_neg hp]
    · rw [hnone]
      exact ⟨nofun, nofun⟩
    · rw [hdrafted]
      exact ⟨nofun, nofun⟩
  obtain ⟨hway, -⟩ := hstored.follow_folder hfollow hfolder
  obtain ⟨haccept, hsize, node, hnode, hmoved⟩ := node?_of_rename hbase hway hne hsole hrename
  obtain rfl := Option.some.inj (hdrafted.symm.trans hnode)
  have hfile : d'.node? (home ++ [name]) = some (.file (.text v.pretty) time) := by
    rw [hmoved, if_pos rfl]
  have hother : ∀ p, p ≠ home ++ [name] → d'.node? p = d.node? p := by
    intro p hp
    rw [hmoved, if_neg hp, hwritten]
    split
    next heq => rw [heq, hnone]
    next => rfl
  have hstoring : Filing home [name] d d' := by
    refine .of_file List.mem_cons_self hloose ?_ hother
    rw [hfile]
    exact ⟨nofun, nofun⟩
  obtain ⟨hlast, hstays⟩ := hstoring.follow_folder hfollow hfolder
  exact ⟨home, time, ⟨hfollow, hfolder⟩, hfile, hother,
    read_concat haccept hsize hlast hstays hfile⟩

end Change
end Gazetteer.Disk
