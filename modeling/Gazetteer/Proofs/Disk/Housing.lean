import Gazetteer.Proofs.Disk.Replacing

/-!
# Records behind links

A folder may be reached through links. As long as none stands in the folder itself, records that are
written there touch only the files that they are about, and can be read when they are written. So
what else is read in the folder, and wherever else a route leads to a folder, stays the same.
-/

namespace Gazetteer.Disk

/-- Nothing, or a file. -/
def IsLoose (node : Option Node) : Prop :=
  node ≠ some .folder ∧ ∀ target, node ≠ some (.link target)

/-- On a later disk stands what stood on an earlier one, except for files of a folder with certain
names and for folders that were made on the way to it. -/
structure Filing (home names : List String) (d d' : Disk) : Prop where
  node : ∀ p, d'.node? p = d.node? p ∨
    (∃ name ∈ names, p = home ++ [name]) ∧ IsLoose (d.node? p) ∧ IsLoose (d'.node? p) ∨
    p <+: home ∧ d.node? p = none ∧ d'.node? p = some .folder

variable {home names : List String} {d d' : Disk} {here place : List String} {steps : List Step}

theorem not_prefix_concat {name : String} : ¬ home ++ [name] <+: home := by
  intro h
  have hlength := h.length_le
  rw [List.length_append, List.length_singleton] at hlength
  omega

namespace Filing

theorem refl (home names : List String) (d : Disk) : Filing home names d d := ⟨fun _ => .inl rfl⟩

theorem of_alike (h : Alike d d') : Filing home names d d' := ⟨fun p => .inl (h p)⟩

/-- One file may come, change or go. -/
theorem of_file {name : String} (hname : name ∈ names) (hloose : IsLoose (d.node? (home ++ [name])))
    (hloose' : IsLoose (d'.node? (home ++ [name])))
    (hother : ∀ p, p ≠ home ++ [name] → d'.node? p = d.node? p) : Filing home names d d' := by
  refine ⟨fun p => ?_⟩
  by_cases hp : p = home ++ [name]
  · subst hp
    exact .inr (.inl ⟨⟨name, hname, rfl⟩, hloose, hloose'⟩)
  · exact .inl (hother p hp)

/-- Up to files of the folder it does not matter what one of them is. -/
theorem of_other (h : Filing home names d d') {d'' : Disk} {name : String} (hname : name ∈ names)
    (hloose : IsLoose (d''.node? (home ++ [name]))) (hloose' : IsLoose (d'.node? (home ++ [name])))
    (hother : ∀ p, p ≠ home ++ [name] → d''.node? p = d.node? p) : Filing home names d'' d' := by
  refine ⟨fun p => ?_⟩
  by_cases hp : p = home ++ [name]
  · subst hp
    exact .inr (.inl ⟨⟨name, hname, rfl⟩, hloose, hloose'⟩)
  · rw [hother p hp]
    exact h.node p

theorem folder (h : Filing home names d d') {p : List String}
    (hfolder : d.node? p = some .folder) : d'.node? p = some .folder := by
  rcases h.node p with hsame | ⟨-, hloose, -⟩ | ⟨-, hnone, -⟩
  · rw [hsame, hfolder]
  · exact absurd hfolder hloose.1
  · rw [hnone] at hfolder
    cases hfolder

theorem link (h : Filing home names d d') {p : List String} {target : String}
    (hlink : d.node? p = some (.link target)) : d'.node? p = some (.link target) := by
  rcases h.node p with hsame | ⟨-, hloose, -⟩ | ⟨-, hnone, -⟩
  · rw [hsame, hlink]
  · exact absurd hlink (hloose.2 target)
  · rw [hnone] at hlink
    cases hlink

theorem link_iff (h : Filing home names d d') {p : List String} {target : String} :
    d'.node? p = some (.link target) ↔ d.node? p = some (.link target) := by
  constructor
  · intro hlink
    rcases h.node p with hsame | ⟨-, -, hloose⟩ | ⟨-, -, hfolder⟩
    · rw [← hsame, hlink]
    · exact absurd hlink (hloose.2 target)
    · rw [hfolder] at hlink
      cases hlink
  · exact h.link

/-- A file of the folder with another name is as it was. -/
theorem node?_file (h : Filing home names d d') {name : String} (hname : name ∉ names) :
    d'.node? (home ++ [name]) = d.node? (home ++ [name]) := by
  rcases h.node (home ++ [name]) with hsame | ⟨⟨other, hother, heq⟩, -⟩ | ⟨hway, -⟩
  · exact hsame
  · obtain rfl : name = other := by simpa using heq
    exact absurd hother hname
  · exact absurd hway not_prefix_concat

/-- A file with another name is the same, wherever it stands. -/
theorem file_iff (h : Filing home names d d') {p : List String} {name : String}
    (hname : name ∉ names) {content : Content} {time : Int} :
    d'.node? (p ++ [name]) = some (.file content time) ↔
      d.node? (p ++ [name]) = some (.file content time) := by
  rcases h.node (p ++ [name]) with hsame | ⟨⟨other, hother, heq⟩, -⟩ | ⟨-, hnone, hmade⟩
  · rw [hsame]
  · obtain rfl : name = other := by simpa using (List.append_inj' heq rfl).2
    exact absurd hother hname
  · simp [hnone, hmade]

theorem mono {more : List String} (h : Filing home names d d')
    (hnames : ∀ name ∈ names, name ∈ more) : Filing home more d d' := by
  refine ⟨fun p => ?_⟩
  rcases h.node p with hsame | ⟨⟨name, hname, hp⟩, hloose⟩ | hmade
  · exact .inl hsame
  · exact .inr (.inl ⟨⟨name, hnames name hname, hp⟩, hloose⟩)
  · exact .inr (.inr hmade)

theorem trans {d'' : Disk} (h : Filing home names d d') (h' : Filing home names d' d'') :
    Filing home names d d'' := by
  refine ⟨fun p => ?_⟩
  rcases h.node p with hsame | ⟨hplace, hloose, hloose'⟩ | ⟨hway, hnone, hmade⟩
  · rw [← hsame]
    exact h'.node p
  · right
    left
    rcases h'.node p with hsame' | ⟨-, -, hloose''⟩ | ⟨hway, -⟩
    · exact ⟨hplace, hloose, hsame' ▸ hloose'⟩
    · exact ⟨hplace, hloose, hloose''⟩
    · obtain ⟨name, -, rfl⟩ := hplace
      exact absurd hway not_prefix_concat
  · exact .inr (.inr ⟨hway, hnone, h'.folder hmade⟩)

/-- Where the way is there already, no folder was made, so a change can be taken back. -/
theorem symm (h : Filing home names d d') (hway : ∀ p, p <+: home → d.node? p ≠ none) :
    Filing home names d' d := by
  refine ⟨fun p => ?_⟩
  rcases h.node p with hsame | ⟨hplace, hloose, hloose'⟩ | ⟨hp, hnone, -⟩
  · exact .inl hsame.symm
  · exact .inr (.inl ⟨hplace, hloose', hloose⟩)
  · exact absurd hnone (hway p hp)

/-! ## Where routes lead -/

theorem isLink_eq (h : Filing home names d d') {p : List String} {node node' : Node}
    (hnode : d.node? p = some node) (hnode' : d'.node? p = some node')
    (hdirect : node.isLink = false) : node'.isLink = false := by
  cases node' with
  | file content time => rfl
  | folder => rfl
  | link target =>
    rw [h.link_iff, hnode] at hnode'
    cases hnode'
    cases hdirect

theorem leads (h : Filing home names d d') (hway : d.Leads here steps place)
    (hplace : d'.node? place ≠ none) : d'.Leads here steps place := by
  induction hway with
  | done => exact .done
  | idle hfolder hidle _ ih => exact .idle (h.folder hfolder) hidle (ih hplace)
  | up hfolder _ ih => exact .up (h.folder hfolder) (ih hplace)
  | jump hfolder hlink _ ih => exact .jump (h.folder hfolder) (h.link hlink) (ih hplace)
  | @down here name rest place node hfolder hnode hdirect honward ih =>
    have hfirst : d'.node? (here ++ [name]) ≠ none := by
      cases honward with
      | done => exact hplace
      | idle hnext => rw [h.folder hnext]; exact nofun
      | up hnext => rw [h.folder hnext]; exact nofun
      | down hnext => rw [h.folder hnext]; exact nofun
      | jump hnext => rw [h.folder hnext]; exact nofun
    obtain ⟨node', hnode'⟩ := Option.ne_none_iff_exists'.1 hfirst
    exact .down (h.folder hfolder) hnode' (h.isLink_eq hnode hnode' hdirect) (ih hplace)

/-- A walk ends where it ended, if something still stands there. -/
theorem walkWith (h : Filing home names d d')
    {jump jump' : List String → List Step → Except IoError (List String)}
    (hplace : d'.node? place ≠ none)
    (hjump : ∀ here steps, jump here steps = .ok place → jump' here steps = .ok place)
    (hwalk : d.walkWith jump here steps = .ok place) :
    d'.walkWith jump' here steps = .ok place := by
  induction steps generalizing here with
  | nil => exact hwalk
  | cons step rest ih =>
    obtain ⟨hfolder, hstep⟩ := walkWith_cons_iff.1 hwalk
    apply walkWith_cons_iff.2
    refine ⟨h.folder hfolder, ?_⟩
    rcases hstep with ⟨hidle, hrest⟩ | ⟨rfl, hrest⟩ | ⟨name, rfl, hsize, hdown⟩
    · exact .inl ⟨hidle, ih hrest⟩
    · exact .inr (.inl ⟨rfl, ih hrest⟩)
    · refine .inr (.inr ⟨name, rfl, hsize, ?_⟩)
      rcases hdown with ⟨target, hlink, hrest⟩ | ⟨node, hnode, hdirect, hrest⟩
      · exact .inl ⟨target, h.link hlink, hjump _ _ hrest⟩
      · -- Either the walk goes on from a folder, or this is the place.
        have hfirst : d'.node? (here ++ [name]) ≠ none := by
          cases rest with
          | nil =>
            obtain rfl := Except.ok.inj hrest
            exact hplace
          | cons next rest =>
            rw [h.folder (walkWith_cons_iff.1 hrest).1]
            exact nofun
        obtain ⟨node', hnode'⟩ := Option.ne_none_iff_exists'.1 hfirst
        exact .inr ⟨node', hnode', h.isLink_eq hnode hnode' hdirect, ih hrest⟩

theorem walk (h : Filing home names d d') {links : Nat} (hplace : d'.node? place ≠ none)
    (hwalk : d.walk links here steps = .ok place) : d'.walk links here steps = .ok place := by
  induction links generalizing here steps with
  | zero => exact h.walkWith hplace (fun _ _ hjump => by cases hjump) hwalk
  | succ links ih => exact h.walkWith hplace (fun _ _ hjump => ih hjump) hwalk

theorem follow (h : Filing home names d d') {r : Route} (hplace : d'.node? place ≠ none)
    (hfollow : d.follow r = .ok place) : d'.follow r = .ok place := by
  rw [Disk.follow] at hfollow ⊢
  cases haccept : accept r with
  | error e =>
    rw [haccept] at hfollow
    cases hfollow
  | ok _ =>
    rw [haccept] at hfollow
    exact h.walk hplace hfollow

/-- A route that leads to a folder leads there later. -/
theorem follow_folder (h : Filing home names d d') {r : Route} (hfollow : d.follow r = .ok place)
    (hfolder : d.node? place = some .folder) :
    d'.follow r = .ok place ∧ d'.node? place = some .folder := by
  have hstays := h.folder hfolder
  refine ⟨h.follow ?_ hfollow, hstays⟩
  rw [hstays]
  exact Option.some_ne_none _

/-- What is read along a route is read there later, if it stands where it stood. -/
theorem read (h : Filing home names d d') {r : Route} {content : Content} {time : Int}
    (hfollow : d.follow r = .ok place) (hnode : d'.node? place = some (.file content time)) :
    d'.read r = .ok content := by
  refine read_of_follow (h.follow ?_ hfollow) hnode
  rw [hnode]
  exact nofun

end Filing

/-! ## Solid places -/

/-- Something stands at a place and all before it are folders, so the way to it has no links. -/
structure IsSolid (d : Disk) (place : List String) : Prop where
  folders : ∀ p, p <+: place → p ≠ place → d.node? p = some .folder
  stands : ∃ node, d.node? place = some node ∧ node.isLink = false

theorem IsSolid.nil (d : Disk) : d.IsSolid [] where
  folders _ hp hne := absurd (List.prefix_nil.1 hp) hne
  stands := ⟨.folder, node?_nil d, rfl⟩

/-- A route leads to a solid place. -/
theorem Leads.isSolid (h : d.Leads here steps place) (hhere : d.IsSolid here) :
    d.IsSolid place := by
  induction h with
  | done => exact hhere
  | idle _ _ _ ih => exact ih hhere
  | @up here rest place _ _ ih =>
    apply ih
    have hup : here.dropLast <+: here := List.dropLast_prefix here
    constructor
    · intro q hp hne
      apply hhere.folders q (hp.trans hup)
      rintro rfl
      exact hne (hp.eq_of_length_le hup.length_le)
    · refine ⟨.folder, ?_, rfl⟩
      by_cases hnil : here = []
      · rw [hnil]
        exact node?_nil d
      · apply hhere.folders _ hup
        intro heq
        have hlength := congrArg List.length heq
        rw [List.length_dropLast] at hlength
        have hpos := List.length_pos_iff.2 hnil
        omega
  | @down here name rest place node hfolder hnode hdirect _ ih =>
    apply ih
    constructor
    · intro p hp hne
      rcases List.prefix_concat_iff.1 hp with heq | hup
      · exact absurd heq hne
      · by_cases heq : p = here
        · rw [heq, hfolder]
        · exact hhere.folders p hup heq
    · exact ⟨node, hnode, hdirect⟩
  | jump _ _ _ ih => exact ih (.nil d)

theorem IsSolid.straight (h : d.IsSolid place) : d.Straight place := by
  intro p hp target hlink
  by_cases heq : p = place
  · obtain ⟨node, hnode, hdirect⟩ := h.stands
    rw [heq, hnode] at hlink
    cases hlink
    cases hdirect
  · rw [h.folders p hp heq] at hlink
    cases hlink

/-- A way of names without links leads to the place with these names. -/
theorem Leads.eq_of_straight (h : d.Leads [] (Route.ofNames names) place)
    (hstraight : d.Straight names) : place = names := by
  induction names using List.reverseRecOn generalizing place with
  | nil =>
    cases h with
    | done => rfl
  | append_singleton names name ih =>
    rw [Route.ofNames_concat] at h
    obtain ⟨middle, hmiddle, -⟩ := h.split
    obtain rfl := ih hmiddle (hstraight.of_prefix (List.prefix_append _ _))
    rcases h.concat_cases hmiddle with ⟨heq, -⟩ | ⟨target, hlink, -⟩
    · exact heq
    · exact absurd hlink (hstraight _ List.prefix_rfl target)

theorem isSolid_of_follow {r : Route} (h : d.follow r = .ok place) : d.IsSolid place :=
  (leads_of_follow h).isSolid (.nil d)

theorem IsSolid.node?_way (h : d.IsSolid place) (hfolder : d.node? place = some .folder)
    {p : List String} (hp : p <+: place) : d.node? p = some .folder := by
  by_cases heq : p = place
  · rw [heq, hfolder]
  · exact h.folders p hp heq

/-- Where everything stood in a folder it does so after files of a folder have changed. -/
theorem Filing.isTree (h : Filing home names d d') (htree : d.IsTree) (hsolid : d'.IsSolid home)
    (hfolder : d'.node? home = some .folder) : d'.IsTree := by
  intro e he
  by_cases hnil : e.1 = []
  · rw [hnil]
    exact node?_nil d'
  · have hnode : d'.node? e.1 = some e.2 := by
      rw [node?_of_ne_nil hnil]
      exact OrdMap.find?_eq_some_iff.2 he
    rcases h.node e.1 with hsame | ⟨⟨name, -, hplace⟩, -⟩ | ⟨hway, -⟩
    · refine h.folder (htree.dropLast ?_)
      rw [← hsame, hnode]
      exact nofun
    · rw [hplace, List.dropLast_concat]
      exact hfolder
    · exact hsolid.node?_way hfolder ((List.dropLast_prefix _).trans hway)

/-! ## Storing files -/

/-- A later disk differs from an earlier one at most in files of a folder with certain names, and in
folders that were made on the way to it. Other folders have not changed since, and no file has got
another name. -/
structure Storing (home names : List String) (d d' : Disk) : Prop
    extends Filing home names d d' where
  parting : Parting d d'
  time : ∀ p, ¬ p <+: home → d'.folderTime p = d.folderTime p

namespace Storing

theorem refl (home names : List String) (d : Disk) : Storing home names d d :=
  ⟨.refl home names d, Change.Frame.refl d, fun _ _ => rfl⟩

theorem begun (home names : List String) (d : Disk) : Storing home names d d.begun :=
  ⟨.of_alike (alike_begun d), parting_begun d, fun _ _ => rfl⟩

theorem mono {more : List String} (h : Storing home names d d')
    (hnames : ∀ name ∈ names, name ∈ more) : Storing home more d d' :=
  ⟨h.toFiling.mono hnames, h.parting, h.time⟩

theorem trans {d'' : Disk} (h : Storing home names d d') (h' : Storing home names d' d'') :
    Storing home names d d'' :=
  ⟨h.toFiling.trans h'.toFiling, Change.Frame.trans h.parting h'.parting,
    fun p hp => (h'.time p hp).trans (h.time p hp)⟩

end Storing

/-! ## Folders behind links -/

/-- A way of names leads to a folder, through any links. In the folder no link stands, and no draft
that has another name. -/
structure Houses (way home : List String) (d : Disk) : Prop where
  follow : d.follow (Route.ofNames way) = .ok home
  folder : d.node? home = some .folder
  direct : ∀ name target, d.node? (home ++ [name]) ≠ some (.link target)
  drafts : ∀ name, d.IsSole (home ++ [Change.draftName name])

section

variable {way : List String} {name : String}

theorem walkWith_append {jump jump' : List String → List Step → Except IoError (List String)}
    {rest : List Step} {last : List String}
    (hjump : ∀ here steps, jump here steps = .ok home → jump' here (steps ++ rest) = .ok last)
    (hlast : ∀ jump, d.walkWith jump home rest = .ok last)
    (hwalk : d.walkWith jump here steps = .ok home) :
    d.walkWith jump' here (steps ++ rest) = .ok last := by
  induction steps generalizing here with
  | nil =>
    obtain rfl := Except.ok.inj hwalk
    exact hlast _
  | cons step steps ih =>
    obtain ⟨hfolder, hstep⟩ := walkWith_cons_iff.1 hwalk
    rw [List.cons_append]
    apply walkWith_cons_iff.2
    refine ⟨hfolder, ?_⟩
    rcases hstep with ⟨hidle, hsteps⟩ | ⟨rfl, hsteps⟩ | ⟨first, rfl, hsize, hdown⟩
    · exact .inl ⟨hidle, ih hsteps⟩
    · exact .inr (.inl ⟨rfl, ih hsteps⟩)
    · refine .inr (.inr ⟨first, rfl, hsize, ?_⟩)
      rcases hdown with ⟨target, hlink, hsteps⟩ | ⟨node, hnode, hdirect, hsteps⟩
      · refine .inl ⟨target, hlink, ?_⟩
        rw [← List.append_assoc]
        exact hjump _ _ hsteps
      · exact .inr ⟨node, hnode, hdirect, ih hsteps⟩

/-- A walk can go on as far as one can go on without links. -/
theorem walk_append {links : Nat} {rest : List Step} {last : List String}
    (hlast : ∀ jump, d.walkWith jump home rest = .ok last)
    (hwalk : d.walk links here steps = .ok home) :
    d.walk links here (steps ++ rest) = .ok last := by
  induction links generalizing here steps with
  | zero => exact walkWith_append (fun _ _ hjump => by cases hjump) hlast hwalk
  | succ links ih => exact walkWith_append (fun _ _ hjump => ih hjump) hlast hwalk

/-- A walk to a folder can go on to what stands there. -/
theorem walk_concat {links : Nat} {node : Node} (hfolder : d.node? home = some .folder)
    (hsize : name.utf8ByteSize ≤ maxNameSize) (hnode : d.node? (home ++ [name]) = some node)
    (hdirect : node.isLink = false) (hwalk : d.walk links here steps = .ok home) :
    d.walk links here (steps ++ [.down name]) = .ok (home ++ [name]) := by
  refine walk_append (fun jump => ?_) hwalk
  apply walkWith_cons_iff.2
  exact ⟨hfolder, .inr (.inr ⟨name, rfl, hsize, .inr ⟨node, hnode, hdirect, rfl⟩⟩)⟩

namespace Houses

theorem isSolid (h : Houses way home d) : d.IsSolid home := isSolid_of_follow h.follow

theorem of_storing (h : Houses way home d) (hstoring : Storing home names d d') :
    Houses way home d' := by
  have hfolder := hstoring.folder h.folder
  refine ⟨hstoring.follow ?_ h.follow, hfolder, fun name target hlink => ?_,
    fun name => hstoring.parting.isSole (h.drafts name)⟩
  · rw [hfolder]
    exact nofun
  · exact h.direct name target (hstoring.link_iff.1 hlink)

/-- Where everything stood in a folder it does so after files of the folder have changed. -/
theorem isTree (h : Houses way home d') (htree : d.IsTree) (hstoring : Storing home names d d') :
    d'.IsTree := hstoring.isTree htree h.isSolid h.folder

end Houses

/-- A disk differs at most in files of a folder with certain names from one where a way leads to the
folder. On the way to it folders may be missing, and no draft in the folder has another name. -/
structure Toward (way home names : List String) (goal d : Disk) : Prop where
  houses : Houses way home goal
  filing : Filing home names d goal
  drafts : ∀ name, d.IsSole (home ++ [Change.draftName name])

variable {goal : Disk}

namespace Toward

theorem refl (h : Houses way home d) : Toward way home names d d :=
  ⟨h, .refl home names d, h.drafts⟩

theorem begun (h : Toward way home names goal d) : Toward way home names goal d.begun :=
  ⟨h.houses, ⟨h.filing.node⟩, h.drafts⟩

theorem direct (h : Toward way home names goal d) (name target : String) :
    d.node? (home ++ [name]) ≠ some (.link target) := by
  intro hlink
  exact h.houses.direct name target (h.filing.link hlink)

/-- Where the way leads to a folder, it is the one. -/
theorem eq_of_way (h : Toward way home names goal d) (hway : d.Leads [] (Route.ofNames way) place)
    (hfolder : d.node? place = some .folder) : place = home := by
  have hgoal : goal.Leads [] (Route.ofNames way) place := by
    apply h.filing.leads hway
    rw [h.filing.folder hfolder]
    exact nofun
  exact (leads_of_follow h.houses.follow).unique hgoal

/-- A route to a name in the folder leads to what has the name. -/
theorem eq_of_follow (h : Toward way home names goal d)
    (hfollow : d.follow (Route.ofNames (way ++ [name])) = .ok place) : place = home ++ [name] := by
  rw [Route.ofNames_concat] at hfollow
  obtain ⟨middle, hmiddle, hlast⟩ := (leads_of_follow hfollow).split
  have hfolder : d.node? middle = some .folder := by
    by_contra hne
    exact absurd (hlast.eq_of_ne_folder hne).1 (by simp)
  obtain rfl := h.eq_of_way hmiddle hfolder
  rcases (leads_of_follow hfollow).concat_cases hmiddle with ⟨heq, -⟩ | ⟨target, hlink, -⟩
  · exact heq
  · exact absurd hlink (h.direct name target)

theorem eq_of_locate (h : Toward way home names goal d)
    (hlocate : d.locate (Route.ofNames (way ++ [name])) = .ok place) : place = home ++ [name] := by
  rw [Route.ofNames_concat] at hlocate
  obtain ⟨above, hway, hfolder, rfl⟩ := locate_concat hlocate
  rw [h.eq_of_way hway hfolder]

theorem eq_of_landing (h : Toward way home names goal d) {links : Nat}
    (hlanding : d.landing (Route.ofNames (way ++ [name])) links = .ok place) :
    place = home ++ [name] := by
  cases links with
  | zero => cases hlanding
  | succ links =>
    rw [landing] at hlanding
    simp only [bind, Except.bind] at hlanding
    split at hlanding
    · cases hlanding
    next located hlocate =>
      obtain rfl := h.eq_of_locate hlocate
      split at hlanding
      next target hlink => exact absurd hlink (h.direct name target)
      · exact (Except.ok.inj hlanding).symm

/-- What is read in the folder is the file with the name. -/
theorem node?_of_read (h : Toward way home names goal d) {content : Content}
    (hread : d.read (Route.ofNames (way ++ [name])) = .ok content) :
    d.follow (Route.ofNames (way ++ [name])) = .ok (home ++ [name]) ∧
      ∃ time, d.node? (home ++ [name]) = some (.file content time) := by
  obtain ⟨place, time, hfollow, hnode⟩ := follow_of_read hread
  obtain rfl := h.eq_of_follow hfollow
  exact ⟨hfollow, time, hnode⟩

/-- What is read in the folder is not changed with other files. -/
theorem read_of_filing (h : Toward way home names goal d) {files : List String}
    (hfiling : Filing home files d d') (hname : name ∉ files) {content : Content}
    (hread : d.read (Route.ofNames (way ++ [name])) = .ok content) :
    d'.read (Route.ofNames (way ++ [name])) = .ok content := by
  obtain ⟨hfollow, time, hnode⟩ := h.node?_of_read hread
  exact hfiling.read hfollow ((hfiling.node?_file hname).trans hnode)

/-- A file that has changed is loose. -/
theorem isLoose (h : Toward way home names goal d)
    (hfolder : d.node? (home ++ [name]) ≠ some .folder) :
    IsLoose (d.node? (home ++ [name])) ∧ IsLoose (goal.node? (home ++ [name])) := by
  have hloose : IsLoose (d.node? (home ++ [name])) := ⟨hfolder, h.direct name⟩
  rcases h.filing.node (home ++ [name]) with hsame | ⟨-, -, hloose'⟩ | ⟨hway, -⟩
  · exact ⟨hloose, hsame ▸ hloose⟩
  · exact ⟨hloose, hloose'⟩
  · exact absurd hway not_prefix_concat

/-- A file may come or go. -/
theorem of_file (h : Toward way home names goal d) (hname : name ∈ names)
    (hfolder : d.node? (home ++ [name]) ≠ some .folder)
    (hloose : IsLoose (d'.node? (home ++ [name])))
    (hother : ∀ p, p ≠ home ++ [name] → d'.node? p = d.node? p) (hparting : Parting d d')
    (htime : ∀ p, p ≠ home → d'.folderTime p = d.folderTime p) :
    Storing home names d d' ∧ Toward way home names goal d' := by
  obtain ⟨hold, hgoal⟩ := h.isLoose hfolder
  refine ⟨⟨.of_file hname hold hloose hother, hparting, fun p hp => htime p ?_⟩, h.houses,
    h.filing.of_other hname hloose hgoal hother, fun other => hparting.isSole (h.drafts other)⟩
  rintro rfl
  exact hp List.prefix_rfl

theorem written (h : Toward way home names goal d) (hname : Change.draftName name ∈ names)
    (hfolder : d.node? (home ++ [Change.draftName name]) ≠ some .folder) (content : Content)
    (time : Int) :
    let d' := d.written (home ++ [Change.draftName name]) (.file content time)
    Storing home names d d' ∧ Toward way home names goal d' := by
  intro d'
  have hplace : home ++ [Change.draftName name] ≠ [] := by simp
  have hnode := node?_written_of_isSole hplace (h.drafts name) (.file content time)
  refine h.of_file hname hfolder ?_ (fun p hp => ?_) (parting_written hplace (h.drafts name) _)
    fun p hp => folderTime_written (by simpa using hp) _
  · rw [hnode, if_pos rfl]
    exact ⟨nofun, nofun⟩
  · rw [hnode, if_neg hp]

theorem removed (h : Toward way home names goal d) (hname : name ∈ names)
    (hfolder : d.node? (home ++ [name]) ≠ some .folder) :
    Storing home names d (d.removed (home ++ [name])) ∧
      Toward way home names goal (d.removed (home ++ [name])) := by
  have hplace : home ++ [name] ≠ [] := by simp
  have hnode := node?_removed (d := d) hplace
  refine h.of_file hname hfolder ?_ (fun p hp => ?_) (parting_removed hplace)
    fun p hp => folderTime_removed (by simpa using hp)
  · rw [hnode, if_pos rfl]
    exact ⟨nofun, nofun⟩
  · rw [hnode, if_neg hp]

/-- A file of the folder may be moved over another. -/
theorem moved {draft : String} (h : Toward way home names goal d) (hname : name ∈ names)
    (hdraft : draft ∈ names) (hsole : d.IsSole (home ++ [draft])) {content : Content} {time : Int}
    (hfile : d.node? (home ++ [draft]) = some (.file content time))
    (hfolder : d.node? (home ++ [name]) ≠ some .folder) :
    let d' := d.moved (home ++ [draft]) (home ++ [name]) (.file content time)
    (Storing home names d d' ∧ Toward way home names goal d') ∧
      d'.node? (home ++ [name]) = some (.file content time) := by
  intro d'
  by_cases hsame : home ++ [draft] = home ++ [name]
  · have hd' : d' = d := moved_of_same (.inl hsame) _
    rw [hd', ← hsame]
    exact ⟨⟨.refl home names d, h⟩, hfile⟩
  have hnode := node?_moved (d := d) (by simp) (by simp)
    (by simp [hsame, hsole.isTwin] : ¬ (home ++ [draft] = home ++ [name] ∨
      d.isTwin (home ++ [draft]) (home ++ [name]) = true)) (.file content time)
  have hparting : Parting d d' := parting_moved (by simp) (by simp) hsole hfile
  have hnew : d'.node? (home ++ [name]) = some (.file content time) := by rw [hnode, if_pos rfl]
  have hloose : IsLoose (d'.node? (home ++ [name])) := by
    rw [hnew]
    exact ⟨nofun, nofun⟩
  -- The draft goes, and then the file comes.
  obtain ⟨hgone, hleft⟩ := h.removed hdraft (by rw [hfile]; exact nofun)
  have hother : ∀ p, p ≠ home ++ [name] → d'.node? p = (d.removed (home ++ [draft])).node? p := by
    intro p hp
    rw [hnode, node?_removed (by simp), if_neg hp]
  obtain ⟨hfree, hgoal⟩ := hleft.isLoose (by
    rw [node?_removed (by simp), if_neg (Ne.symm hsame)]
    exact hfolder)
  refine ⟨⟨⟨hgone.toFiling.trans (.of_file hname hfree hloose hother), hparting, fun p hp => ?_⟩,
    h.houses, hleft.filing.of_other hname hloose hgoal hother,
    fun other => hparting.isSole (h.drafts other)⟩, hnew⟩
  have hne : p ≠ home := by
    rintro rfl
    exact hp List.prefix_rfl
  exact folderTime_moved (by simpa using hne) (by simpa using hne) _

/-- What is missing on the way is a folder on the disk to come, for the way goes through it. -/
theorem folder_of_missing {first last : List String}
    (h : Toward (first ++ last) home names goal d)
    (hlocate : d.locate (Route.ofNames first) = .ok place) (hnone : d.node? place = none) :
    goal.node? place = some .folder ∧ place <+: home := by
  have hway := leads_of_follow h.houses.follow
  rw [Route.ofNames, List.map_append] at hway
  obtain ⟨middle, hmiddle, hlast⟩ := hway.split
  have hfolder : goal.node? middle = some .folder := by
    by_contra hne
    obtain ⟨-, rfl⟩ := hlast.eq_of_ne_folder hne
    exact hne h.houses.folder
  have hplace : middle = place := by
    rcases List.eq_nil_or_concat first with rfl | ⟨base, name, rfl⟩
    · obtain rfl := Except.ok.inj hlocate
      rw [node?_nil] at hnone
      cases hnone
    rw [List.concat_eq_append, Route.ofNames_concat] at hlocate
    rw [List.concat_eq_append, ← Route.ofNames, Route.ofNames_concat] at hmiddle
    obtain ⟨above, hbase, habove, rfl⟩ := locate_concat hlocate
    have hgoal : goal.Leads [] (Route.ofNames base) above := by
      apply h.filing.leads hbase
      rw [h.filing.folder habove]
      exact Option.some_ne_none _
    rcases hmiddle.concat_cases hgoal with ⟨heq, -⟩ | ⟨target, hlink, -⟩
    · exact heq
    · rw [h.filing.link_iff, hnone] at hlink
      cases hlink
  subst hplace
  refine ⟨hfolder, ?_⟩
  rcases h.filing.node middle with hsame | ⟨-, -, hloose⟩ | ⟨hhome, -⟩
  · rw [hsame, hnone] at hfolder
    cases hfolder
  · exact absurd hfolder hloose.1
  · exact hhome

/-- A folder that the disk to come has may be made. -/
theorem founded (h : Toward way home names goal d) (hnone : d.node? place = none)
    (hfolder : goal.node? place = some .folder) (hhome : place <+: home) :
    Storing home names d (d.founded place) ∧ Toward way home names goal (d.founded place) := by
  have hne : place ≠ [] := ne_nil_of_ne_folder (hnone.trans_ne nofun)
  have hnode := node?_founded (d := d) hne
  have hparting : Parting d (d.founded place) := parting_founded hne
  refine ⟨⟨⟨fun p => ?_⟩, hparting, fun p hp => ?_⟩, h.houses, ⟨fun p => ?_⟩,
    fun name => hparting.isSole (h.drafts name)⟩
  · rw [hnode]
    split
    next heq => exact .inr (.inr ⟨heq ▸ hhome, heq ▸ hnone, rfl⟩)
    next => exact .inl rfl
  · obtain ⟨hplace, hparent⟩ := ne_dropLast_of_not_prefix hhome hp
    exact folderTime_founded hplace hparent
  · rw [hnode]
    split
    next heq => exact .inl (heq ▸ hfolder)
    next => exact h.filing.node p

end Toward

/-! ## Folders on the way -/

theorem accept_of_follow {r : Route} (h : d.follow r = .ok place) :
    accept r = .ok () ∧ d.walk maxLinks [] r = .ok place := by
  rw [Disk.follow] at h
  cases haccept : accept r with
  | error e =>
    rw [haccept] at h
    cases h
  | ok _ =>
    rw [haccept] at h
    exact ⟨rfl, h⟩

/-- Where a name can be given, the way to it leads to a folder. -/
theorem folder_of_locate (h : d.locate (Route.ofNames (way ++ [name])) = .ok place) :
    accept (Route.ofNames (way ++ [name])) = .ok () ∧ name.utf8ByteSize ≤ maxNameSize ∧
      ∃ home, d.follow (Route.ofNames way) = .ok home ∧ d.node? home = some .folder := by
  rw [Route.ofNames_concat] at h ⊢
  obtain ⟨haccept, hsize, home, hfollow, hfolder, -⟩ := follow_of_locate h
  rw [Route.trimmed_ofNames] at hfollow
  exact ⟨haccept, hsize, home, hfollow, hfolder⟩

/-- What stands in a folder is read along the way to the folder. -/
theorem read_concat {base : Route} {content : Content} {time : Int}
    (haccept : accept (base ++ [.down name]) = .ok ()) (hsize : name.utf8ByteSize ≤ maxNameSize)
    (hfollow : d.follow base = .ok home) (hfolder : d.node? home = some .folder)
    (hnode : d.node? (home ++ [name]) = some (.file content time)) :
    d.read (base ++ [.down name]) = .ok content := by
  refine read_of_follow ?_ hnode
  rw [Disk.follow, haccept]
  exact walk_concat hfolder hsize hnode rfl (accept_of_follow hfollow).2

/-- Folders that were made on a way are on the way to its end. -/
theorem Founding.filing (h : Founding (Route.ofNames way) d d') (htree : d.IsTree)
    (hway : d'.Leads [] (Route.ofNames way) home) : Filing home names d d' := by
  refine ⟨fun p => ?_⟩
  rcases h p with hsame | ⟨hnone, hmade, part, hpart, hfirst⟩
  · exact .inl hsame
  · right
    right
    obtain ⟨first, ⟨rest, rfl⟩, rfl⟩ := List.prefix_map_iff.1 hpart
    rw [Route.ofNames, List.map_append] at hway
    obtain ⟨middle, hmiddle, hrest⟩ := hway.split
    obtain rfl := hfirst.unique hmiddle
    obtain ⟨hp, -⟩ := h.below htree (Route.up_not_mem_ofNames rest) hnone hrest
    exact ⟨hp, hnone, hmade⟩

theorem IsTree.node?_of_prefix (h : d.IsTree) (hplace : d.node? place ≠ none) {p : List String}
    (hp : p <+: place) : d.node? p ≠ none := by
  by_cases heq : p = place
  · rwa [heq]
  · rw [h.folder hplace hp heq]
    exact nofun

/-- Folders that were made on a way end in a folder without links, if there was none with links, and
likewise for drafts with other names. -/
theorem Founding.toward (h : Founding (Route.ofNames way) d d') (hparting : Parting d d')
    (htree : d.IsTree) (hdirect : ∀ home, d.Leads [] (Route.ofNames way) home → ∀ name,
      (∀ target, d.node? (home ++ [name]) ≠ some (.link target)) ∧
        d.IsSole (home ++ [Change.draftName name]))
    (hfollow : d'.follow (Route.ofNames way) = .ok home) (hfolder : d'.node? home = some .folder) :
    Toward way home names d' d := by
  have hfiling : ∀ names, Filing home names d d' := fun names =>
    h.filing htree (leads_of_follow hfollow)
  have hold : ∀ name, (∀ target, d.node? (home ++ [name]) ≠ some (.link target)) ∧
      d.IsSole (home ++ [Change.draftName name]) := by
    intro name
    by_cases hhome : d.node? home = none
    · exact ⟨fun target => (htree.eq_none hhome).trans_ne nofun,
        isSole_of_node?_eq_none (htree.eq_none hhome)⟩
    · -- Then the whole way was there.
      have halike : Alike d d' := by
        intro p
        rcases (hfiling []).node p with hsame | ⟨⟨_, hmem, -⟩, -⟩ | ⟨hp, hnone, -⟩
        · exact hsame
        · cases hmem
        · exact absurd hnone (htree.node?_of_prefix hhome hp)
      exact hdirect home (halike.symm.sustains.leads (leads_of_follow hfollow)) name
  exact ⟨⟨hfollow, hfolder, fun name target hlink => (hold name).1 target
    ((hfiling []).link_iff.1 hlink), fun name => hparting.isSole (hold name).2⟩, hfiling names,
    fun name => (hold name).2⟩

/-! ## Writing into the folder -/

/-- From a disk that can come to be like another one, only files in a folder and folders on the way
to it change, and it can still come to be like that. -/
def Tending (way home names : List String) (goal d d' : Disk) : Prop :=
  Toward way home names goal d → Storing home names d d' ∧ Toward way home names goal d'

instance : Change.Frame (Tending way home names goal) where
  refl d h := ⟨.refl home names d, h⟩
  trans h h' hd := by
    obtain ⟨hfirst, hm⟩ := h hd
    obtain ⟨hsecond, hlast⟩ := h' hm
    exact ⟨hfirst.trans hsecond, hlast⟩
  faults d _ h := ⟨⟨.of_alike fun _ => rfl, fun _ _ => id, fun _ _ => rfl⟩, h.houses,
    ⟨h.filing.node⟩, h.drafts⟩

namespace Change

variable {now : UInt64} {v : Json}

/-- A folder is made on the way only where it is missing. -/
theorem keeps_tending_makeFolder {part : Route} (hpart : part <+: Route.ofNames way) :
    Keeps (Tending way home names goal) (makeFolder part) := by
  refine keeps_of_founded fun d place hlocate hnone h => ?_
  obtain ⟨first, ⟨last, rfl⟩, rfl⟩ := List.prefix_map_iff.1 hpart
  obtain ⟨hfolder, hhome⟩ := h.folder_of_missing hlocate hnone
  exact h.founded hnone hfolder hhome

theorem keeps_tending_makeFolders :
    Keeps (Tending way home names goal) (makeFolders (Route.ofNames way)) := by
  refine .makeFoldersUpTo fun r hr => ?_
  rw [List.reverse_reverse] at hr
  exact keeps_tending_makeFolder hr

theorem keeps_tending_writeFile (hname : draftName name ∈ names) (text : String) (now : UInt64) :
    Keeps (Tending way home names goal)
      (writeFile (Route.ofNames (way ++ [draftName name])) text now) := by
  refine keeps_of_written fun d place kept hplace hfolder h => ?_
  obtain rfl := h.eq_of_landing hplace
  exact h.written hname hfolder _ _

theorem keeps_tending_removeFile (hname : name ∈ names) :
    Keeps (Tending way home names goal) (removeFile (Route.ofNames (way ++ [name]))) := by
  refine keeps_of_removed fun d place node hlocate hnode hfolder h => ?_
  obtain rfl := h.eq_of_locate hlocate
  exact h.removed hname (hnode.trans_ne (by simpa using hfolder))

theorem exists_file_of_writeFile (h : Toward way home names goal d) {text : String}
    (hrun : writeFile (Route.ofNames (way ++ [name])) text now d = .ok () d') :
    ∃ time, d'.node? (home ++ [name]) = some (.file (.text text) time) := by
  obtain ⟨place, hlanding, -, rfl⟩ := written_of_writeFile hrun
  obtain rfl := h.begun.eq_of_landing hlanding
  exact ⟨_, (node?_written (by simp) _ _).trans (if_pos (.inl rfl))⟩

/-- A draft that is moved over a neighbour can be read there. -/
theorem tending_of_rename (h : Toward way home names goal d) (hname : name ∈ names)
    (hdraft : draftName name ∈ names) {content : Content} {time : Int}
    (hfile : d.node? (home ++ [draftName name]) = some (.file content time))
    (hrun : rename (Route.ofNames (way ++ [draftName name])) (Route.ofNames (way ++ [name])) d =
      .ok () d') :
    (Storing home names d d' ∧ Toward way home names goal d') ∧
      d'.read (Route.ofNames (way ++ [name])) = .ok content := by
  obtain ⟨source, target, node, hsource, htarget, hnode, hfolder, rfl⟩ := moved_of_rename hrun
  have hm := h.begun
  obtain rfl := hm.eq_of_locate hsource
  obtain rfl := hm.eq_of_locate htarget
  obtain rfl : node = .file content time := Option.some.inj (hnode.symm.trans hfile)
  obtain ⟨⟨hmoved, hlast⟩, hread⟩ := hm.moved hname hdraft (hm.drafts name) hfile hfolder
  refine ⟨⟨(Storing.begun home names d).trans hmoved, hlast⟩, ?_⟩
  obtain ⟨haccept, hsize, above, hfollow, habove⟩ := folder_of_locate htarget
  obtain rfl := hm.eq_of_way (leads_of_follow hfollow) habove
  obtain ⟨hway, hstays⟩ := hmoved.follow_folder hfollow habove
  rw [Route.ofNames_concat] at haccept ⊢
  exact read_concat haccept hsize hway hstays hread

/-- A record that is drafted and moved to its place can be read there. -/
theorem tending_of_draft (h : Toward way home names goal d) (hname : name ∈ names)
    (hdraft : draftName name ∈ names) (hrun : (do
      writeFile (Route.ofNames (way ++ [draftName name])) v.pretty now
      rename (Route.ofNames (way ++ [draftName name])) (Route.ofNames (way ++ [name])) :
        Change Unit) d = .ok () d') :
    (Storing home names d d' ∧ Toward way home names goal d') ∧
      d'.read (Route.ofNames (way ++ [name])) = .ok (.text v.pretty) := by
  obtain ⟨_, m, hwrite, hrename⟩ := bind_eq_ok.1 hrun
  obtain ⟨hdrafted, hm⟩ := (keeps_tending_writeFile hdraft _ _).of_ok hwrite h
  obtain ⟨time, hfile⟩ := exists_file_of_writeFile h hwrite
  obtain ⟨⟨hmoved, hlast⟩, hread⟩ := tending_of_rename hm hname hdraft hfile hrename
  exact ⟨⟨hdrafted.trans hmoved, hlast⟩, hread⟩

theorem tending_of_writeRecord (h : Toward way home names goal d)
    (hdotted : Route.isDotted name = false) (hname : name ∈ names) (hdraft : draftName name ∈ names)
    (hrun : writeRecord (Route.ofNames (way ++ [name])) v now d = .ok () d') :
    (Storing home names d d' ∧ Toward way home names goal d') ∧
      d'.read (Route.ofNames (way ++ [name])) = .ok (.text v.pretty) := by
  rw [writeRecord, Route.parent_ofNames, draftRoute_ofNames hdotted] at hrun
  obtain ⟨_, m, hfolders, hrun⟩ := bind_eq_ok.1 hrun
  obtain ⟨hmade, hm⟩ := keeps_tending_makeFolders.of_ok hfolders h
  obtain ⟨⟨hwritten, hlast⟩, hread⟩ := tending_of_draft hm hname hdraft hrun
  exact ⟨⟨hmade.trans hwritten, hlast⟩, hread⟩

/-- A record that cannot be written leaves all but its draft as it is. -/
theorem tending_of_failed_writeRecord {e : IoError} (h : Toward way home names goal d)
    (hdotted : Route.isDotted name = false) (hdraft : draftName name ∈ names)
    (hrun : writeRecord (Route.ofNames (way ++ [name])) v now d = .error e d') :
    Storing home names d d' ∧ Toward way home names goal d' := by
  rw [writeRecord, Route.parent_ofNames, draftRoute_ofNames hdotted] at hrun
  have hfolders : Keeps (Tending way home names goal) (makeFolders (Route.ofNames way)) :=
    keeps_tending_makeFolders
  have hwrite : Keeps (Tending way home names goal)
      (writeFile (Route.ofNames (way ++ [draftName name])) v.pretty now) :=
    keeps_tending_writeFile hdraft _ _
  have htending : Tending way home names goal d d' := by
    rcases bind_eq_error.1 hrun with hfailed | ⟨_, m, hmade, hrun⟩
    · exact hfolders.of_error hfailed
    apply Frame.trans (hfolders.of_ok hmade)
    rcases bind_eq_error.1 hrun with hfailed | ⟨_, m', hwritten, hrename⟩
    · exact hwrite.of_error hfailed
    · exact Frame.trans (hwrite.of_ok hwritten) (rename_error hrename)
  exact htending h

theorem keeps_tending_writeRecord (hdotted : Route.isDotted name = false) (hname : name ∈ names)
    (hdraft : draftName name ∈ names) (v : Json) (now : UInt64) :
    Keeps (Tending way home names goal) (writeRecord (Route.ofNames (way ++ [name])) v now) := by
  intro d h
  cases hrun : writeRecord (Route.ofNames (way ++ [name])) v now d with
  | ok _ d' =>
    rw [diskAfter_of_ok hrun]
    exact (tending_of_writeRecord h hdotted hname hdraft hrun).1
  | error e d' =>
    rw [diskAfter_of_error hrun]
    exact tending_of_failed_writeRecord h hdotted hdraft hrun

theorem keeps_parting_makeFolders (r : Route) : Keeps Parting (makeFolders r) :=
  .makeFoldersUpTo fun _ _ => keeps_of_founded fun _ _ _ hnone =>
    parting_founded (ne_nil_of_ne_folder (hnone.trans_ne nofun))

/-- The first record in a folder: folders may have to be made for it. -/
theorem storing_of_first_writeRecord (htree : d.IsTree)
    (hdirect : ∀ home, d.Leads [] (Route.ofNames way) home → ∀ name,
      (∀ target, d.node? (home ++ [name]) ≠ some (.link target)) ∧
        d.IsSole (home ++ [Change.draftName name]))
    (hdotted : Route.isDotted name = false)
    (hrun : writeRecord (Route.ofNames (way ++ [name])) v now d = .ok () d') :
    ∃ home, Houses way home d' ∧ Storing home [name, draftName name] d d' ∧
      d'.read (Route.ofNames (way ++ [name])) = .ok (.text v.pretty) := by
  rw [writeRecord, Route.parent_ofNames, draftRoute_ofNames hdotted] at hrun
  obtain ⟨_, m, hfolders, hrun⟩ := bind_eq_ok.1 hrun
  obtain ⟨_, m', hwrite, -⟩ := bind_eq_ok.1 hrun
  obtain ⟨place, hlanding, -⟩ := written_of_writeFile hwrite
  obtain ⟨located, hlocate⟩ : ∃ located,
      m.begun.locate (Route.ofNames (way ++ [draftName name])) = .ok located := by
    rw [maxLinks, landing] at hlanding
    cases hlocate : m.begun.locate (Route.ofNames (way ++ [draftName name])) with
    | ok located => exact ⟨located, rfl⟩
    | error e =>
      rw [hlocate] at hlanding
      cases hlanding
  rw [locate_begun] at hlocate
  obtain ⟨-, -, home, hfollow, hfolder⟩ := folder_of_locate hlocate
  -- With the folders the way leads to the folder where the record comes to stand.
  have htoward : Toward way home [name, draftName name] m d :=
    ((keeps_founding_makeFolders _).of_ok hfolders).toward
      ((keeps_parting_makeFolders _).of_ok hfolders) htree hdirect hfollow hfolder
  obtain ⟨hmade, -⟩ := keeps_tending_makeFolders.of_ok hfolders htoward
  obtain ⟨⟨hwritten, -⟩, hread⟩ := tending_of_draft (.refl htoward.houses) (List.mem_cons_self)
    (List.mem_cons_of_mem _ List.mem_cons_self) hrun
  exact ⟨home, htoward.houses.of_storing hwritten, hmade.trans hwritten, hread⟩

end Change

end

end Gazetteer.Disk
