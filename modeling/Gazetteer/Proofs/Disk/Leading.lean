import Gazetteer.Proofs.Disk.Way

/-!
# Where routes lead

A route leads to one place at most, whatever links it goes through. Walking it finds that place, if
there are not too many links. Here nothing is asked of the disk, so links may stand anywhere, also
on the way to a folder or in it.
-/

namespace Gazetteer.Disk

/-- Steps lead from a place to a place, through any number of links. -/
inductive Leads (d : Disk) : List String → List Step → List String → Prop
  | done {here} : Leads d here [] here
  | idle {here step rest place} (folder : d.node? here = some .folder)
    (idle : step.isIdle = true) (onward : Leads d here rest place) :
    Leads d here (step :: rest) place
  | up {here rest place} (folder : d.node? here = some .folder)
    (onward : Leads d here.dropLast rest place) : Leads d here (.up :: rest) place
  | down {here name rest place node} (folder : d.node? here = some .folder)
    (stands : d.node? (here ++ [name]) = some node) (direct : node.isLink = false)
    (onward : Leads d (here ++ [name]) rest place) : Leads d here (.down name :: rest) place
  | jump {here name target rest place} (folder : d.node? here = some .folder)
    (stands : d.node? (here ++ [name]) = some (.link target))
    (onward : Leads d [] (Route.join (.ofNames here) target ++ rest) place) :
    Leads d here (.down name :: rest) place

variable {d d' : Disk} {here place : List String} {steps rest : List Step}

/-! ## Walking -/

/-- A walk goes on from a folder only: it stays there, goes up, follows a link or goes down. -/
theorem walkWith_cons_iff {jump : List String → List Step → Except IoError (List String)}
    {step : Step} : d.walkWith jump here (step :: rest) = .ok place ↔
      d.node? here = some .folder ∧
        (step.isIdle = true ∧ d.walkWith jump here rest = .ok place ∨
        step = .up ∧ d.walkWith jump here.dropLast rest = .ok place ∨
        ∃ name, step = .down name ∧ name.utf8ByteSize ≤ maxNameSize ∧
          ((∃ target, d.node? (here ++ [name]) = some (.link target) ∧
            jump here (Route.join (.ofNames here) target ++ rest) = .ok place) ∨
          ∃ node, d.node? (here ++ [name]) = some node ∧ node.isLink = false ∧
            d.walkWith jump (here ++ [name]) rest = .ok place)) := by
  by_cases hfolder : d.node? here = some .folder
  · cases step with
    | here => simp [walkWith, hfolder, Step.isIdle]
    | blank => simp [walkWith, hfolder, Step.isIdle]
    | up => simp [walkWith, hfolder, Step.isIdle]
    | down name =>
      by_cases hsize : maxNameSize < name.utf8ByteSize
      · simp [walkWith, hfolder, Step.isIdle, hsize, Nat.not_le.2 hsize]
      · have hle : name.utf8ByteSize ≤ maxNameSize := Nat.le_of_not_lt hsize
        cases hnode : d.node? (here ++ [name]) with
        | none => simp [walkWith, hfolder, Step.isIdle, hsize, hnode]
        | some node =>
          cases node <;> simp [walkWith, hfolder, Step.isIdle, hsize, hle, hnode, Node.isLink]
  · cases step <;> simp [walkWith, hfolder]

theorem leads_of_walkWith {jump : List String → List Step → Except IoError (List String)}
    (hjump : ∀ here steps place, jump here steps = .ok place → d.Leads [] steps place)
    (h : d.walkWith jump here steps = .ok place) : d.Leads here steps place := by
  induction steps generalizing here with
  | nil =>
    obtain rfl := Except.ok.inj h
    exact .done
  | cons step rest ih =>
    obtain ⟨hfolder, hstep⟩ := walkWith_cons_iff.1 h
    rcases hstep with ⟨hidle, hrest⟩ | ⟨rfl, hrest⟩ | ⟨name, rfl, -, hdown⟩
    · exact .idle hfolder hidle (ih hrest)
    · exact .up hfolder (ih hrest)
    · rcases hdown with ⟨target, hlink, hrest⟩ | ⟨node, hnode, hdirect, hrest⟩
      · exact .jump hfolder hlink (hjump _ _ _ hrest)
      · exact .down hfolder hnode hdirect (ih hrest)

theorem leads_of_walk {links : Nat} (h : d.walk links here steps = .ok place) :
    d.Leads here steps place := by
  induction links generalizing here steps place with
  | zero => exact leads_of_walkWith (fun _ _ _ hjump => by cases hjump) h
  | succ links ih => exact leads_of_walkWith (fun _ _ _ hjump => ih hjump) h

theorem leads_of_follow {r : Route} (h : d.follow r = .ok place) : d.Leads [] r place := by
  rw [follow] at h
  cases haccept : accept r with
  | error e =>
    rw [haccept] at h
    cases h
  | ok _ =>
    rw [haccept] at h
    exact leads_of_walk h

theorem follow_of_status {r : Route} {node : Node} (h : d.status r = .ok node) :
    ∃ place, d.follow r = .ok place ∧ d.node? place = some node := by
  rw [status] at h
  cases hfollow : d.follow r with
  | error e =>
    rw [hfollow] at h
    cases h
  | ok place =>
    rw [hfollow] at h
    simp only [bind, Except.bind] at h
    cases hnode : d.node? place with
    | none =>
      rw [hnode] at h
      cases h
    | some found =>
      rw [hnode] at h
      exact ⟨place, rfl, by rw [hnode, Except.ok.inj h]⟩

/-- The time of a file, or of the folder that stands at the end of a straight way. -/
theorem modified_ofNames {names : List String} (h : d.Straight names) :
    d.modified (Route.ofNames names) = (d.status (Route.ofNames names)).map fun
      | .file _ time => milliseconds time
      | _ => milliseconds (d.folderTime names) := by
  unfold modified
  cases hstatus : d.status (Route.ofNames names) with
  | error e => rfl
  | ok node =>
    obtain ⟨place, hfollow, -⟩ := follow_of_status hstatus
    obtain rfl := follow_ofNames h hfollow
    cases node with
    | file content time => rfl
    | folder | link => simp [hfollow, bind, Except.bind, Except.map]

theorem isPresent_of_follow {r : Route} (h : d.follow r = .ok place) :
    d.isPresent r = true ↔ d.node? place ≠ none := by
  unfold isPresent status
  rw [h]
  simp only [bind, Except.bind]
  cases d.node? place <;> simp [Except.toBool]

/-- What is read along a route stands at the place that it leads to. -/
theorem follow_of_read {r : Route} {content : Content} (h : d.read r = .ok content) :
    ∃ place time, d.follow r = .ok place ∧ d.node? place = some (.file content time) := by
  rw [read] at h
  cases hstatus : d.status r with
  | error e =>
    rw [hstatus] at h
    cases h
  | ok node =>
    rw [hstatus] at h
    obtain ⟨place, hfollow, hnode⟩ := follow_of_status hstatus
    cases node with
    | file held time =>
      obtain rfl := Except.ok.inj h
      exact ⟨place, time, hfollow, hnode⟩
    | folder => cases h
    | link target => cases h

theorem read_of_follow {r : Route} {content : Content} {time : Int} (h : d.follow r = .ok place)
    (hnode : d.node? place = some (.file content time)) : d.read r = .ok content := by
  rw [read, status, h]
  simp only [bind, Except.bind, hnode]

namespace Leads

/-! ## Parts of a route -/

theorem append (h : d.Leads here steps place) {more : List Step} {last : List String}
    (h' : d.Leads place more last) : d.Leads here (steps ++ more) last := by
  induction h with
  | done => exact h'
  | idle hfolder hidle _ ih => exact .idle hfolder hidle (ih h')
  | up hfolder _ ih => exact .up hfolder (ih h')
  | down hfolder hnode hdirect _ ih => exact .down hfolder hnode hdirect (ih h')
  | jump hfolder hnode _ ih =>
    have honward := ih h'
    rw [List.append_assoc] at honward
    exact .jump hfolder hnode honward

/-- A route leads along its first part and from there along the rest. -/
theorem split (h : d.Leads here (steps ++ rest) place) :
    ∃ middle, d.Leads here steps middle ∧ d.Leads middle rest place := by
  generalize hall : steps ++ rest = all at h
  induction h generalizing steps with
  | done =>
    obtain ⟨rfl, rfl⟩ := List.append_eq_nil_iff.1 hall
    exact ⟨_, .done, .done⟩
  | @idle here step tail place hfolder hidle honward ih =>
    cases steps with
    | nil =>
      subst hall
      exact ⟨here, .done, .idle hfolder hidle honward⟩
    | cons first steps =>
      obtain ⟨rfl, rfl⟩ := List.cons.inj hall
      obtain ⟨middle, hfirst, hrest⟩ := ih rfl
      exact ⟨middle, .idle hfolder hidle hfirst, hrest⟩
  | @up here tail place hfolder honward ih =>
    cases steps with
    | nil =>
      subst hall
      exact ⟨here, .done, .up hfolder honward⟩
    | cons first steps =>
      obtain ⟨rfl, rfl⟩ := List.cons.inj hall
      obtain ⟨middle, hfirst, hrest⟩ := ih rfl
      exact ⟨middle, .up hfolder hfirst, hrest⟩
  | @down here name tail place node hfolder hnode hdirect honward ih =>
    cases steps with
    | nil =>
      subst hall
      exact ⟨here, .done, .down hfolder hnode hdirect honward⟩
    | cons first steps =>
      obtain ⟨rfl, rfl⟩ := List.cons.inj hall
      obtain ⟨middle, hfirst, hrest⟩ := ih rfl
      exact ⟨middle, .down hfolder hnode hdirect hfirst, hrest⟩
  | @jump here name target tail place hfolder hnode honward ih =>
    cases steps with
    | nil =>
      subst hall
      exact ⟨here, .done, .jump hfolder hnode honward⟩
    | cons first steps =>
      obtain ⟨rfl, rfl⟩ := List.cons.inj hall
      -- The target of the link takes the place of the step to it.
      obtain ⟨middle, hfirst, hrest⟩ := ih (List.append_assoc ..)
      exact ⟨middle, .jump hfolder hnode hfirst, hrest⟩

theorem idles (hfolder : d.node? here = some .folder) (hidle : ∀ step ∈ steps, step.isIdle = true) :
    d.Leads here steps here := by
  induction steps with
  | nil => exact .done
  | cons step steps ih =>
    have hrest := ih fun s hs => hidle s (List.mem_cons_of_mem _ hs)
    exact .idle hfolder (hidle step List.mem_cons_self) hrest

/-- From what is no folder nothing leads on. -/
theorem eq_of_ne_folder (h : d.Leads here steps place) (hne : d.node? here ≠ some .folder) :
    steps = [] ∧ place = here := by
  cases h with
  | done => exact ⟨rfl, rfl⟩
  | idle hfolder => exact absurd hfolder hne
  | up hfolder => exact absurd hfolder hne
  | down hfolder => exact absurd hfolder hne
  | jump hfolder => exact absurd hfolder hne

theorem unique (h : d.Leads here steps place) {other : List String}
    (h' : d.Leads here steps other) : other = place := by
  induction h with
  | done =>
    cases h' with
    | done => rfl
  | idle hfolder hidle _ ih =>
    cases h' with
    | idle _ _ honward => exact ih honward
    | up => cases hidle
    | down => cases hidle
    | jump => cases hidle
  | up hfolder _ ih =>
    cases h' with
    | idle _ hidle => cases hidle
    | up _ honward => exact ih honward
  | down hfolder hnode hdirect _ ih =>
    cases h' with
    | idle _ hidle => cases hidle
    | down _ _ _ honward => exact ih honward
    | jump _ hlink =>
      rw [hnode] at hlink
      cases hlink
      cases hdirect
  | jump hfolder hnode _ ih =>
    cases h' with
    | idle _ hidle => cases hidle
    | down _ hother hdirect =>
      rw [hnode] at hother
      cases hother
      cases hdirect
    | jump _ hother honward =>
      rw [hnode] at hother
      cases hother
      exact ih honward

end Leads

/-! ## Other disks -/

/-- Whether folders and links stand on a later disk where they stood, and files where files stood.
-/
structure Sustains (d d' : Disk) : Prop where
  folder : ∀ p, d.node? p = some .folder → d'.node? p = some .folder
  link : ∀ p target, d.node? p = some (.link target) → d'.node? p = some (.link target)
  file : ∀ p content time, d.node? p = some (.file content time) →
    ∃ content' time', d'.node? p = some (.file content' time')

theorem Sustains.leads (hd : Sustains d d') (h : d.Leads here steps place) :
    d'.Leads here steps place := by
  induction h with
  | done => exact .done
  | idle hfolder hidle _ ih => exact .idle (hd.folder _ hfolder) hidle ih
  | up hfolder _ ih => exact .up (hd.folder _ hfolder) ih
  | @down here name rest place node hfolder hnode hdirect _ ih =>
    cases node with
    | file content time =>
      obtain ⟨content', time', hfile⟩ := hd.file _ content time hnode
      exact .down (hd.folder _ hfolder) hfile rfl ih
    | folder => exact .down (hd.folder _ hfolder) (hd.folder _ hnode) rfl ih
    | link target => cases hdirect
  | jump hfolder hnode _ ih => exact .jump (hd.folder _ hfolder) (hd.link _ _ hnode) ih

/-- Whether a later disk has nothing that an earlier one had not, apart from files at certain
places. -/
def AddsAt (added : List String → Prop) (d d' : Disk) : Prop :=
  ∀ p, d'.node? p = d.node? p ∨ d'.node? p = none ∨
    added p ∧ ∃ content time, d'.node? p = some (.file content time)

section

variable {added : List String → Prop}

theorem AddsAt.folder (h : AddsAt added d d') {p : List String}
    (hfolder : d'.node? p = some .folder) : d.node? p = some .folder := by
  rcases h p with hsame | hnone | ⟨-, content, time, hfile⟩
  · rw [← hsame, hfolder]
  · rw [hnone] at hfolder
    cases hfolder
  · rw [hfile] at hfolder
    cases hfolder

theorem AddsAt.link (h : AddsAt added d d') {p : List String} {target : String}
    (hlink : d'.node? p = some (.link target)) : d.node? p = some (.link target) := by
  rcases h p with hsame | hnone | ⟨-, content, time, hfile⟩
  · rw [← hsame, hlink]
  · rw [hnone] at hlink
    cases hlink
  · rw [hfile] at hlink
    cases hlink

theorem AddsAt.walkWith (h : AddsAt added d d')
    {jump jump' : List String → List Step → Except IoError (List String)}
    (hjump : ∀ here steps place, jump' here steps = .ok place →
      jump here steps = .ok place ∨ added place)
    (hwalk : d'.walkWith jump' here steps = .ok place) :
    d.walkWith jump here steps = .ok place ∨ added place := by
  induction steps generalizing here with
  | nil => exact .inl hwalk
  | cons step rest ih =>
    obtain ⟨hfolder, hstep⟩ := walkWith_cons_iff.1 hwalk
    have hhere := h.folder hfolder
    rcases hstep with ⟨hidle, hrest⟩ | ⟨rfl, hrest⟩ | ⟨name, rfl, hsize, hdown⟩
    · rcases ih hrest with hrest | hadded
      · exact .inl (walkWith_cons_iff.2 ⟨hhere, .inl ⟨hidle, hrest⟩⟩)
      · exact .inr hadded
    · rcases ih hrest with hrest | hadded
      · exact .inl (walkWith_cons_iff.2 ⟨hhere, .inr (.inl ⟨rfl, hrest⟩)⟩)
      · exact .inr hadded
    · rcases hdown with ⟨target, hlink, hrest⟩ | ⟨node, hnode, hdirect, hrest⟩
      · rcases hjump _ _ _ hrest with hrest | hadded
        · have hold := h.link hlink
          exact .inl (walkWith_cons_iff.2
            ⟨hhere, .inr (.inr ⟨name, rfl, hsize, .inl ⟨target, hold, hrest⟩⟩)⟩)
        · exact .inr hadded
      · rcases h (here ++ [name]) with hsame | hnone | ⟨hadded, content, time, hfile⟩
        · rcases ih hrest with hrest | hadded
          · exact .inl (walkWith_cons_iff.2
              ⟨hhere, .inr (.inr ⟨name, rfl, hsize, .inr ⟨node, hsame ▸ hnode, hdirect, hrest⟩⟩)⟩)
          · exact .inr hadded
        · rw [hnone] at hnode
          cases hnode
        · -- A file that was added can only be the end of the walk.
          cases rest with
          | nil =>
            obtain rfl := Except.ok.inj hrest
            exact .inr hadded
          | cons next rest =>
            obtain ⟨hfolder', -⟩ := walkWith_cons_iff.1 hrest
            rw [hfile] at hfolder'
            cases hfolder'

theorem AddsAt.walk (h : AddsAt added d d') {links : Nat}
    (hwalk : d'.walk links here steps = .ok place) :
    d.walk links here steps = .ok place ∨ added place := by
  induction links generalizing here steps place with
  | zero => exact h.walkWith (fun _ _ _ hjump => by cases hjump) hwalk
  | succ links ih => exact h.walkWith (fun _ _ _ hjump => ih hjump) hwalk

/-- A route leads on the later disk where it led, or to a file that was added. -/
theorem AddsAt.follow (h : AddsAt added d d') {r : Route} (hfollow : d'.follow r = .ok place) :
    d.follow r = .ok place ∨ added place := by
  rw [Disk.follow] at hfollow ⊢
  cases haccept : accept r with
  | error e =>
    rw [haccept] at hfollow
    cases hfollow
  | ok _ =>
    rw [haccept] at hfollow
    exact h.walk hfollow

/-- What is read on the later disk was there to be read, or is read from a file that was added. -/
theorem AddsAt.read (h : AddsAt added d d') {r : Route} {content : Content}
    (hread : d'.read r = .ok content) : d.read r = .ok content ∨
      ∃ p time, added p ∧ d'.node? p = some (.file content time) := by
  obtain ⟨place, time, hfollow, hnode⟩ := follow_of_read hread
  rcases h.follow hfollow with hold | hadded
  · rcases h place with hsame | hnone | ⟨hadded, -⟩
    · exact .inl (read_of_follow hold (hsame ▸ hnode))
    · rw [hnone] at hnode
      cases hnode
    · exact .inr ⟨place, time, hadded, hnode⟩
  · exact .inr ⟨place, time, hadded, hnode⟩

end

end Gazetteer.Disk
