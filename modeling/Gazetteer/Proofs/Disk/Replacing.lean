import Gazetteer.Proofs.Disk.Leading
import Gazetteer.Proofs.Disk.Writing
import Mathlib.Data.List.TakeWhile

/-!
# Records on any disk

A record is written through whatever links stand on the way to its file or in place of its draft. If
the write succeeds, then nothing but the record can be read along the route afterwards. If it fails,
then what is read is what was read before, or the record or a part of it, which a link may have led
to the place that was written.
-/

namespace Gazetteer.Disk

variable {d d' : Disk}

/-! ## Neighbours at the end of a route -/

namespace Route

theorem trimmed_concat (base : Route) (name : String) :
    trimmed (base ++ [.down name]) = base ++ [.down name] := by
  simp [trimmed, Step.isIdle]

theorem parent_concat (base : Route) (name : String) :
    parent (base ++ [.down name]) = base.trimmed := by
  rw [parent, trimmed_concat, List.dropLast_concat]

theorem trimmed_append_idles (base : Route) :
    ∃ idles : List Step, base = base.trimmed ++ idles ∧ ∀ step ∈ idles, step.isIdle = true := by
  refine ⟨(base.reverse.takeWhile Step.isIdle).reverse, ?_, fun step hstep => ?_⟩
  · rw [trimmed, ← List.reverse_append, List.takeWhile_append_dropWhile, List.reverse_reverse]
  · rw [List.mem_reverse] at hstep
    exact List.mem_takeWhile_imp hstep

end Route

theorem draftRoute_concat (base : Route) {name : String} (h : Route.isDotted name = false) :
    draftRoute (base ++ [.down name]) = base ++ [.down (Change.draftName name)] := by
  rw [draftRoute, Route.withExtension, Route.trimmed_concat, List.getLast?_concat]
  simp [h, Change.draftName]

theorem ne_notFound_of_accept {r : Route} {e : IoError} (h : accept r = .error e) :
    e ≠ .notFound := by
  unfold accept at h
  split at h
  · cases h
    exact nofun
  · split at h
    · cases h
      exact nofun
    · cases h

/-- A name has a place in the folder to which the way before it leads. -/
theorem follow_of_locate {base : Route} {name : String} {place : List String}
    (h : d.locate (base ++ [.down name]) = .ok place) : accept (base ++ [.down name]) = .ok () ∧
      name.utf8ByteSize ≤ maxNameSize ∧ ∃ folder, d.follow base.trimmed = .ok folder ∧
        d.node? folder = some .folder ∧ place = folder ++ [name] := by
  rw [locate, List.getLast?_concat, Route.parent_concat] at h
  simp only [bind, Except.bind] at h
  split at h
  · cases h
  next haccept =>
    split at h
    · cases h
    next folder hfollow =>
      split at h
      · cases h
      next hfolder =>
        split at h
        · cases h
        next hsize =>
          exact ⟨haccept, Nat.le_of_not_lt hsize, folder, hfollow, not_not.1 hfolder,
            (Except.ok.inj h).symm⟩

theorem locate_concat {base : Route} {name : String} {place : List String}
    (h : d.locate (base ++ [.down name]) = .ok place) : ∃ folder, d.Leads [] base folder ∧
      d.node? folder = some .folder ∧ place = folder ++ [name] := by
  obtain ⟨-, -, folder, hfollow, hfolder, hplace⟩ := follow_of_locate h
  obtain ⟨idles, hbase, hidles⟩ := base.trimmed_append_idles
  refine ⟨folder, ?_, hfolder, hplace⟩
  rw [hbase]
  exact (leads_of_follow hfollow).append (.idles hfolder hidles)

theorem locate_eq_follow {r : Route} (h : ∀ base name, r ≠ base ++ [.down name]) :
    d.locate r = d.follow r := by
  unfold locate
  split
  next name hlast =>
    obtain ⟨base, hr⟩ := List.getLast?_eq_some_iff.1 hlast
    exact absurd hr (h base name)
  · rfl

/-! ## Disks with the same nodes, or fewer -/

theorem Alike.read_iff (h : Alike d d') {r : Route} {content : Content} :
    d'.read r = .ok content ↔ d.read r = .ok content := by
  have hthere : AddsAt (fun _ => False) d d' := fun p => .inl (h p)
  have hback : AddsAt (fun _ => False) d' d := fun p => .inl (h p).symm
  constructor
  · intro hread
    exact (hthere.read hread).resolve_right fun ⟨_, _, hfalse, _⟩ => hfalse
  · intro hread
    exact (hback.read hread).resolve_right fun ⟨_, _, hfalse, _⟩ => hfalse

theorem Alike.sustains (h : Alike d d') : Sustains d d' where
  folder p hnode := (h p).trans hnode
  link p _ hnode := (h p).trans hnode
  file p content time hnode := ⟨content, time, (h p).trans hnode⟩

/-- Where nothing new stands, no route leads anywhere new. -/
theorem Thinning.follow (h : Thinning d d') {r : Route} {place : List String}
    (hfollow : d'.follow r = .ok place) : d.follow r = .ok place := by
  have hadds : AddsAt (fun _ => False) d d' := fun p => (h p).imp_right .inl
  exact (hadds.follow hfollow).resolve_right not_false

/-- Where nothing new stands, nothing new is read. -/
theorem Thinning.read (h : Thinning d d') {r : Route} {content : Content}
    (hread : d'.read r = .ok content) : d.read r = .ok content := by
  have hadds : AddsAt (fun _ => False) d d' := fun p => (h p).imp_right .inl
  exact (hadds.read hread).resolve_right fun ⟨_, _, hfalse, _⟩ => hfalse

/-- What stands on a thinned disk stood there before. -/
theorem Thinning.node? (h : Thinning d d') {p : List String} {node : Node}
    (hnode : d'.node? p = some node) : d.node? p = some node := by
  rcases h p with hsame | hnone
  · rw [← hsame, hnode]
  · rw [hnone] at hnode
    cases hnode

theorem Thinning.sustains (h : Thinning d d') : Sustains d' d where
  folder _ hnode := h.node? hnode
  link _ _ hnode := h.node? hnode
  file _ content time hnode := ⟨content, time, h.node? hnode⟩

theorem Sustains.trans {d'' : Disk} (h : Sustains d d') (h' : Sustains d' d'') :
    Sustains d d'' where
  folder p hnode := h'.folder p (h.folder p hnode)
  link p target hnode := h'.link p target (h.link p target hnode)
  file p content time hnode := by
    obtain ⟨held, changed, hnode'⟩ := h.file p content time hnode
    exact h'.file p held changed hnode'

/-- What is written over a file is a file under all its names. -/
theorem Sustains.written {place : List String} {content : Content} {time : Int}
    (hfolder : d.node? place ≠ some .folder)
    (hlink : ∀ target, d.node? place ≠ some (.link target)) :
    Sustains d (d.written place (.file content time)) := by
  have hwritten := node?_written (d := d) (ne_nil_of_ne_folder hfolder) (.file content time)
  have hkept : ∀ p node, d.node? p = some node → (∀ held changed, node ≠ .file held changed) →
      (d.written place (.file content time)).node? p = some node := by
    intro p node hnode hfile
    rw [hwritten, if_neg, hnode]
    rintro (rfl | htwin)
    · cases node with
      | file held changed => exact hfile held changed rfl
      | folder => exact hfolder hnode
      | link target => exact hlink target hnode
    · obtain ⟨-, -, held, changed, -, hnode'⟩ := isTwin_iff.1 htwin
      exact hfile held changed (Option.some.inj (hnode.symm.trans hnode'))
  refine ⟨fun p hnode => hkept p _ hnode nofun, fun p target hnode => hkept p _ hnode nofun,
    fun p held changed hnode => ?_⟩
  rw [hwritten]
  split
  · exact ⟨content, time, rfl⟩
  · exact ⟨held, changed, hnode⟩

/-! ## The file that is written -/

theorem landing_ne_link {r : Route} {links : Nat} {place : List String}
    (h : d.landing r links = .ok place) (target : String) :
    d.node? place ≠ some (.link target) := by
  induction links generalizing r with
  | zero => cases h
  | succ links ih =>
    rw [landing] at h
    simp only [bind, Except.bind] at h
    split at h
    · cases h
    next located hlocate =>
      split at h
      · exact ih h
      next hdirect =>
        obtain rfl := Except.ok.inj h
        exact hdirect target

/-- A file that was written is where its route leads, unless the route leads to a link. -/
theorem leads_of_landing {r : Route} {links : Nat} {place : List String} {content : Content}
    {time : Int} (h : d.landing r links = .ok place) (hsustains : Sustains d d')
    (hplace : d'.node? place = some (.file content time)) : ∃ last, d'.Leads [] r last ∧
      (last = place ∨ ∃ target, d'.node? last = some (.link target)) := by
  induction links generalizing r with
  | zero => cases h
  | succ links ih =>
    rw [landing] at h
    simp only [bind, Except.bind] at h
    split at h
    · cases h
    next located hlocate =>
      by_cases hend : ∃ base name, r = base ++ [Step.down name]
      · obtain ⟨base, name, rfl⟩ := hend
        obtain ⟨above, hbase, habove, rfl⟩ := locate_concat hlocate
        have hway := hsustains.leads hbase
        split at h
        next target hlink =>
          obtain ⟨last, hlast, hwhere⟩ := ih h
          rw [List.dropLast_concat, ← List.append_nil (Route.join _ _)] at hlast
          exact ⟨last, hway.append
            (.jump (hsustains.folder _ habove) (hsustains.link _ _ hlink) hlast), hwhere⟩
        · obtain rfl := Except.ok.inj h
          exact ⟨_, hway.append (.down (hsustains.folder _ habove) hplace rfl .done), .inl rfl⟩
      · have hfollow : d.follow r = .ok located := by
          rw [← locate_eq_follow fun base name hr => hend ⟨base, name, hr⟩]
          exact hlocate
        have hway := hsustains.leads (leads_of_follow hfollow)
        split at h
        next target hlink => exact ⟨located, hway, .inr ⟨target, hsustains.link _ _ hlink⟩⟩
        · obtain rfl := Except.ok.inj h
          exact ⟨located, hway, .inl rfl⟩

/-! ## The file that is moved -/

/-- When a node has come to a place, a route leads where it led without the node, or to what the
node has brought. -/
theorem Leads.of_moved {P : Content → Prop} {above : List String} {name : String} {node : Node}
    (hother : ∀ p, p ≠ above ++ [name] → d'.node? p = d.node? p)
    (hnode : d'.node? (above ++ [name]) = some node) (hfolder : node ≠ .folder)
    (hfile : ∀ content time, node = .file content time → P content)
    (hlink : ∀ target rest place content time, node = .link target →
      d.Leads [] (Route.join (.ofNames above) target ++ rest) place →
      d'.node? place = some (.file content time) → P content)
    {here place : List String} {steps : List Step} {content : Content} {time : Int}
    (h : d'.Leads here steps place) (hplace : d'.node? place = some (.file content time)) :
    d.Leads here steps place ∨ P content := by
  have hstays : ∀ p, d'.node? p = some .folder → d.node? p = some .folder := by
    intro p hp
    rw [← hother p, hp]
    rintro rfl
    exact hfolder (Option.some.inj (hnode.symm.trans hp))
  induction h with
  | done => exact .inl .done
  | idle hhere hidle _ ih => exact (ih hplace).imp_left (.idle (hstays _ hhere) hidle)
  | up hhere _ ih => exact (ih hplace).imp_left (.up (hstays _ hhere))
  | @down here step rest place stood hhere hstands hdirect honward ih =>
    by_cases hmoved : here ++ [step] = above ++ [name]
    · rw [hmoved] at hstands honward
      obtain rfl := Option.some.inj (hnode.symm.trans hstands)
      obtain ⟨-, rfl⟩ := honward.eq_of_ne_folder fun heq =>
        hfolder (Option.some.inj (hnode.symm.trans heq))
      exact .inr (hfile content time (Option.some.inj (hnode.symm.trans hplace)))
    · exact (ih hplace).imp_left
        (.down (hstays _ hhere) ((hother _ hmoved).symm.trans hstands) hdirect)
  | @jump here step target rest place hhere hstands honward ih =>
    by_cases hmoved : here ++ [step] = above ++ [name]
    · obtain ⟨rfl, -⟩ := List.append_inj' hmoved rfl
      rw [hmoved] at hstands
      rcases ih hplace with hway | hdone
      · have htarget := Option.some.inj (hnode.symm.trans hstands)
        exact .inr (hlink target rest place content time htarget hway hplace)
      · exact .inr hdone
    · exact (ih hplace).imp_left
        (.jump (hstays _ hhere) ((hother _ hmoved).symm.trans hstands))

/-- A route that ends in a name goes through a folder: to what has the name, or through a link. -/
theorem Leads.concat_cases {base : Route} {name : String} {above place : List String}
    (h : d.Leads [] (base ++ [.down name]) place) (hbase : d.Leads [] base above) :
    place = above ++ [name] ∧
        (∃ node, d.node? (above ++ [name]) = some node ∧ node.isLink = false) ∨
      ∃ target, d.node? (above ++ [name]) = some (.link target) ∧
        d.Leads [] (Route.join (.ofNames above) target) place := by
  obtain ⟨middle, hmiddle, hlast⟩ := h.split
  obtain rfl := hbase.unique hmiddle
  cases hlast with
  | idle _ hidle => cases hidle
  | down _ hnode hdirect honward =>
    cases honward with
    | done => exact .inl ⟨rfl, _, hnode, hdirect⟩
  | jump _ hlink honward =>
    rw [List.append_nil] at honward
    exact .inr ⟨_, hlink, honward⟩

theorem Leads.ne_none {base : Route} {name : String} {above place : List String}
    (h : d.Leads [] (base ++ [.down name]) place) (hbase : d.Leads [] base above) :
    d.node? (above ++ [name]) ≠ none := by
  intro hnone
  rcases h.concat_cases hbase with ⟨-, node, hnode, -⟩ | ⟨target, hlink, -⟩
  · rw [hnone] at hnode
    cases hnode
  · rw [hnone] at hlink
    cases hlink

/-- No folder stands at a place, and no file but one that holds what was written. -/
structure Holds (d : Disk) (place : List String) (written : Content) : Prop where
  file : ∀ content time, d.node? place = some (.file content time) → content = written
  folder : d.node? place ≠ some .folder

/-- A route that leads to what was written, or goes on from there, reads nothing else. -/
theorem Holds.of_leads {last goal here : List String} {steps rest : List Step}
    {written content : Content} {time : Int} (h : Holds d last written)
    (hlast : d.Leads here steps last) (hway : d.Leads here (steps ++ rest) goal)
    (hgoal : d.node? goal = some (.file content time)) : content = written := by
  obtain ⟨middle, hmiddle, hrest⟩ := hway.split
  obtain rfl := hlast.unique hmiddle
  obtain ⟨-, rfl⟩ := hrest.eq_of_ne_folder h.folder
  exact h.file content time hgoal

/-- What was written is where its route leads, also if this is a link. -/
theorem Holds.of_landing {place last : List String} {written : Content} {time : Int}
    (hwritten : d.node? place = some (.file written time))
    (hwhere : last = place ∨ ∃ target, d.node? last = some (.link target)) :
    Holds d last written := by
  rcases hwhere with rfl | ⟨target, hlink⟩
  · refine ⟨fun content time' heq => ?_, ?_⟩
    · rw [hwritten] at heq
      cases heq
      rfl
    · rw [hwritten]
      exact nofun
  · refine ⟨fun content time' heq => ?_, ?_⟩
    · rw [hlink] at heq
      cases heq
    · rw [hlink]
      exact nofun

/-- The node that a draft was written to is a file with what was written, or a link to it. -/
theorem Holds.node_cases {base : Route} {draft : String} {last above : List String}
    {written : Content} {node : Node} (h : Holds d last written)
    (hlast : d.Leads [] (base ++ [.down draft]) last) (hbase : d.Leads [] base above)
    (hnode : d.node? (above ++ [draft]) = some node) :
    (∃ time, node = .file written time) ∨
      ∃ target, node = .link target ∧ d.Leads [] (Route.join (.ofNames above) target) last := by
  rcases hlast.concat_cases hbase with ⟨rfl, other, hother, hdirect⟩ | ⟨target, hlink, hbehind⟩
  · obtain rfl := Option.some.inj (hnode.symm.trans hother)
    cases node with
    | file content time => exact .inl ⟨time, by rw [h.file content time hnode]⟩
    | folder => exact absurd hnode h.folder
    | link target => cases hdirect
  · exact .inr ⟨target, Option.some.inj (hnode.symm.trans hlink), hbehind⟩

/-- A draft that was just written is moved to a neighbour that is the same file: what is read there
is what was written. -/
theorem read_of_same {base : Route} {draft name : String} {last above : List String}
    {written content : Content} (hholds : Holds d last written)
    (hlast : d.Leads [] (base ++ [.down draft]) last) (hbase : d.Leads [] base above)
    (hsame : above ++ [draft] = above ++ [name] ∨
      d.isTwin (above ++ [draft]) (above ++ [name]) = true)
    (hread : d.read (base ++ [.down name]) = .ok content) : content = written := by
  obtain ⟨found, changed, hfollow, hfound⟩ := follow_of_read hread
  have hway := leads_of_follow hfollow
  rcases hsame with heq | htwin
  · obtain rfl : draft = name := by simpa using heq
    obtain rfl := hlast.unique hway
    exact hholds.file _ _ hfound
  · obtain ⟨-, -, held, time, hdraft, hname⟩ := isTwin_iff.1 htwin
    rcases hway.concat_cases hbase with ⟨rfl, -⟩ | ⟨target, hlink, -⟩
    · rw [hname] at hfound
      cases hfound
      rcases hholds.node_cases hlast hbase hdraft with ⟨_, hfile⟩ | ⟨_, hlink, -⟩
      · cases hfile
        rfl
      · cases hlink
    · rw [hname] at hlink
      cases hlink

/-- A draft that was just written comes to stand at a neighbour: what is read there is what was
written, also where the draft is a link. -/
theorem read_of_moved {base : Route} {draft name : String} {last above : List String}
    {written content : Content} {node : Node} (hholds : Holds d last written)
    (hlast : d.Leads [] (base ++ [.down draft]) last) (hbase : d.Leads [] base above)
    (hnode : d.node? (above ++ [draft]) = some node)
    (hread : (d.moved (above ++ [draft]) (above ++ [name]) node).read (base ++ [.down name]) =
      .ok content) : content = written := by
  by_cases hsame : above ++ [draft] = above ++ [name] ∨
      d.isTwin (above ++ [draft]) (above ++ [name]) = true
  · rw [moved_of_same hsame] at hread
    exact read_of_same hholds hlast hbase hsame hread
  -- Without its node and the one that it replaces the disk has only what it had before.
  have hname : above ++ [name] ≠ [] := by simp
  have hthin : Thinning d ((d.removed (above ++ [draft])).removed (above ++ [name])) :=
    Change.Frame.trans (thinning_removed (by simp)) (thinning_removed hname)
  have hgone : ((d.removed (above ++ [draft])).removed (above ++ [name])).node? (above ++ [name]) =
      none := by rw [node?_removed hname, if_pos rfl]
  have hnodes := node?_moved (by simp) hname hsame node
  have hother : ∀ p, p ≠ above ++ [name] →
      (d.moved (above ++ [draft]) (above ++ [name]) node).node? p =
        ((d.removed (above ++ [draft])).removed (above ++ [name])).node? p := by
    intro p hp
    rw [hnodes, node?_removed hname, node?_removed (by simp), if_neg hp, if_neg hp]
  have hmoved : (d.moved (above ++ [draft]) (above ++ [name]) node).node? (above ++ [name]) =
      some node := by rw [hnodes, if_pos rfl]
  obtain ⟨found, changed, hfollow, hfound⟩ := follow_of_read hread
  have hcases := hholds.node_cases hlast hbase hnode
  refine ((leads_of_follow hfollow).of_moved (P := fun held => held = written) hother hmoved
    ?_ ?_ ?_ hfound).elim (fun hold => ?_) id
  · rintro rfl
    rcases hcases with ⟨_, hfile⟩ | ⟨_, hlink, -⟩
    · cases hfile
    · cases hlink
  · rintro held time rfl
    rcases hcases with ⟨_, hfile⟩ | ⟨_, hlink, -⟩
    · cases hfile
      rfl
    · cases hlink
  · rintro target rest goal held time rfl honward hgoal
    rcases hcases with ⟨_, hfile⟩ | ⟨_, hlink, hbehind⟩
    · cases hfile
    · cases hlink
      -- Behind the link the route leads to the written file and cannot go on from there.
      have hne : goal ≠ above ++ [name] := by
        rintro rfl
        rw [hmoved] at hgoal
        cases hgoal
      rw [hother goal hne] at hgoal
      exact hholds.of_leads hbehind (hthin.sustains.leads honward) (hthin.node? hgoal)
  · obtain ⟨middle, hmiddle, -⟩ := hold.split
    obtain rfl := hbase.unique (hthin.sustains.leads hmiddle)
    exact absurd hgone (hold.ne_none hmiddle)

/-! ## Records -/

namespace Change

variable {r : Route} {now : UInt64}

/-- After a record was written, nothing else is read along its route. -/
theorem read_of_writeRecord {base : Route} {name : String} {v : Json} {content : Content}
    (hname : Route.isDotted name = false)
    (h : writeRecord (base ++ [.down name]) v now d = .ok () d')
    (hread : d'.read (base ++ [.down name]) = .ok content) : content = .text v.pretty := by
  rw [writeRecord, draftRoute_concat base hname] at h
  obtain ⟨_, m, -, hrun⟩ := bind_eq_ok.1 h
  obtain ⟨_, m', hwrite, hrename⟩ := bind_eq_ok.1 hrun
  obtain ⟨place, hlanding, hfolder, rfl⟩ := written_of_writeFile hwrite
  obtain ⟨source, target, node, hsource, htarget, hnode, -, rfl⟩ := moved_of_rename hrename
  obtain ⟨above, hbase, -, rfl⟩ := locate_concat hsource
  obtain ⟨above', hbase', -, rfl⟩ := locate_concat htarget
  obtain rfl := hbase.unique hbase'
  let drafted := m.begun.written place (fileOf v.pretty now)
  have hsustains : Sustains m.begun drafted.begun :=
    (Sustains.written hfolder (landing_ne_link hlanding)).trans (alike_begun drafted).sustains
  have hwritten : drafted.begun.node? place = some (fileOf v.pretty now) :=
    (node?_written (ne_nil_of_ne_folder hfolder) _ place).trans (if_pos (.inl rfl))
  obtain ⟨last, hlast, hwhere⟩ := leads_of_landing hlanding hsustains hwritten
  exact read_of_moved (.of_landing hwritten hwhere) hlast hbase hnode hread

end Change

/-- What is present is led to, also by the route that is ready to be continued. -/
theorem exists_leads_of_isPresent {r : Route} (h : d.isPresent r = true) :
    ∃ place, d.Leads [] r.opened place := by
  have hopened : ∃ last, r = r.opened ++ last := by
    unfold Route.opened
    split
    next hlast => exact ⟨[.blank], (List.dropLast_append_getLast? _ hlast).symm⟩
    · exact ⟨[], (List.append_nil r).symm⟩
  obtain ⟨last, hr⟩ := hopened
  unfold isPresent at h
  cases hstatus : d.status r with
  | error e =>
    rw [hstatus] at h
    cases h
  | ok node =>
    obtain ⟨place, hfollow, -⟩ := follow_of_status hstatus
    have hway := leads_of_follow hfollow
    rw [hr] at hway
    obtain ⟨middle, hmiddle, -⟩ := hway.split
    exact ⟨middle, hmiddle⟩

/-! ## Folders that are made

What stands on a disk stands in folders. So below a folder that was just made nothing stands but
folders, and a file that is read after folders were made on the way to it was there already: none of
them was missing. -/

/-- Everything that stands on a disk stands in a folder. -/
def IsTree (d : Disk) : Prop := ∀ e ∈ d.nodes.entries, d.node? e.1.dropLast = some .folder

instance (d : Disk) : Decidable d.IsTree := inferInstanceAs (Decidable (∀ e ∈ _, _))

theorem IsTree.dropLast (h : d.IsTree) {place : List String} (hplace : d.node? place ≠ none) :
    d.node? place.dropLast = some .folder := by
  by_cases hne : place = []
  · rw [hne]
    exact node?_nil d
  · obtain ⟨node, hnode⟩ := Option.ne_none_iff_exists'.1 hplace
    rw [node?_of_ne_nil hne, OrdMap.find?_eq_some_iff] at hnode
    exact h _ hnode

/-- What stands on a disk stands below folders only. -/
theorem IsTree.folder (h : d.IsTree) {p q : List String} (hp : d.node? p ≠ none) (hq : q <+: p)
    (hne : q ≠ p) : d.node? q = some .folder := by
  induction p using List.reverseRecOn with
  | nil => exact absurd (List.prefix_nil.1 hq) hne
  | append_singleton p name ih =>
    have hparent := h.dropLast hp
    rw [List.dropLast_concat] at hparent
    rcases List.prefix_concat_iff.1 hq with heq | hup
    · exact absurd heq hne
    · by_cases heq : q = p
      · rw [heq, hparent]
      · exact ih (by rw [hparent]; exact nofun) hup heq

theorem IsTree.eq_none (h : d.IsTree) {place : List String} {name : String}
    (hplace : d.node? place = none) : d.node? (place ++ [name]) = none := by
  by_contra hne
  have hfolder := h.dropLast hne
  rw [List.dropLast_concat, hplace] at hfolder
  cases hfolder

theorem Leads.node?_ne_none (h : d.IsTree) {here place : List String} {steps : List Step}
    (hway : d.Leads here steps place) (hhere : d.node? here ≠ none) : d.node? place ≠ none := by
  induction hway with
  | done => exact hhere
  | idle _ _ _ ih => exact ih hhere
  | up _ _ ih => exact ih (by rw [h.dropLast hhere]; exact nofun)
  | down _ hstands _ _ ih => exact ih (by rw [hstands]; exact nofun)
  | jump _ _ _ ih => exact ih (by rw [node?_nil]; exact nofun)

/-- Folders were made where a route and its parts lead, and nothing else has changed. -/
def Founding (route : Route) (d d' : Disk) : Prop := ∀ p, d'.node? p = d.node? p ∨
  d.node? p = none ∧ d'.node? p = some .folder ∧ ∃ part, part <+: route ∧ d'.Leads [] part p

theorem Founding.sustains {route : Route} (h : Founding route d d') : Sustains d d' where
  folder p hnode := (h p).elim (fun hsame => hsame.trans hnode) fun hmade => hmade.2.1
  link p target hnode := by
    rcases h p with hsame | ⟨hnone, -⟩
    · exact hsame.trans hnode
    · rw [hnone] at hnode
      cases hnode
  file p content time hnode := by
    rcases h p with hsame | ⟨hnone, -⟩
    · exact ⟨content, time, hsame.trans hnode⟩
    · rw [hnone] at hnode
      cases hnode

instance {route : Route} : Change.Frame (Founding route) where
  refl _ _ := .inl rfl
  trans := by
    intro d₁ d₂ d₃ h h' p
    rcases h p with hsame | ⟨hnone, hmade, part, hpart, hway⟩
    · rw [← hsame]
      exact h' p
    · exact .inr ⟨hnone, h'.sustains.folder p hmade, part, hpart, h'.sustains.leads hway⟩
  faults _ _ _ := .inl rfl

theorem Change.keeps_founding_makeFolder {route part : Route} (hpart : part <+: route) :
    Keeps (Founding route) (makeFolder part) := by
  refine keeps_of_founded fun d place hplace hnone => ?_
  have hput := node?_founded (d := d) (ne_nil_of_ne_folder (hnone.trans_ne nofun))
  have hsustains : Sustains d (d.founded place) := by
    have hstays : ∀ p node, d.node? p = some node → (d.founded place).node? p = some node := by
      intro p node hnode
      rw [hput, if_neg, hnode]
      rintro rfl
      rw [hnone] at hnode
      cases hnode
    exact ⟨fun p => hstays p _, fun p _ => hstays p _,
      fun p content time hnode => ⟨content, time, hstays p _ hnode⟩⟩
  have hmade : (d.founded place).node? place = some .folder := by rw [hput, if_pos rfl]
  have hway : (d.founded place).Leads [] part place := by
    by_cases hend : ∃ base name, part = base ++ [Step.down name]
    · obtain ⟨base, name, rfl⟩ := hend
      obtain ⟨above, hbase, habove, rfl⟩ := locate_concat hplace
      exact (hsustains.leads hbase).append (.down (hsustains.folder _ habove) hmade rfl .done)
    · rw [locate_eq_follow fun base name hr => hend ⟨base, name, hr⟩] at hplace
      exact hsustains.leads (leads_of_follow hplace)
  intro p
  by_cases hp : p = place
  · subst hp
    exact .inr ⟨hnone, hmade, part, hpart, hway⟩
  · exact .inl (by rw [hput, if_neg hp])

theorem Change.keeps_founding_makeFolders (route : Route) :
    Keeps (Founding route) (makeFolders route) :=
  .makeFoldersUpTo fun _ hr => keeps_founding_makeFolder (List.reverse_reverse route ▸ hr)

/-- Below what was missing a way that only goes down leads through folders that were made. -/
theorem Founding.below {route : Route} (h : Founding route d d') (htree : d.IsTree)
    {rest : List Step} (hup : .up ∉ rest) {here place : List String} (hhere : d.node? here = none)
    (hway : d'.Leads here rest place) : here <+: place ∧ d.node? place = none := by
  induction rest generalizing here with
  | nil =>
    cases hway with
    | done => exact ⟨List.prefix_rfl, hhere⟩
  | cons step rest ih =>
    have honward : .up ∉ rest := fun hmem => hup (List.mem_cons_of_mem _ hmem)
    cases hway with
    | idle _ _ hrest => exact ih honward hhere hrest
    | up => exact absurd List.mem_cons_self hup
    | @down _ name _ _ _ _ _ _ hrest =>
      obtain ⟨hplace, hend⟩ := ih honward (htree.eq_none hhere) hrest
      exact ⟨(List.prefix_append _ _).trans hplace, hend⟩
    | @jump _ name _ _ _ _ hlink =>
      have hnone : d.node? (here ++ [name]) = none := htree.eq_none hhere
      rcases h (here ++ [name]) with hsame | ⟨-, hfolder, -⟩
      · rw [hsame, hnone] at hlink
        cases hlink
      · rw [hfolder] at hlink
        cases hlink

/-- Folders that were made on a way that only goes down, and leads to its end now, are on the way to
it, and then nothing stood there. -/
theorem Founding.above {top : Route} {rest : List Step} (h : Founding (top ++ rest) d d')
    (hup : .up ∉ rest) (htree : d.IsTree) {above home : List String} (htop : d.Leads [] top above)
    (hway : d'.Leads [] (top ++ rest) home) (p : List String) : d'.node? p = d.node? p ∨
      d.node? p = none ∧ d'.node? p = some .folder ∧ p <+: home ∧ d.node? home = none := by
  refine (h p).imp_right ?_
  rintro ⟨hnone, hmade, part, hpart, hfirst⟩
  -- The folder that was made is on the way, and not on the way to the top, which was there.
  obtain ⟨start, last, rfl, rfl⟩ : ∃ start last, part = top ++ start ∧ rest = start ++ last := by
    rcases List.prefix_or_prefix_of_prefix hpart (List.prefix_append top rest) with
      ⟨more, rfl⟩ | ⟨start, rfl⟩
    · obtain ⟨middle, hmiddle, -⟩ := htop.split
      obtain rfl := (h.sustains.leads hmiddle).unique hfirst
      refine absurd hnone (hmiddle.node?_ne_none htree ?_)
      rw [node?_nil]
      exact nofun
    · obtain ⟨last, hlast⟩ := (List.prefix_append_right_inj _).1 hpart
      exact ⟨start, last, rfl, hlast.symm⟩
  rw [← List.append_assoc] at hway
  obtain ⟨middle, hmiddle, hrest⟩ := hway.split
  obtain rfl := hfirst.unique hmiddle
  obtain ⟨hp, hend⟩ := h.below htree (fun hmem => hup (List.mem_append_right _ hmem)) hnone hrest
  exact ⟨hnone, hmade, hp, hend⟩

/-- Where a file can be read after folders were made on the way to it, no folder was made. -/
theorem Founding.alike {top : Route} {rest : List Step} {name : String}
    (h : Founding (top ++ rest) d d') (hup : .up ∉ rest) (htree : d.IsTree)
    {above place : List String} {content : Content} {time : Int} (htop : d.Leads [] top above)
    (hway : d'.Leads [] (top ++ rest ++ [.down name]) place)
    (hfile : d'.node? place = some (.file content time)) : Alike d d' := by
  intro p
  obtain ⟨base, hbase, hlast⟩ := hway.split
  refine (h.above hup htree htop hbase p).resolve_right ?_
  rintro ⟨-, -, -, hend⟩
  have hnone : d.node? (base ++ [name]) = none := htree.eq_none hend
  rcases hway.concat_cases hbase with ⟨rfl, -⟩ | ⟨target, hlink, -⟩
  · rcases h (base ++ [name]) with hsame | ⟨-, hfolder, -⟩
    · rw [hsame, hnone] at hfile
      cases hfile
    · rw [hfolder] at hfile
      cases hfile
  · rcases h (base ++ [name]) with hsame | ⟨-, hfolder, -⟩
    · rw [hsame, hnone] at hlink
      cases hlink
    · rw [hfolder] at hlink
      cases hlink

/-! ## A record that could not be written -/

/-- Nothing stands on a later disk that did not stand there, apart from files with the start of a
text. -/
def Adding (text : String) (d d' : Disk) : Prop :=
  AddsAt (fun p => ∃ kept time,
    d'.node? p = some (.file (.text (.ofList (text.toList.take kept))) time)) d d'

theorem Adding.read {text : String} (h : Adding text d d') {r : Route} {content : Content}
    (hread : d'.read r = .ok content) :
    d.read r = .ok content ∨ ∃ kept, content = .text (.ofList (text.toList.take kept)) := by
  rcases AddsAt.read h hread with hold | ⟨p, time, ⟨kept, changed, hpart⟩, hnode⟩
  · exact .inl hold
  · rw [hnode] at hpart
    cases hpart
    exact .inr ⟨kept, rfl⟩

instance {text : String} : Change.Frame (Adding text) where
  refl _ _ := .inl rfl
  trans := by
    intro d₁ d₂ d₃ h h' p
    rcases h' p with hsame | hnone | hadded
    · rcases h p with hfirst | hnone | ⟨⟨kept, time, hpart⟩, content, changed, hnode⟩
      · exact .inl (hsame.trans hfirst)
      · exact .inr (.inl (hsame.trans hnone))
      · exact .inr (.inr ⟨⟨kept, time, hsame.trans hpart⟩, content, changed, hsame.trans hnode⟩)
    · exact .inr (.inl hnone)
    · exact .inr (.inr hadded)
  faults _ _ _ := .inl rfl

namespace Change

variable {now : UInt64}

theorem keeps_adding_writeFile (r : Route) (text : String) (now : UInt64) :
    Keeps (Adding text) (writeFile r text now) := by
  refine keeps_of_written fun d place kept _ hfolder p => ?_
  rw [node?_written (ne_nil_of_ne_folder hfolder)]
  split
  next hnamed =>
    have hnode := (node?_written (d := d) (ne_nil_of_ne_folder hfolder)
      (fileOf (.ofList (text.toList.take kept)) now) p).trans (if_pos hnamed)
    exact .inr (.inr ⟨⟨kept, _, hnode⟩, _, _, rfl⟩)
  · exact .inl rfl

/-- After a record could not be written, what is read along its route was read before or is the
start of the record, if nothing stood outside folders and the top of its way was there. -/
theorem read_of_writeRecord_error {top : Route} {names : List String} {name : String} {v : Json}
    {e : IoError} {content : Content} (hname : Route.isDotted name = false) (htree : d.IsTree)
    {above : List String} (htop : d.Leads [] top above)
    (h : writeRecord (top ++ Route.ofNames names ++ [.down name]) v now d = .error e d')
    (hread : d'.read (top ++ Route.ofNames names ++ [.down name]) = .ok content) :
    d.read (top ++ Route.ofNames names ++ [.down name]) = .ok content ∨
      ∃ kept, content = .text (.ofList (v.pretty.toList.take kept)) := by
  rw [writeRecord, draftRoute_concat _ hname, Route.parent_concat] at h
  have hfounding : ∀ m, Founding (top ++ Route.ofNames names).trimmed d m →
      m.read (top ++ Route.ofNames names ++ [.down name]) = .ok content →
      d.read (top ++ Route.ofNames names ++ [.down name]) = .ok content := by
    intro m hm hread
    obtain ⟨idles, hidles, -⟩ := (top ++ Route.ofNames names).trimmed_append_idles
    have hall : Founding (top ++ Route.ofNames names) d m := by
      refine fun p => (hm p).imp_right ?_
      rintro ⟨hnone, hmade, part, ⟨more, hmore⟩, hway⟩
      refine ⟨hnone, hmade, part, ⟨more ++ idles, ?_⟩, hway⟩
      rw [← List.append_assoc, hmore, ← hidles]
    obtain ⟨place, time, hfollow, hfile⟩ := follow_of_read hread
    exact (hall.alike (Route.up_not_mem_ofNames names) htree htop (leads_of_follow hfollow)
      hfile).read_iff.1 hread
  have hmake := keeps_founding_makeFolders (top ++ Route.ofNames names).trimmed
  rcases bind_eq_error.1 h with hfailed | ⟨_, m, hmade, hrun⟩
  · exact .inl (hfounding d' (hmake.of_error hfailed) hread)
  have hm := hmake.of_ok hmade
  have hwrite := keeps_adding_writeFile
    (top ++ Route.ofNames names ++ [.down (draftName name)]) v.pretty now
  rcases bind_eq_error.1 hrun with hfailed | ⟨_, m', hwritten, hrename⟩
  · exact ((hwrite.of_error hfailed).read hread).imp_left (hfounding m hm)
  · have hadding : Adding v.pretty m d' :=
      Frame.trans (hwrite.of_ok hwritten) (rename_error hrename)
    exact (hadding.read hread).imp_left (hfounding m hm)

end Change
end Gazetteer.Disk
