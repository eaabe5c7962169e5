import Gazetteer.Proofs.Disk.Drafting
import Gazetteer.Proofs.Disk.Removal
import Gazetteer.Proofs.Disk.Visiting
import Gazetteer.Proofs.Text.Cutting

/-!
# All or nothing

A record is drafted beside its file and moved over it, so whatever fails on the way, the file is
read as it was, and otherwise the record is read (`IsSafe.read_of_error`, `IsSafe.read_of_ok`).
Links may stand anywhere on the way, with three exceptions: none in place of the draft, and if one
stands in place of the file, then the way to it does not lead through it, nor it to the draft. A
draft that is there already must have no other name. And where folders have to be made for the file,
the way only goes down.
-/

namespace Gazetteer.Disk

variable {d d' m : Disk} {r base way : Route} {name draft : String} {home place : List String}
  {content : Content} {steps : List Step}

/-! ## Ends of routes -/

theorem Leads.folder_of_cons {here : List String} {step : Step}
    (h : d.Leads here (step :: steps) place) : d.node? here = some .folder := by
  cases h <;> assumption

theorem Leads.eq_of_idles {here : List String} (h : d.Leads here steps place)
    (hidles : ∀ step ∈ steps, step.isIdle = true) : place = here := by
  cases steps with
  | nil =>
    cases h with
    | done => rfl
  | cons step steps => exact (h.unique (.idles h.folder_of_cons hidles)).symm

theorem Leads.trimmed (h : d.Leads [] base home) : d.Leads [] base.trimmed home := by
  obtain ⟨idles, hbase, hidles⟩ := base.trimmed_append_idles
  rw [hbase] at h
  obtain ⟨middle, hmiddle, hlast⟩ := h.split
  obtain rfl := hlast.eq_of_idles hidles
  exact hmiddle

theorem follow_of_trimmed (haccept : accept base = .ok ())
    (hfollow : d.follow base.trimmed = .ok home) (hfolder : d.node? home = some .folder) :
    d.follow base = .ok home := by
  obtain ⟨idles, hbase, hidles⟩ := base.trimmed_append_idles
  have hlast : ∀ jump, d.walkWith jump home idles = .ok home := by
    intro jump
    clear hbase
    induction idles with
    | nil => rfl
    | cons step idles ih =>
      apply walkWith_cons_iff.2
      exact ⟨hfolder, .inl ⟨hidles step List.mem_cons_self,
        ih fun s hs => hidles s (List.mem_cons_of_mem _ hs)⟩⟩
  have hwalk := walk_append hlast (accept_of_follow hfollow).2
  rw [← hbase] at hwalk
  rw [follow, haccept]
  exact hwalk

/-- A route that does not end in a name finds folders only. -/
theorem folder_of_locate_end (hend : ∀ base name, r ≠ base ++ [.down name])
    (h : d.locate r = .ok place) : d.node? place = some .folder := by
  rw [locate_eq_follow hend] at h
  have hway := leads_of_follow h
  rcases List.eq_nil_or_concat' r with rfl | ⟨base, step, rfl⟩
  · cases hway with
    | done => exact node?_nil d
  · obtain ⟨middle, hmiddle, hlast⟩ := hway.split
    have hfolder := hlast.folder_of_cons
    cases hlast with
    | idle _ _ honward =>
      cases honward with
      | done => exact hfolder
    | up _ honward =>
      cases honward with
      | done => exact (hmiddle.isSolid (.nil d)).node?_way hfolder (List.dropLast_prefix _)
    | down => exact absurd rfl (hend base _)
    | jump => exact absurd rfl (hend base _)

/-- What is read is at the end of a name. -/
theorem concat_of_read (h : d.read r = .ok content) : ∃ base name, r = base ++ [.down name] := by
  obtain ⟨place, time, hfollow, hnode⟩ := follow_of_read h
  by_contra hend
  have hnot : ∀ base name, r ≠ base ++ [.down name] := fun base name heq => hend ⟨base, name, heq⟩
  have hfolder := folder_of_locate_end hnot ((locate_eq_follow hnot).trans hfollow)
  rw [hnode] at hfolder
  cases hfolder

/-! ## Drafts -/

theorem Change.draftName_ne_self (name : String) : draftName name ≠ name := by
  intro heq
  have hlist := congrArg String.toList heq
  unfold draftName Route.replaceExtension at hlist
  rcases Text.not_mem_or_exists_cut '.' name.toList with hdot | ⟨stem, extension, hname, hdot⟩
  · simp [Text.cutLast?_of_not_mem hdot] at hlist
  · have hcut : Text.cutLast? '.' name.toList = some (stem, extension) := by
      rw [hname, Text.cutLast?_append_cons hdot]
    rw [hcut] at hlist
    dsimp only at hlist
    split at hlist
    · simp at hlist
    · -- An extension has no dot in it, but the one of a draft has.
      have hextension : "json.tmp".toList = extension := by simpa [hname] using hlist
      exact hdot (hextension ▸ by decide)

/-- A draft with a name stands in the folder of the record, under another name. -/
theorem parent_of_draftRoute (h : draftRoute r = base ++ [.down draft]) : r.parent = base.trimmed ∧
    ∀ own name, r = own ++ [.down name] → own = base ∧ name ≠ draft := by
  unfold draftRoute Route.withExtension at h
  split at h
  next first hlast =>
    obtain ⟨own, hown⟩ := List.getLast?_eq_some_iff.1 hlast
    rw [hown, List.dropLast_concat] at h
    obtain ⟨rfl, hdraft⟩ := List.append_inj' h rfl
    refine ⟨by rw [Route.parent, hown, List.dropLast_concat], ?_⟩
    rintro other name rfl
    rw [Route.trimmed_concat] at hown
    obtain ⟨rfl, hname⟩ := List.append_inj' hown rfl
    obtain rfl : name = first := by simpa using hname
    refine ⟨rfl, ?_⟩
    split at hdraft
    · cases hdraft
    · obtain rfl : Change.draftName name = draft := by simpa [Change.draftName] using hdraft
      exact (Change.draftName_ne_self name).symm
  next hnot =>
    refine absurd ?_ (hnot draft)
    rw [h, Route.trimmed_concat, List.getLast?_concat]

/-! ## Folders that are made

Folders are made on the way to a record, which must not come to other places because of them. -/

/-- A way leads as far as it goes on a disk, and only goes down from there. -/
def GoesDown (d : Disk) (way : Route) : Prop :=
  ∃ top rest above, way = top ++ rest ∧ d.Leads [] top above ∧ .up ∉ rest

/-- Where a way leads once folders were made on it, they all were there already or its end was
missing. -/
theorem Founding.alike_or_missing (h : Founding way d m) (htree : d.IsTree) (hway : d.GoesDown way)
    (hleads : m.Leads [] way home) : Alike d m ∨ d.node? home = none := by
  obtain ⟨top, rest, above, rfl, htop, hup⟩ := hway
  by_cases hhome : d.node? home = none
  · exact .inr hhome
  · refine .inl fun p => (h.above hup htree htop hleads p).resolve_right ?_
    rintro ⟨-, -, -, hend⟩
    exact hhome hend

/-- In a folder that was missing nothing stands. -/
theorem Founding.node?_child (h : Founding way d m) (htree : d.IsTree) (hway : d.GoesDown way)
    (hleads : m.Leads [] way home) (hhome : d.node? home = none) (name : String) :
    m.node? (home ++ [name]) = none := by
  obtain ⟨top, rest, above, rfl, htop, hup⟩ := hway
  rcases h.above hup htree htop hleads (home ++ [name]) with hsame | ⟨-, -, hbelow, -⟩
  · rw [hsame, htree.eq_none hhome]
  · exact absurd hbelow not_prefix_concat

/-! ## What stands in the way -/

/-- No link stands in place of the draft of a record, and no file that has another name. If a link
stands in place of its file, then the way to its folder does not lead through it, nor it to the
draft. -/
structure IsOpen (d : Disk) (r : Route) : Prop where
  draft : ∀ place, d.locate (draftRoute r) = .ok place →
    ∀ target, d.node? place ≠ some (.link target)
  alone : ∀ place, d.locate (draftRoute r) = .ok place → d.IsSole place
  target : ∀ place target, d.locate r = .ok place → d.node? place = some (.link target) →
    ¬ d.Visits place [] r.parent ∧
      ∀ draft, d.locate (draftRoute r) = .ok draft → ¬ d.Visits draft [] r

/-- A record may be written along a route on a disk where everything stands in a folder. -/
structure IsSafe (d : Disk) (r : Route) : Prop extends d.IsOpen r where
  tree : d.IsTree
  way : d.GoesDown r.parent

theorem IsOpen.of_alike (h : d.IsOpen r) (halike : Alike d m) (hparting : Parting d m) :
    m.IsOpen r where
  draft place hlocate target hlink :=
    h.draft place ((halike.locate_eq _).symm.trans hlocate) target ((halike place).symm.trans hlink)
  alone place hlocate :=
    hparting.isSole (h.alone place ((halike.locate_eq _).symm.trans hlocate))
  target place target hlocate hlink := by
    obtain ⟨hparent, hdraft⟩ := h.target place target ((halike.locate_eq r).symm.trans hlocate)
      ((halike place).symm.trans hlink)
    have hback := halike.symm.sustains
    refine ⟨fun hvisits => hparent (hback.visits hvisits), fun draft hplace hvisits => ?_⟩
    exact hdraft draft ((halike.locate_eq _).symm.trans hplace) (hback.visits hvisits)

/-- What the record could meet once folders were made was there, and so was the way to it. -/
theorem IsSafe.alike_of_node (h : d.IsSafe r) (hm : Founding r.parent d m) {s : Route}
    (hparent : ∀ (own : Route) name, s = own ++ [.down name] → r.parent = own.trimmed)
    (hlocate : m.locate s = .ok place) (hfolder : m.node? place ≠ some .folder)
    (hnode : m.node? place ≠ none) : Alike d m := by
  by_cases hend : ∃ (own : Route) (name : String), s = own ++ [.down name]
  · obtain ⟨own, name, rfl⟩ := hend
    obtain ⟨-, -, home, hfollow, -, rfl⟩ := follow_of_locate hlocate
    have hleads := leads_of_follow hfollow
    rw [← hparent own name rfl] at hleads
    refine (hm.alike_or_missing h.tree h.way hleads).resolve_right fun hmissing => ?_
    exact hnode (hm.node?_child h.tree h.way hleads hmissing name)
  · exact absurd (folder_of_locate_end (fun own name heq => hend ⟨own, name, heq⟩) hlocate) hfolder

/-- Folders that are made for a record bring nothing in its way. -/
theorem IsSafe.isOpen_of_founding (h : d.IsSafe r) (hm : Founding r.parent d m)
    (hparting : Parting d m) : m.IsOpen r := by
  have hdraft : ∀ place, m.locate (draftRoute r) = .ok place → m.node? place ≠ some .folder →
      m.node? place ≠ none → m.IsOpen r := fun place hlocate hfolder hnode =>
    h.toIsOpen.of_alike (h.alike_of_node hm (fun _ _ heq => (parent_of_draftRoute heq).1) hlocate
      hfolder hnode) hparting
  constructor
  · intro place hlocate target hlink
    have hopen := hdraft place hlocate (hlink.trans_ne nofun) (hlink.trans_ne nofun)
    exact hopen.draft place hlocate target hlink
  · intro place hlocate
    by_cases hfile : ∃ content time, m.node? place = some (.file content time)
    · obtain ⟨content, time, hfile⟩ := hfile
      have hopen := hdraft place hlocate (hfile.trans_ne nofun) (hfile.trans_ne nofun)
      exact hopen.alone place hlocate
    · exact isSole_of_not_file fun content time hnode => hfile ⟨content, time, hnode⟩
  · intro place target hlocate hlink
    have halike := h.alike_of_node hm (fun own name heq => by rw [heq, Route.parent_concat]) hlocate
      (hlink.trans_ne nofun) (hlink.trans_ne nofun)
    exact (h.toIsOpen.of_alike halike hparting).target place target hlocate hlink

/-- What is read stands in a folder. -/
theorem exists_home_of_read (h : d.read r = .ok content) : ∃ home name,
    d.Leads [] r.parent home ∧ d.node? home = some .folder ∧ d.node? (home ++ [name]) ≠ none := by
  obtain ⟨base, name, rfl⟩ := concat_of_read h
  obtain ⟨place, time, hfollow, -⟩ := follow_of_read h
  have hway := leads_of_follow hfollow
  obtain ⟨home, hhome, hlast⟩ := hway.split
  rw [Route.parent_concat]
  exact ⟨home, name, hhome.trimmed, hlast.folder_of_cons, hway.ne_none hhome⟩

/-- Folders that are made for a record do not change what is read along its route. -/
theorem IsSafe.read_iff_of_founding (h : d.IsSafe r) (hm : Founding r.parent d m) :
    m.read r = .ok content ↔ d.read r = .ok content := by
  constructor
  · intro hread
    obtain ⟨home, name, hleads, -, hnode⟩ := exists_home_of_read hread
    rcases hm.alike_or_missing h.tree h.way hleads with halike | hmissing
    · exact halike.read_iff.1 hread
    · exact absurd (hm.node?_child h.tree h.way hleads hmissing name) hnode
  · intro hread
    obtain ⟨home, name, hleads, hfolder, -⟩ := exists_home_of_read hread
    rcases hm.alike_or_missing h.tree h.way (hm.sustains.leads hleads) with halike | hmissing
    · exact halike.read_iff.2 hread
    · rw [hmissing] at hfolder
      cases hfolder

/-! ## The draft -/

/-- Nothing has changed, or a file came or was changed where a route finds its place. -/
def Drafted (r : Route) (d d' : Disk) : Prop :=
  Alike d d' ∨ ∃ place content time, d.locate r = .ok place ∧ IsLoose (d.node? place) ∧
    ∀ p, d'.node? p = if p = place then some (.file content time) else d.node? p

theorem Change.drafted_writeFile (text : String) (now : UInt64)
    (hdirect : ∀ place, d.locate r = .ok place → ∀ target, d.node? place ≠ some (.link target))
    (hsole : ∀ place, d.locate r = .ok place → d.IsSole place) :
    Drafted r d (diskAfter (writeFile r text now) d) := by
  have hwritten : ∀ place content time, d.begun.landing r maxLinks = .ok place →
      d.begun.node? place ≠ some .folder →
      Drafted r d (d.begun.written place (.file content time)) := by
    intro place content time hlanding hfolder
    rw [landing_begun] at hlanding
    have hlocate := locate_of_landing hdirect hlanding
    have hsole' : d.begun.IsSole place := hsole place hlocate
    exact .inr ⟨place, content, time, hlocate, ⟨hfolder, hdirect place hlocate⟩,
      node?_written_of_isSole (ne_nil_of_ne_folder hfolder) hsole' _⟩
  obtain ⟨e, hrun⟩ | ⟨place, hplace, hfolder, hrun | ⟨e, kept, hrun⟩⟩ :=
    writeFile_cases r text now d
  · exact diskAfter_of_error hrun ▸ .inl (alike_begun d)
  · exact diskAfter_of_ok hrun ▸ hwritten place _ _ hplace hfolder
  · exact diskAfter_of_error hrun ▸ hwritten place _ _ hplace hfolder

/-- A file that is no folder and no link is not on the way to the folder that it is in. -/
theorem not_visits_of_isLoose (hfollow : d.follow way = .ok home)
    (hfolder : d.node? home = some .folder) (hloose : IsLoose (d.node? place)) :
    ¬ d.Visits place [] way :=
  fun hvisits => hvisits.not_isLoose (leads_of_follow hfollow) hfolder hloose

/-- Only a name finds a place where no folder stands. -/
theorem concat_of_locate (h : d.locate r = .ok place) (hfolder : d.node? place ≠ some .folder) :
    ∃ (base : Route) (name : String), r = base ++ [.down name] := by
  by_contra hend
  exact hfolder (folder_of_locate_end (fun base name heq => hend ⟨base, name, heq⟩) h)

/-- The draft of a record is not read along the route of the record. -/
theorem IsOpen.not_visits {target : List String} (h : m.IsOpen (base ++ [.down name]))
    (hdraft : m.locate (draftRoute (base ++ [.down name])) = .ok place)
    (hloose : IsLoose (m.node? place)) (htarget : m.locate (base ++ [.down name]) = .ok target) :
    ¬ m.Visits place [] (base ++ [.down name]) := by
  intro hvisits
  obtain ⟨own, draft, hroute⟩ := concat_of_locate hdraft hloose.1
  obtain ⟨-, hown⟩ := parent_of_draftRoute hroute
  obtain ⟨rfl, hname⟩ := hown base name rfl
  have hplace := hdraft
  rw [hroute] at hplace
  obtain ⟨home, hbase, hfolder, rfl⟩ := locate_concat hplace
  obtain ⟨home', hbase', -, rfl⟩ := locate_concat htarget
  obtain rfl := hbase.unique hbase'
  rcases hvisits.append_cases hbase with hway | hlast
  · exact hway.not_isLoose hbase hfolder hloose
  · cases hlast with
    | arrive _ harrived => exact hname (by simpa using harrived)
    | idle _ hidle => cases hidle
    | down _ _ _ honward => cases honward
    | jump _ hlink => exact (h.target _ _ htarget hlink).2 _ hdraft hvisits

/-- A draft is where its route finds its place, and the way to its folder has stayed. -/
theorem agrees_parent_of_drafted {time : Int} (hdraft : m.locate (draftRoute r) = .ok place)
    (hloose : IsLoose (m.node? place))
    (hnode : ∀ p, d'.node? p = if p = place then some (.file content time) else m.node? p) :
    Agrees m d' [] r.parent := by
  obtain ⟨base, draft, hroute⟩ := concat_of_locate hdraft hloose.1
  rw [hroute] at hdraft
  rw [(parent_of_draftRoute hroute).1]
  obtain ⟨-, -, home, hfollow, hfolder, -⟩ := follow_of_locate hdraft
  exact .of_place hnode hloose.1 (not_visits_of_isLoose hfollow hfolder hloose)

/-- Drafting a record does not change what is read along its route. -/
theorem IsOpen.read_iff_of_drafted (h : m.IsOpen r) (hdrafted : Drafted (draftRoute r) m d') :
    d'.read r = .ok content ↔ m.read r = .ok content := by
  rcases hdrafted with halike | ⟨place, held, time, hdraft, hloose, hnode⟩
  · exact halike.read_iff
  by_cases hend : ∃ (base : Route) (name : String), r = base ++ [.down name]
  · obtain ⟨base, name, rfl⟩ := hend
    have hparent := agrees_parent_of_drafted hdraft hloose hnode
    rw [Route.parent_concat] at hparent
    cases htarget : m.locate (base ++ [.down name]) with
    | ok target =>
      have hagrees : Agrees m d' [] (base ++ [.down name]) :=
        .of_place hnode hloose.1 (h.not_visits hdraft hloose htarget)
      rw [hagrees.read_eq]
    | error e =>
      -- A route that finds no place does not lead to any.
      have hnone : ∀ {e : Disk}, e.read (base ++ [.down name]) = .ok content →
          ∃ target, e.locate (base ++ [.down name]) = .ok target := by
        intro e hread
        obtain ⟨place, -, hfollow, -⟩ := follow_of_read hread
        exact exists_locate hfollow
      constructor
      · intro hread
        obtain ⟨target, hlocate⟩ := hnone hread
        rw [hparent.locate_eq, htarget] at hlocate
        cases hlocate
      · intro hread
        obtain ⟨target, hlocate⟩ := hnone hread
        rw [htarget] at hlocate
        cases hlocate
  · exact iff_of_false (fun hread => hend (concat_of_read hread))
      fun hread => hend (concat_of_read hread)

/-! ## The move -/

/-- Nothing has changed but what stands where certain routes find their places, and folders were
made where nothing stood. -/
def Spares (routes : List Route) (d d' : Disk) : Prop := ∀ p, d'.node? p = d.node? p ∨
  (∃ r ∈ routes, d'.locate r = .ok p) ∨ d.node? p = none ∧ d'.node? p = some .folder

theorem Spares.of_founding {routes : List Route} (hm : Founding way d m)
    (h : ∀ p, d'.node? p = m.node? p ∨ ∃ r ∈ routes, d'.locate r = .ok p) : Spares routes d d' := by
  intro p
  rcases h p with hsame | hplace
  · rcases hm p with hfirst | ⟨hnone, hmade, -⟩
    · exact .inl (hsame.trans hfirst)
    · exact .inr (.inr ⟨hnone, hsame.trans hmade⟩)
  · exact .inr (.inl hplace)

theorem locate_of_drafted (hdrafted : Drafted (draftRoute r) m d') (p : List String) :
    d'.node? p = m.node? p ∨ d'.locate (draftRoute r) = .ok p := by
  rcases hdrafted with halike | ⟨place, held, time, hdraft, hloose, hnode⟩
  · exact .inl (halike p)
  by_cases hp : p = place
  · subst hp
    right
    have hparent := agrees_parent_of_drafted hdraft hloose hnode
    obtain ⟨base, draft, hroute⟩ := concat_of_locate hdraft hloose.1
    rw [(parent_of_draftRoute hroute).1] at hparent
    rw [hroute] at hdraft ⊢
    rw [hparent.locate_eq, hdraft]
  · exact .inl (by rw [hnode, if_neg hp])

theorem read_of_trimmed {time : Int} (haccept : accept (base ++ [.down name]) = .ok ())
    (hsize : name.utf8ByteSize ≤ maxNameSize) (hfollow : d.follow base.trimmed = .ok home)
    (hfolder : d.node? home = some .folder)
    (hnode : d.node? (home ++ [name]) = some (.file content time)) :
    d.read (base ++ [.down name]) = .ok content :=
  read_concat haccept hsize (follow_of_trimmed (accept_of_append haccept) hfollow hfolder) hfolder
    hnode

theorem IsOpen.exists_place_of_writeFile (h : m.IsOpen r) {text : String} {now : UInt64}
    (hrun : Change.writeFile (draftRoute r) text now m = .ok () d') : ∃ place time,
      m.locate (draftRoute r) = .ok place ∧ IsLoose (m.node? place) ∧ d'.IsSole place ∧
        ∀ p, d'.node? p = if p = place then some (.file (.text text) time) else m.node? p := by
  obtain ⟨place, hlanding, hfolder, rfl⟩ := Change.written_of_writeFile hrun
  rw [landing_begun] at hlanding
  have hlocate := locate_of_landing h.draft hlanding
  have hsole : m.begun.IsSole place := h.alone place hlocate
  have hplace := ne_nil_of_ne_folder hfolder
  exact ⟨place, _, hlocate, ⟨hfolder, h.draft place hlocate⟩,
    (parting_written hplace hsole _).isSole hsole, node?_written_of_isSole hplace hsole _⟩

/-- The way to the folder of a record stays when its draft goes and a file comes in its place. -/
theorem IsOpen.agrees_of_moved {time : Int} (h : m.IsOpen (base ++ [.down name]))
    (hhome : m.follow base.trimmed = .ok home) (hfolder : m.node? home = some .folder)
    (htarget : m.locate (base ++ [.down name]) = .ok (home ++ [name]))
    (hfree : m.node? (home ++ [name]) ≠ some .folder) (hloose : IsLoose (m.node? (home ++ [draft])))
    (hmoved : ∀ p, d'.node? p = if p = home ++ [name] then some (.file content time)
      else if p = home ++ [draft] then none else m.node? p) : Agrees m d' [] base.trimmed := by
  intro p
  by_cases hp : p = home ++ [name]
  · subst hp
    refine .inr ⟨⟨hfree, by rw [hmoved, if_pos rfl]; exact nofun⟩, fun hvisits => ?_⟩
    by_cases hlink : ∃ target, m.node? (home ++ [name]) = some (.link target)
    · obtain ⟨target, hlink⟩ := hlink
      refine (h.target _ target htarget hlink).1 ?_
      rwa [Route.parent_concat]
    · refine not_visits_of_isLoose hhome hfolder ⟨hfree, ?_⟩ hvisits
      exact fun target heq => hlink ⟨target, heq⟩
  · by_cases hdraft : p = home ++ [draft]
    · subst hdraft
      refine .inr ⟨⟨hloose.1, ?_⟩, not_visits_of_isLoose hhome hfolder hloose⟩
      rw [hmoved, if_neg hp, if_pos rfl]
      exact nofun
    · exact .inl (by rw [hmoved, if_neg hp, if_neg hdraft])

/-- A draft that was moved to its record is read there, and all else is as it was. -/
theorem IsOpen.read_of_swapped (h : m.IsOpen r) {text : String} {now : UInt64}
    (hrun : (do
      Change.writeFile (draftRoute r) text now
      Change.rename (draftRoute r) r : Change Unit) m = .ok () d') :
    d'.read r = .ok (.text text) ∧
      ∀ p, d'.node? p = m.node? p ∨ ∃ s ∈ [r, draftRoute r], d'.locate s = .ok p := by
  obtain ⟨_, m', hwrite, hrename⟩ := Change.bind_eq_ok.1 hrun
  obtain ⟨place, time, hdraft, hloose, hsole, hwritten⟩ := h.exists_place_of_writeFile hwrite
  obtain ⟨source, target, node, hsource, htarget, hnode, hfree, rfl⟩ :=
    Change.moved_of_rename hrename
  obtain ⟨base, draft, hroute⟩ := concat_of_locate hdraft hloose.1
  obtain ⟨own, name, rfl⟩ := concat_of_locate htarget hfree
  obtain ⟨hparent, hown⟩ := parent_of_draftRoute hroute
  obtain ⟨rfl, hname⟩ := hown own name rfl
  -- Both places were found already before the draft was written.
  have hkept := agrees_parent_of_drafted hdraft hloose hwritten
  rw [hparent] at hkept
  rw [locate_begun, hroute, hkept.locate_eq, ← hroute, hdraft] at hsource
  obtain rfl := Except.ok.inj hsource
  rw [locate_begun, hkept.locate_eq] at htarget
  have hplace := hdraft
  rw [hroute] at hplace
  obtain ⟨haccept, hsize, home, hhome, hfolder, rfl⟩ := follow_of_locate htarget
  obtain ⟨-, -, home', hhome', -, rfl⟩ := follow_of_locate hplace
  obtain rfl : home' = home := Except.ok.inj (hhome'.symm.trans hhome)
  obtain rfl : node = .file (.text text) time := by
    rw [node?_begun, hwritten, if_pos rfl] at hnode
    exact (Option.some.inj hnode).symm
  have hne : home' ++ [name] ≠ home' ++ [draft] := fun heq => hname (by simpa using heq)
  have hmoved : ∀ p, (m'.begun.moved (home' ++ [draft]) (home' ++ [name])
      (.file (.text text) time)).node? p =
        if p = home' ++ [name] then some (.file (.text text) time)
        else if p = home' ++ [draft] then none else m.node? p := by
    intro p
    rw [node?_moved (by simp) (by simp) (by simp [hname.symm, hsole.isTwin]), node?_begun, hwritten]
    split
    · rfl
    · split <;> rfl
  rw [node?_begun, hwritten, if_neg hne] at hfree
  have hway := h.agrees_of_moved hhome hfolder htarget hfree hloose hmoved
  refine ⟨read_of_trimmed haccept hsize (hway.follow_eq.trans hhome) ((hway.folder_iff _).2 hfolder)
    (by rw [hmoved, if_pos rfl]), fun p => ?_⟩
  by_cases hp : p = home' ++ [name]
  · exact .inr ⟨_, List.mem_cons_self, by rw [hway.locate_eq, htarget, hp]⟩
  · by_cases hgone : p = home' ++ [draft]
    · refine .inr ⟨_, List.mem_cons_of_mem _ List.mem_cons_self, ?_⟩
      rw [hroute, hway.locate_eq, hplace, hgone]
    · exact .inl (by rw [hmoved, if_neg hp, if_neg hgone])

/-! ## Records -/

variable {v : Json} {now : UInt64}

/-- A record that was written is read, and but for its file and its draft nothing has changed. -/
theorem IsSafe.read_of_ok (h : d.IsSafe r) (hrun : Change.writeRecord r v now d = .ok () d') :
    d'.read r = .ok (.text v.pretty) ∧ Spares [r, draftRoute r] d d' := by
  obtain ⟨_, m, hfolders, hrun⟩ := Change.bind_eq_ok.1 hrun
  have hm : Founding r.parent d m := (Change.keeps_founding_makeFolders _).of_ok hfolders
  have hparting : Parting d m := (Change.keeps_parting_makeFolders _).of_ok hfolders
  obtain ⟨hread, hspared⟩ := (h.isOpen_of_founding hm hparting).read_of_swapped hrun
  exact ⟨hread, .of_founding hm hspared⟩

/-- A record that could not be written leaves a disk with folders that were made and with a draft at
most, and nothing in the way of the record. -/
theorem IsSafe.exists_drafted_of_error (h : d.IsSafe r) {e : IoError}
    (hrun : Change.writeRecord r v now d = .error e d') :
    ∃ m, (Founding r.parent d m ∧ m.IsOpen r) ∧ Drafted (draftRoute r) m d' := by
  have hmake := Change.keeps_founding_makeFolders r.parent
  have hpart := Change.keeps_parting_makeFolders r.parent
  rcases Change.bind_eq_error.1 hrun with hfailed | ⟨_, m, hmade, hrun⟩
  · have hm := hmake.of_error hfailed
    exact ⟨d', ⟨hm, h.isOpen_of_founding hm (hpart.of_error hfailed)⟩, .inl fun _ => rfl⟩
  have hm := hmake.of_ok hmade
  have hopen := h.isOpen_of_founding hm (hpart.of_ok hmade)
  have hwrite := Change.drafted_writeFile v.pretty now hopen.draft hopen.alone
  rcases Change.bind_eq_error.1 hrun with hfailed | ⟨_, m', hwritten, hrename⟩
  · rw [Change.diskAfter_of_error hfailed] at hwrite
    exact ⟨m, ⟨hm, hopen⟩, hwrite⟩
  · rw [Change.diskAfter_of_ok hwritten] at hwrite
    have halike : Alike m' d' := Change.rename_error hrename
    refine ⟨m, ⟨hm, hopen⟩, ?_⟩
    rcases hwrite with hsame | ⟨place, content, time, hlocate, hloose, hnode⟩
    · exact .inl fun p => (halike p).trans (hsame p)
    · exact .inr ⟨place, content, time, hlocate, hloose, fun p => (halike p).trans (hnode p)⟩

/-- If a record could not be written, its file is read as it was, and but for its draft nothing has
changed. -/
theorem IsSafe.read_of_error (h : d.IsSafe r) {e : IoError}
    (hrun : Change.writeRecord r v now d = .error e d') :
    (∀ content, d'.read r = .ok content ↔ d.read r = .ok content) ∧ Spares [draftRoute r] d d' := by
  obtain ⟨m, ⟨hm, hopen⟩, hdrafted⟩ := h.exists_drafted_of_error hrun
  refine ⟨fun content => ?_, .of_founding hm fun p => ?_⟩
  · exact (hopen.read_iff_of_drafted hdrafted).trans (h.read_iff_of_founding hm)
  · refine (locate_of_drafted hdrafted p).imp_right fun hlocate => ?_
    exact ⟨_, List.mem_singleton.2 rfl, hlocate⟩

end Gazetteer.Disk
