import Gazetteer.Proofs.Cache.Files
import Gazetteer.Proofs.Cache.Stored
import Gazetteer.Proofs.Disk.Drafting
import Gazetteer.Proofs.Disk.Removal
import Mathlib.Logic.Function.Basic

/-!
# Artifacts are kept as in a map

The store of artifacts is a map from kinds to what was saved last (`Performed.shelf`). Each kind has
a file of its own, and no draft is left behind by a save that succeeds, so the files of the other
kinds stay what they are (`Shelf.replace`). What is saved can be loaded, along whatever links the
cache folder is reached.
-/

namespace Gazetteer

open Json

namespace Cache

open Disk (Alike Change Filing Founding IsLoose Route)

variable {root : Route} {d d' : Disk} {home : List String} {kind : Kind} {data : Json}

/-! ## Routes and names -/

theorem folder_eq (root : Route) :
    folder root = root.opened ++ Route.ofNames [".atlas", "cache"] := by
  have hopened : Route.opened (root.opened ++ [.down ".atlas"]) =
      root.opened ++ [.down ".atlas"] := by simp [Route.opened]
  rw [folder, Route.child, Route.child, hopened, List.append_assoc]
  rfl

theorem trimmed_folder (root : Route) : (folder root).trimmed = folder root := by
  rw [folder, Route.child, Route.trimmed_concat]

theorem Kind.route_eq (root : Route) (k : Kind) :
    k.route root = folder root ++ [.down k.fileName] := by
  have hopened : (folder root).opened = folder root := by
    rw [folder, Route.child]
    simp [Route.opened]
  rw [route, Route.child, hopened]

theorem Kind.fileName_injective : Function.Injective fileName := by
  intro k l
  cases k <;> cases l <;> simp [fileName]

theorem Kind.draftName_ne (k l : Kind) : Change.draftName k.fileName ≠ l.fileName := by
  cases k <;> cases l <;> decide

namespace Artifact

/-! ## What a cache folder holds -/

/-- What is written for an artifact. -/
def text (kind : Kind) (data : Json) (now : UInt64) : String :=
  (Envelope.encode ⟨artifactFormat, kind, now, data⟩).pretty

/-- At a place stands an artifact of a kind with certain data, or nothing. -/
def Shows (d : Disk) (place : List String) (kind : Kind) : Option Json → Prop
  | none => d.node? place = none
  | some data => ∃ now time, d.node? place = some (.file (.text (text kind data now)) time)

theorem Shows.isLoose {place : List String} {data? : Option Json}
    (h : Shows d place kind data?) : IsLoose (d.node? place) := by
  cases data? with
  | none =>
    have hnone : d.node? place = none := h
    rw [hnone]
    exact ⟨nofun, nofun⟩
  | some data =>
    obtain ⟨now, time, hfile⟩ := h
    rw [hfile]
    exact ⟨nofun, nofun⟩

theorem Shows.congr {place : List String} {data? : Option Json} (h : Shows d place kind data?)
    (hsame : d'.node? place = d.node? place) : Shows d' place kind data? := by
  cases data? with
  | none => exact hsame.trans h
  | some data =>
    obtain ⟨now, time, hfile⟩ := h
    exact ⟨now, time, hsame.trans hfile⟩

/-- The cache folder of a project holds exactly certain artifacts: their files, which can be read,
and neither the files of other kinds nor drafts. The folder may be missing if it holds none. -/
structure Shelf (root : Route) (held : Kind → Option Json) (d : Disk) : Prop where
  tree : d.IsTree
  way : ∃ top names above, folder root = top ++ Route.ofNames names ∧ d.Leads [] top above ∧
    d.node? above = some .folder
  kinds : ∀ home, d.Leads [] (folder root) home → ∀ kind : Kind,
    Shows d (home ++ [kind.fileName]) kind (held kind)
  drafts : ∀ home, d.Leads [] (folder root) home → ∀ kind : Kind,
    d.node? (home ++ [Change.draftName kind.fileName]) = none
  reads : ∀ kind data, held kind = some data →
    ∃ now, d.read (kind.route root) = .ok (.text (text kind data now))

variable {held : Kind → Option Json}

namespace Shelf

theorem of_alike (h : Shelf root held d) (halike : Alike d d') : Shelf root held d' := by
  have hback := halike.symm.sustains
  obtain ⟨top, names, above, hroute, htop, habove⟩ := h.way
  refine ⟨?_, ⟨top, names, above, hroute, halike.sustains.leads htop, (halike above).trans habove⟩,
    fun home hway kind => ?_, fun home hway kind => ?_, fun kind data hheld => ?_⟩
  · exact (Filing.of_alike halike : Filing [] [] d d').isTree h.tree (.nil d') (Disk.node?_nil d')
  · exact (h.kinds home (hback.leads hway) kind).congr (halike _)
  · exact (halike _).trans (h.drafts home (hback.leads hway) kind)
  · obtain ⟨now, hread⟩ := h.reads kind data hheld
    exact ⟨now, halike.read_iff.2 hread⟩

/-- An artifact that is held is a file of the folder. -/
theorem exists_file (h : Shelf root held d) (hheld : held kind = some data) : ∃ home now time,
    d.Leads [] (folder root) home ∧ d.follow (kind.route root) = .ok (home ++ [kind.fileName]) ∧
      d.node? (home ++ [kind.fileName]) = some (.file (.text (text kind data now)) time) ∧
        d.read (kind.route root) = .ok (.text (text kind data now)) := by
  obtain ⟨now, hread⟩ := h.reads kind data hheld
  obtain ⟨place, time, hfollow, hfile⟩ := Disk.follow_of_read hread
  have hleads := Disk.leads_of_follow hfollow
  rw [kind.route_eq] at hleads
  obtain ⟨home, hway, -⟩ := hleads.split
  rcases hleads.concat_cases hway with ⟨rfl, -⟩ | ⟨target, hlink, -⟩
  · exact ⟨home, now, time, hway, hfollow, hfile, hread⟩
  · exact absurd hlink ((h.kinds home hway kind).isLoose.2 target)

/-- What is read is held. -/
theorem held_of_read (h : Shelf root held d) {content : Disk.Content}
    (hread : d.read (kind.route root) = .ok content) : held kind ≠ none := by
  intro hnone
  obtain ⟨place, time, hfollow, hfile⟩ := Disk.follow_of_read hread
  have hleads := Disk.leads_of_follow hfollow
  rw [kind.route_eq] at hleads
  obtain ⟨home, hway, -⟩ := hleads.split
  have hshows := h.kinds home hway kind
  rw [hnone] at hshows
  exact hleads.ne_none hway hshows

/-! ### What changes it -/

/-- Folders that are made on the way hold nothing. -/
theorem founding (h : Shelf root held d) (hfounding : Founding (folder root) d d')
    (hway : d'.Leads [] (folder root) home) (hfolder : d'.node? home = some .folder) :
    Shelf root held d' := by
  obtain ⟨top, names, above, hroute, htop, habove⟩ := h.way
  rw [hroute] at hfounding
  have hmade := hfounding.above (Route.up_not_mem_ofNames _) h.tree htop (hroute ▸ hway)
  by_cases hhome : d.node? home = none
  · -- The folder was made, so nothing was held, and nothing stands below it.
    have hchild : ∀ name, d'.node? (home ++ [name]) = none := by
      intro name
      rcases hmade (home ++ [name]) with hsame | ⟨-, -, honway, -⟩
      · rw [hsame, h.tree.eq_none hhome]
      · exact absurd honway Disk.not_prefix_concat
    have hheld : ∀ kind, held kind = none := by
      intro kind
      by_contra hne
      obtain ⟨data, hdata⟩ := Option.ne_none_iff_exists'.1 hne
      obtain ⟨place, now, time, hplace, -⟩ := h.exists_file hdata
      obtain rfl := (hfounding.sustains.leads hplace).unique hway
      refine hplace.node?_ne_none h.tree ?_ hhome
      rw [Disk.node?_nil]
      exact nofun
    have hstoring : Filing home [] d d' := ⟨fun p =>
      (hmade p).imp_right fun ⟨hnone, hnew, honway, _⟩ => .inr ⟨honway, hnone, hnew⟩⟩
    refine ⟨hstoring.isTree h.tree (hway.isSolid (.nil d')) hfolder,
      ⟨top, names, above, hroute, hfounding.sustains.leads htop, hstoring.folder habove⟩,
      fun place hplace kind => ?_, fun place hplace kind => ?_, fun kind data hdata => ?_⟩
    · obtain rfl := hplace.unique hway
      rw [hheld kind]
      exact hchild _
    · obtain rfl := hplace.unique hway
      exact hchild _
    · rw [hheld kind] at hdata
      cases hdata
  · exact h.of_alike fun p => (hmade p).resolve_right fun ⟨_, _, _, hnone⟩ => hhome hnone

/-- The file of a kind may come, change or go. -/
theorem replace (h : Shelf root held d) {data? : Option Json}
    (hfollow : d.follow (folder root) = .ok home) (hfolder : d.node? home = some .folder)
    (hshows : Shows d' (home ++ [kind.fileName]) kind data?)
    (hother : ∀ p, p ≠ home ++ [kind.fileName] → d'.node? p = d.node? p)
    (hreads : ∀ data, data? = some data →
      ∃ now, d'.read (kind.route root) = .ok (.text (text kind data now))) :
    Shelf root (Function.update held kind data?) d' := by
  have hhome := Disk.leads_of_follow hfollow
  have hstoring : Filing home [kind.fileName] d d' :=
    .of_file List.mem_cons_self (h.kinds home hhome kind).isLoose hshows.isLoose hother
  have hstays := hstoring.folder hfolder
  have hhome' : d'.Leads [] (folder root) home :=
    hstoring.leads hhome (by rw [hstays]; exact nofun)
  have hfile : ∀ other, other ≠ kind →
      d'.node? (home ++ [other.fileName]) = d.node? (home ++ [other.fileName]) := by
    intro other hne
    refine hother _ fun heq => hne (Kind.fileName_injective ?_)
    simpa using heq
  obtain ⟨top, names, above, hroute, htop, habove⟩ := h.way
  have habove' := hstoring.folder habove
  refine ⟨hstoring.isTree h.tree (hhome'.isSolid (.nil d')) hstays,
    ⟨top, names, above, hroute, hstoring.leads htop (by rw [habove']; exact nofun), habove'⟩,
    fun place hplace other => ?_, fun place hplace other => ?_, fun other data hheld => ?_⟩
  · obtain rfl := hplace.unique hhome'
    by_cases heq : other = kind
    · subst heq
      rwa [Function.update_self]
    · rw [Function.update_of_ne heq]
      exact (h.kinds home hhome other).congr (hfile other heq)
  · obtain rfl := hplace.unique hhome'
    rw [hother _ fun heq => other.draftName_ne kind (by simpa using heq)]
    exact h.drafts home hhome other
  · by_cases heq : other = kind
    · subst heq
      rw [Function.update_self] at hheld
      exact hreads data hheld
    · rw [Function.update_of_ne heq] at hheld
      obtain ⟨place, now, time, hplace, hend, hnode, -⟩ := h.exists_file hheld
      obtain rfl := hplace.unique hhome
      exact ⟨now, hstoring.read hend ((hfile other heq).trans hnode)⟩

theorem save (h : Shelf root held d) {now : UInt64}
    (hrun : Artifact.save root kind data now d = .ok () d') :
    Shelf root (Function.update held kind (some data)) d' := by
  rw [Artifact.save, kind.route_eq, Change.writeRecord, Route.parent_concat, trimmed_folder,
    Disk.draftRoute_concat _ kind.isDotted_fileName] at hrun
  obtain ⟨_, m, hfolders, hrun⟩ := Change.bind_eq_ok.1 hrun
  have hfounding := (Change.keeps_founding_makeFolders (folder root)).of_ok hfolders
  have hm : ∀ home, m.Leads [] (folder root) home → m.node? home = some .folder →
      Shelf root held m := fun home => h.founding hfounding
  obtain ⟨home, time, ⟨hfollow, hfolder⟩, hfile, hother, hread⟩ :=
    Change.exists_home_of_draft (trimmed_folder root) (kind.draftName_ne kind)
      (fun home hway hfolder => ⟨(hm home hway hfolder).drafts home hway kind,
        ((hm home hway hfolder).kinds home hway kind).isLoose⟩) hrun
  rw [← kind.route_eq] at hread
  refine (hm home (Disk.leads_of_follow hfollow) hfolder).replace hfollow hfolder
    ⟨now, time, hfile⟩ hother fun saved hsaved => ?_
  obtain rfl := Option.some.inj hsaved
  exact ⟨now, hread⟩

/-- What is removed was held. -/
theorem removeFile (h : Shelf root held d)
    (hrun : Change.removeFile (kind.route root) d = .ok () d') :
    (held kind).isSome = true ∧ Shelf root (Function.update held kind none) d' := by
  obtain ⟨place, node, hlocate, hnode, -, rfl⟩ := Change.removed_of_removeFile hrun
  have hm := h.of_alike (Disk.alike_begun d)
  rw [kind.route_eq] at hlocate
  obtain ⟨-, -, home, hfollow, hfolder, rfl⟩ := Disk.follow_of_locate hlocate
  rw [trimmed_folder] at hfollow
  have hremoved : ∀ p, (d.begun.removed (home ++ [kind.fileName])).node? p =
      if p = home ++ [kind.fileName] then none else d.begun.node? p := Disk.node?_removed (by simp)
  refine ⟨?_, hm.replace hfollow hfolder ?_ (fun p hp => by rw [hremoved, if_neg hp]) nofun⟩
  · have hshows := hm.kinds home (Disk.leads_of_follow hfollow) kind
    cases hheld : held kind with
    | some data => rfl
    | none =>
      rw [hheld] at hshows
      cases hshows.symm.trans hnode
  · exact (hremoved _).trans (if_pos rfl)

/-- What is not found is not held. -/
theorem removeFile_notFound (h : Shelf root held d)
    (hrun : Change.removeFile (kind.route root) d = .error .notFound d') :
    held kind = none ∧ Shelf root held d' := by
  obtain ⟨halike, hlost⟩ := Change.removeFile_notFound hrun
  have hd' := h.of_alike halike
  refine ⟨?_, hd'⟩
  by_contra hne
  obtain ⟨data, hdata⟩ := Option.ne_none_iff_exists'.1 hne
  obtain ⟨home, now, time, hhome, hfollow, hfile, -⟩ := hd'.exists_file hdata
  obtain ⟨own, hlocate⟩ := Disk.exists_locate hfollow
  have hnone := hlost own hlocate
  rw [kind.route_eq] at hlocate
  obtain ⟨place, hplace, -, rfl⟩ := Disk.locate_concat hlocate
  obtain rfl := hplace.unique hhome
  rw [hfile] at hnone
  cases hnone

theorem removeKind (h : Shelf root held d) {removed : Nat}
    (hrun : (do
      try
        Change.removeFile (kind.route root)
        pure 1
      catch
        | .notFound => pure 0
        | e => throw e : Change Nat) d = .ok removed d') :
    removed = (if (held kind).isSome then 1 else 0) ∧
      Shelf root (Function.update held kind none) d' := by
  cases hremove : Change.removeFile (kind.route root) d with
  | ok _ m =>
    have hone : (do Change.removeFile (kind.route root); pure 1 : Change Nat) d = .ok 1 m :=
      Change.bind_of_ok hremove
    cases (Change.tryCatch_of_ok hone).symm.trans hrun
    obtain ⟨hheld, hm⟩ := h.removeFile hremove
    exact ⟨by rw [if_pos hheld], hm⟩
  | error e m =>
    have hnone : (do Change.removeFile (kind.route root); pure 1 : Change Nat) d = .error e m :=
      Change.bind_of_error hremove
    have hcaught := (Change.tryCatch_of_error hnone).symm.trans hrun
    cases e with
    | notFound =>
      cases hcaught
      obtain ⟨hnone, hm⟩ := h.removeFile_notFound hremove
      rw [← hnone, Function.update_eq_self]
      exact ⟨by rw [hnone]; rfl, hm⟩
    | _ => cases hcaught

theorem removeKinds {kinds : List Kind} (h : Shelf root held d) (hnodup : kinds.Nodup) {n : Nat}
    (hrun : Artifact.removeKinds root kinds d = .ok n d') :
    n = kinds.countP (fun kind => (held kind).isSome) ∧
      Shelf root (fun kind => if kind ∈ kinds then none else held kind) d' := by
  induction kinds generalizing held d n with
  | nil =>
    cases hrun
    exact ⟨rfl, h⟩
  | cons kind kinds ih =>
    obtain ⟨hfresh, hnodup⟩ := List.nodup_cons.1 hnodup
    rw [Artifact.removeKinds] at hrun
    obtain ⟨removed, m, hfirst, hrun⟩ := Change.bind_eq_ok.1 hrun
    obtain ⟨more, m', hrest, hrun⟩ := Change.bind_eq_ok.1 hrun
    cases hrun
    obtain ⟨hremoved, hm⟩ := h.removeKind hfirst
    obtain ⟨hmore, hlast⟩ := ih hm hnodup hrest
    have hcount : kinds.countP (fun other => (Function.update held kind none other).isSome) =
        kinds.countP fun other => (held other).isSome := by
      refine List.countP_congr fun other hother => ?_
      rw [Function.update_of_ne (ne_of_mem_of_not_mem hother hfresh)]
    have hleft : (fun other => if other ∈ kinds then none
        else Function.update held kind none other) =
        fun other => if other ∈ kind :: kinds then none else held other := by
      funext other
      by_cases heq : other = kind
      · simp [heq]
      · simp [heq]
    rw [hleft] at hlast
    refine ⟨?_, hlast⟩
    rw [hremoved, hmore, hcount, List.countP_cons, Nat.add_comm]

/-! ### What is loaded -/

/-- What is not held is not loaded. -/
theorem load?_eq_none (h : Shelf root held d) (hnone : held kind = none) {α : Type}
    (decoder : Decoder α) : load? d root kind decoder = none := by
  unfold load? Disk.readRecord
  cases hread : d.read (kind.route root) with
  | ok content => exact absurd hnone (h.held_of_read hread)
  | error e => cases e <;> rfl

/-- What is held is loaded, if it can be read as a text. -/
theorem load?_eq_some (h : Shelf root held d) (hheld : held kind = some data)
    (hexact : data.IsExact) {α : Type} {decoder : Decoder α} {depth : Nat} {a : α}
    (hdepth : depth < 127) (hdecodes : Decodes decoder depth data a) :
    load? d root kind decoder = some a := by
  have hformat : artifactFormat < UInt32.size := by decide
  obtain ⟨now, hread⟩ := h.reads kind data hheld
  have hexact' : (Envelope.encode ⟨artifactFormat, kind, now, data⟩).IsExact :=
    Envelope.isExact_encode hformat hexact
  have hfound := Disk.Record.ofContent_pretty hexact' (Nat.succ_lt_succ hdepth)
    (Envelope.decodes_encode hformat hdecodes)
  rw [← text] at hfound
  unfold load? Disk.readRecord
  rw [hread]
  simp only [hfound, and_self, if_true]

end Shelf

/-! ## Runs -/

inductive Operation where
  | save (kind : Kind) (data : Json) (now : UInt64)
  | removeAll

namespace Operation

def isRemoval : Operation → Bool
  | .save _ _ _ => false
  | .removeAll => true

def savedAs? (kind : Kind) : Operation → Option Json
  | .save saved data _ => if saved = kind then some data else none
  | .removeAll => none

end Operation

/-- What a run has saved last under a kind since it removed all artifacts. -/
def lastSaved? (ops : List Operation) (kind : Kind) : Option Json :=
  (ops.reverse.takeWhile fun op => !op.isRemoval).findSome? (Operation.savedAs? kind)

/-- Runs of operations from a disk that all succeed. -/
inductive Performed (root : Route) (e : Disk) : List Operation → Disk → Prop
  | start : Performed root e [] e
  | save {ops d d' kind data now} (before : Performed root e ops d)
    (run : Artifact.save root kind data now d = .ok () d') :
    Performed root e (ops ++ [.save kind data now]) d'
  | removeAll {ops d d' count} (before : Performed root e ops d)
    (run : Artifact.removeAll root d = .ok count d') : Performed root e (ops ++ [.removeAll]) d'

variable {ops : List Operation} {e : Disk}

theorem lastSaved?_save (ops : List Operation) (kind : Kind) (data : Json) (now : UInt64) :
    lastSaved? (ops ++ [.save kind data now]) =
      Function.update (lastSaved? ops) kind (some data) := by
  funext other
  unfold lastSaved?
  rw [List.reverse_append, List.reverse_singleton, List.singleton_append,
    List.takeWhile_cons_of_pos rfl, List.findSome?_cons, Operation.savedAs?]
  by_cases heq : other = kind
  · rw [heq, Function.update_self, if_pos rfl]
  · rw [Function.update_of_ne heq, if_neg (Ne.symm heq)]

theorem lastSaved?_removeAll (ops : List Operation) :
    lastSaved? (ops ++ [.removeAll]) = fun _ => none := by
  funext kind
  unfold lastSaved?
  rw [List.reverse_append, List.reverse_singleton, List.singleton_append]
  rfl

/-- Nothing stands in the cache folder of a project, be the folder there or not. On the way to the
project there is a folder from which it is reached by names only. -/
structure IsBare (root : Route) (e : Disk) : Prop where
  tree : e.IsTree
  way : ∃ top names above, root.opened = top ++ Route.ofNames names ∧ e.Leads [] top above ∧
    e.node? above = some .folder
  empty : ∀ home, e.Leads [] (folder root) home → ∀ name, e.node? (home ++ [name]) = none

/-- A cache folder that is there and empty. -/
theorem IsBare.of_follow (htree : e.IsTree) (hfollow : e.follow (folder root) = .ok home)
    (hempty : ∀ name, e.node? (home ++ [name]) = none) : IsBare root e := by
  have hway := Disk.leads_of_follow hfollow
  have hsplit := hway
  rw [folder_eq] at hsplit
  obtain ⟨above, habove, honward⟩ := hsplit.split
  refine ⟨htree, ⟨root.opened, [], above, (List.append_nil _).symm, habove, ?_⟩, ?_⟩
  · cases honward with
    | idle hfolder | down hfolder | jump hfolder => exact hfolder
  · intro place hplace name
    obtain rfl := hway.unique hplace
    exact hempty name

theorem IsBare.shelf (h : IsBare root e) : Shelf root (fun _ => none) e := by
  obtain ⟨top, names, above, hroot, htop, habove⟩ := h.way
  refine ⟨h.tree, ⟨top, names ++ [".atlas", "cache"], above, ?_, htop, habove⟩,
    fun home hway _ => h.empty home hway _, fun home hway _ => h.empty home hway _, nofun⟩
  rw [folder_eq, hroot, List.append_assoc, Route.ofNames, Route.ofNames, Route.ofNames,
    List.map_append]

/-- After a run the cache folder holds what was saved last. -/
theorem Performed.shelf (h : Performed root e ops d) (hbare : IsBare root e) :
    Shelf root (lastSaved? ops) d := by
  induction h with
  | start => exact hbare.shelf
  | save _ hrun ih =>
    rw [lastSaved?_save]
    exact ih.save hrun
  | removeAll _ hrun ih =>
    rw [lastSaved?_removeAll]
    have hall : ∀ kind, kind ∈ Kind.all := by intro kind; cases kind <;> decide
    obtain ⟨-, hlast⟩ := ih.removeKinds (by decide) hrun
    simpa only [hall, if_true] using hlast

/-- **Artifacts are kept as in a map.** From a project with an empty cache folder, after any run of
saves and removals that succeed: under a kind to which nothing was saved since the last removal
nothing is loaded, whatever stands under other kinds. Otherwise exactly what was saved last is
loaded, of any type that is read back from what it is written as, its numbers being words and it not
being nested too deep for a text; so every map whose counts are words is, and every import graph. A
further removal counts the kinds under which something was saved. -/
theorem artifacts_are_last_saved (hbare : IsBare root e) (h : Performed root e ops d) :
    (∀ kind, lastSaved? ops kind = none → ∀ (α : Type) (decoder : Decoder α),
      load? d root kind decoder = none) ∧
    (∀ kind data, lastSaved? ops kind = some data → data.IsExact →
      ∀ (α : Type) (decoder : Decoder α) (depth : Nat) (a : α), depth < 127 →
        Decodes decoder depth data a → load? d root kind decoder = some a) ∧
    (∀ kind (m : ProjectMap), m.IsCountable → lastSaved? ops kind = some m.encode →
      load? d root kind ProjectMap.decoder = some m) ∧
    (∀ kind (g : Graph), lastSaved? ops kind = some g.encode →
      load? d root kind Graph.decoder = some g) ∧
    ∀ count d', removeAll root d = .ok count d' →
      count = Kind.all.countP fun kind => (lastSaved? ops kind).isSome := by
  have hshelf := h.shelf hbare
  refine ⟨fun kind hnone α decoder => hshelf.load?_eq_none hnone decoder,
    fun kind data hsaved hexact α decoder depth a hdepth hdecodes =>
      hshelf.load?_eq_some hsaved hexact hdepth hdecodes, fun kind m hm hsaved => ?_,
    fun kind g hsaved => ?_, fun count d' hrun => (hshelf.removeKinds (by decide) hrun).1⟩
  · have hdecodes : Decodes ProjectMap.decoder 4 m.encode m := ProjectMap.decodes_encode hm
    exact hshelf.load?_eq_some hsaved (ProjectMap.isExact_encode hm) (by decide) hdecodes
  · have hdecodes : Decodes Graph.decoder 3 g.encode g := g.decodes_encode
    exact hshelf.load?_eq_some hsaved g.isExact_encode (by decide) hdecodes

namespace Sample

/-- A project with an empty cache folder. -/
def bare : Disk where
  nodes := .ofList [(["p"], .folder), (["p", ".atlas"], .folder),
    (["p", ".atlas", "cache"], .folder)]
  faults := []
  workingFolder := []

def map : ProjectMap :=
  ⟨[⟨"src/a.ts", .other, .ofList ["core"], none⟩], .ofList [(.other, 1)],
    [⟨"core", "Core", some "The \"core\".", false, 1⟩]⟩

def graph : Graph := Graph.empty.addEdge "a.ts" "b.ts"

/-- A run of two saves. -/
def saves : List Operation := [.save .map map.encode 5, .save .graph graph.encode 6]

theorem isBare_bare : IsBare (.ofNames ["p"]) bare := by
  have hfollow : bare.follow (folder (.ofNames ["p"])) = .ok ["p", ".atlas", "cache"] := by
    decide
  have hshort : ∀ entry ∈ bare.nodes.entries, entry.1.length ≤ 3 := by decide
  refine .of_follow (by decide) hfollow fun name => ?_
  rw [Disk.node?_of_ne_nil (by simp), Option.eq_none_iff_forall_ne_some]
  intro node hnode
  have hlength := hshort _ (OrdMap.find?_eq_some_iff.1 hnode)
  simp at hlength

/-- Whatever is saved, the disk takes it. -/
theorem exists_performed (data data' : Json) : ∃ d d', Performed (.ofNames ["p"]) bare
    [.save .map data 5, .save .graph data' 6] d ∧ removeAll (.ofNames ["p"]) d = .ok 2 d' :=
  ⟨_, _, .save (.save .start rfl) rfl, rfl⟩

end Sample

theorem saved_map_and_graph_are_loaded : ∃ d d',
    (IsBare (.ofNames ["p"]) Sample.bare ∧
      Performed (.ofNames ["p"]) Sample.bare Sample.saves d ∧ Sample.map.IsCountable ∧
        removeAll (.ofNames ["p"]) d = .ok 2 d') ∧
    load? d (.ofNames ["p"]) .map ProjectMap.decoder = some Sample.map ∧
    load? d (.ofNames ["p"]) .graph Graph.decoder = some Sample.graph ∧
    load? d (.ofNames ["p"]) .symbols Decoder.any = none ∧
    2 = Kind.all.countP fun kind => (lastSaved? Sample.saves kind).isSome := by
  obtain ⟨d, d', hrun, hremove⟩ := Sample.exists_performed Sample.map.encode Sample.graph.encode
  have hcount : Sample.map.IsCountable := ⟨by decide, by decide⟩
  obtain ⟨hnone, -, hmaps, hgraphs, hcounts⟩ := artifacts_are_last_saved Sample.isBare_bare hrun
  exact ⟨d, d', ⟨Sample.isBare_bare, hrun, hcount, hremove⟩, hmaps .map Sample.map hcount rfl,
    hgraphs .graph Sample.graph rfl, hnone .symbols rfl Json Decoder.any, hcounts 2 d' hremove⟩

end Artifact
end Cache
end Gazetteer
