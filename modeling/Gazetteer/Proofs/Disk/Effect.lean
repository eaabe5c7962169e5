import Gazetteer.Proofs.Disk.Frame
import Gazetteer.Proofs.Disk.Way

/-!
# Effects of single changes

What a change leaves of a disk: what stands at each place, which places are names of one file, and
when folders have changed. What is written under one name of a file stands under all of them
(`node?_written`). But a place that has no other name keeps to itself, and gets none (`Parting`).
-/

namespace Gazetteer.Disk

variable {d d' : Disk} {place p q source target : List String} {node : Node}

theorem isTwin_iff : d.isTwin p q = true ↔ p ≠ q ∧
    (∃ number, d.numbers.find? p = some number ∧ d.numbers.find? q = some number) ∧
      ∃ content time, d.node? p = some (.file content time) ∧
        d.node? q = some (.file content time) := by
  unfold isTwin
  simp only [Bool.and_eq_true, decide_eq_true_eq, Option.isSome_iff_exists, Option.any_eq_true,
    and_assoc]
  constructor
  · rintro ⟨hne, ⟨number, hp⟩, hq, ⟨node, hnode, hfile⟩, hsame⟩
    cases node with
    | file content time =>
      exact ⟨hne, ⟨number, hp, hq.trans hp⟩, content, time, hnode, hsame.trans hnode⟩
    | folder | link => cases hfile
  · rintro ⟨hne, ⟨number, hp, hq⟩, content, time, hnode, hsame⟩
    exact ⟨hne, ⟨number, hp⟩, hq.trans hp.symm, ⟨_, hnode, rfl⟩, hsame.trans hnode.symm⟩

theorem isTwin_comm : d.isTwin p q = d.isTwin q p := by
  rw [Bool.eq_iff_iff, isTwin_iff, isTwin_iff]
  constructor
  · rintro ⟨hne, ⟨number, hp, hq⟩, content, time, hnode, hnode'⟩
    exact ⟨hne.symm, ⟨number, hq, hp⟩, content, time, hnode', hnode⟩
  · rintro ⟨hne, ⟨number, hp, hq⟩, content, time, hnode, hnode'⟩
    exact ⟨hne.symm, ⟨number, hq, hp⟩, content, time, hnode', hnode⟩

theorem isSole_iff : d.IsSole place ↔ ∀ q, d.isTwin place q = false := by
  constructor
  · intro h q
    refine Bool.eq_false_iff.2 fun htwin => ?_
    obtain ⟨-, ⟨number, -, hq⟩, -⟩ := isTwin_iff.1 htwin
    rw [h _ (OrdMap.find?_eq_some_iff.1 hq)] at htwin
    cases htwin
  · exact fun h e _ => h e.1

theorem IsSole.isTwin (h : d.IsSole place) (q : List String) : d.isTwin place q = false :=
  isSole_iff.1 h q

/-- Only a file has another name. -/
theorem isSole_of_not_file (h : ∀ content time, d.node? place ≠ some (.file content time)) :
    d.IsSole place := by
  refine isSole_iff.2 fun q => Bool.eq_false_iff.2 fun htwin => ?_
  obtain ⟨-, -, content, time, hnode, -⟩ := isTwin_iff.1 htwin
  exact h content time hnode

theorem isSole_of_node?_eq_none (h : d.node? place = none) : d.IsSole place :=
  isSole_of_not_file fun content time hnode => by rw [h] at hnode; cases hnode

/-- Without numbers no file has another name. -/
theorem isSole_of_numbers (h : d.numbers.entries = []) (place : List String) : d.IsSole place := by
  intro e he
  rw [h] at he
  cases he

/-- Only names of one file are names of one file later. -/
def Parting (d d' : Disk) : Prop := ∀ p q, d'.isTwin p q = true → d.isTwin p q = true

instance : Change.Frame Parting where
  refl _ _ _ := id
  trans h h' p q htwin := h p q (h' p q htwin)
  faults _ _ _ _ := id

/-! ## Disks with the same nodes -/

/-- The same stands everywhere on two disks. -/
def Alike (d d' : Disk) : Prop := ∀ p, d'.node? p = d.node? p

instance : Change.Frame Alike where
  refl _ _ := rfl
  trans h h' p := (h' p).trans (h p)
  faults _ _ _ := rfl

theorem Alike.symm (h : Alike d d') : Alike d' d := fun p => (h p).symm

/-- Ways lead where they lead by what stands on the disk. -/
theorem Alike.walkWith_eq (h : Alike d d')
    {jump jump' : List String → List Step → Except IoError (List String)}
    (hjump : ∀ here steps, jump' here steps = jump here steps) (here : List String)
    (steps : List Step) : d'.walkWith jump' here steps = d.walkWith jump here steps := by
  induction steps generalizing here with
  | nil => rfl
  | cons step steps ih =>
    cases step with
    | here | blank | up => rw [walkWith, walkWith, h here, ih]
    | down name =>
      rw [walkWith, walkWith, h here]
      simp only [h (here ++ [name]), ih, hjump]

theorem Alike.walk_eq (h : Alike d d') (links : Nat) (here : List String) (steps : List Step) :
    d'.walk links here steps = d.walk links here steps := by
  induction links generalizing here steps with
  | zero => exact h.walkWith_eq (fun _ _ => rfl) here steps
  | succ links ih => exact h.walkWith_eq (fun _ _ => ih _ _) here steps

theorem Alike.follow_eq (h : Alike d d') (r : Route) : d'.follow r = d.follow r := by
  unfold Disk.follow
  simp only [h.walk_eq]

theorem Alike.locate_eq (h : Alike d d') (r : Route) : d'.locate r = d.locate r := by
  unfold locate
  simp only [h.follow_eq, h _]

theorem Alike.landing_eq (h : Alike d d') (r : Route) (links : Nat) :
    d'.landing r links = d.landing r links := by
  induction links generalizing r with
  | zero => rfl
  | succ links ih => simp only [landing, h.locate_eq, h _, ih]

/-- The disk once a change has begun, which uses up a fault. -/
def begun (d : Disk) : Disk := { d with faults := d.faults.tail }

theorem alike_begun (d : Disk) : Alike d d.begun := fun _ => rfl

theorem parting_begun (d : Disk) : Parting d d.begun := fun _ _ => id

@[simp] theorem node?_begun (p : List String) : d.begun.node? p = d.node? p := rfl

@[simp] theorem isTwin_begun (p q : List String) : d.begun.isTwin p q = d.isTwin p q := rfl

@[simp] theorem isSole_begun : d.begun.IsSole place ↔ d.IsSole place := Iff.rfl

@[simp] theorem locate_begun (r : Route) : d.begun.locate r = d.locate r :=
  (alike_begun d).locate_eq r

@[simp] theorem landing_begun (r : Route) (links : Nat) :
    d.begun.landing r links = d.landing r links := (alike_begun d).landing_eq r links

/-- A file is not written over a folder. -/
theorem landing_of_writable {r : Route} (h : d.writable r = .ok place) :
    d.landing r maxLinks = .ok place ∧ d.node? place ≠ some .folder := by
  unfold writable at h
  simp only [bind, Except.bind] at h
  split at h
  · cases h
  next landed hlanding =>
    split at h
    · cases h
    · cases h
    next hfolder _ =>
      obtain rfl := Except.ok.inj h
      exact ⟨hlanding, hfolder⟩

/-! ## What stands after a change -/

@[simp] theorem node?_stamped (folders : List (List String)) (p : List String) :
    (d.stamped folders).node? p = d.node? p := rfl

@[simp] theorem isTwin_stamped (folders : List (List String)) (p q : List String) :
    (d.stamped folders).isTwin p q = d.isTwin p q := rfl

theorem node?_founded (hplace : place ≠ []) (p : List String) :
    (d.founded place).node? p = if p = place then some .folder else d.node? p :=
  node?_put hplace .folder p

theorem node?_removed (hplace : place ≠ []) (p : List String) :
    (d.removed place).node? p = if p = place then none else d.node? p := node?_erase hplace p

theorem workingFolder_written (place : List String) (file : Node) :
    (d.written place file).workingFolder = d.workingFolder := by
  unfold written
  split
  · rfl
  · split <;> rfl

theorem workingFolder_moved (source target : List String) (node : Node) :
    (d.moved source target node).workingFolder = d.workingFolder := by
  unfold moved
  split <;> rfl

theorem node?_ne_none_of_isTwin (h : d.isTwin p q = true) : d.node? q ≠ none := by
  obtain ⟨-, -, content, time, -, hnode⟩ := isTwin_iff.1 h
  rw [hnode]
  exact Option.some_ne_none _

theorem ne_nil_of_isTwin (h : d.isTwin p q = true) : q ≠ [] := by
  obtain ⟨-, -, content, time, -, hnode⟩ := isTwin_iff.1 h
  rintro rfl
  rw [node?_nil] at hnode
  cases hnode

theorem node?_overwritten (hplace : place ≠ []) (hstands : d.node? place ≠ none) (file : Node)
    (p : List String) :
    ({ d with
      nodes := d.nodes.mapValues fun p node =>
        if p = place || d.isTwin place p then file else node } : Disk).node? p =
      if p = place ∨ d.isTwin place p = true then some file else d.node? p := by
  by_cases hnamed : p = place ∨ d.isTwin place p = true
  · have hp : p ≠ [] := by
      rcases hnamed with rfl | htwin
      · exact hplace
      · exact ne_nil_of_isTwin htwin
    have hthere : d.node? p ≠ none := by
      rcases hnamed with rfl | htwin
      · exact hstands
      · exact node?_ne_none_of_isTwin htwin
    rw [node?_of_ne_nil hp] at hthere
    obtain ⟨node, hnode⟩ := Option.ne_none_iff_exists'.1 hthere
    rw [node?_of_ne_nil hp, if_pos hnamed, OrdMap.find?_mapValues, hnode]
    simp [hnamed]
  · rw [if_neg hnamed]
    by_cases hp : p = []
    · rw [hp, node?_nil, node?_nil]
    · rw [node?_of_ne_nil hp, node?_of_ne_nil hp, OrdMap.find?_mapValues]
      cases d.nodes.find? p <;> simp [hnamed]

/-- What is written stands under all names of the file. -/
theorem node?_written (hplace : place ≠ []) (file : Node) (p : List String) :
    (d.written place file).node? p =
      if p = place ∨ d.isTwin place p = true then some file else d.node? p := by
  have hsole : d.IsSole place → (d.put place file).node? p =
      if p = place ∨ d.isTwin place p = true then some file else d.node? p := by
    intro h
    rw [node?_put hplace]
    simp [h.isTwin]
  unfold written
  split
  next hnone => exact hsole (isSole_of_node?_eq_none hnone)
  next hstands =>
    split
    next h => exact hsole h
    next => exact node?_overwritten hplace hstands file p

/-- What is written at a place without another name stands there only. -/
theorem node?_written_of_isSole (hplace : place ≠ []) (h : d.IsSole place) (file : Node)
    (p : List String) :
    (d.written place file).node? p = if p = place then some file else d.node? p := by
  rw [node?_written hplace]
  simp [h.isTwin]

theorem moved_of_same (h : source = target ∨ d.isTwin source target = true) (node : Node) :
    d.moved source target node = d := by
  unfold moved
  rw [if_pos (by simpa using h)]

theorem node?_moved (hsource : source ≠ []) (htarget : target ≠ [])
    (h : ¬ (source = target ∨ d.isTwin source target = true)) (node : Node) (p : List String) :
    (d.moved source target node).node? p =
      if p = target then some node else if p = source then none else d.node? p := by
  unfold moved
  rw [if_neg (by simpa using h)]
  show ((d.erase source).put target node).node? p = _
  rw [node?_put htarget, node?_erase hsource]

/-! ## Names of one file -/

theorem Parting.isSole (h : Parting d d') (hsole : d.IsSole place) : d'.IsSole place := by
  refine isSole_iff.2 fun q => Bool.eq_false_iff.2 fun htwin => ?_
  have hold := h place q htwin
  rw [hsole.isTwin] at hold
  cases hold

/-- Two places that have stayed as they were are names of one file only if they were before. -/
theorem isTwin_of_unchanged (htwin : d'.isTwin p q = true)
    (hp : d'.node? p = d.node? p ∧ d'.numbers.find? p = d.numbers.find? p)
    (hq : d'.node? q = d.node? q ∧ d'.numbers.find? q = d.numbers.find? q) :
    d.isTwin p q = true := by
  rw [isTwin_iff, hp.1, hp.2, hq.1, hq.2] at htwin
  exact isTwin_iff.2 htwin

/-- One place has changed and has no number any more. -/
theorem parting_of_place {new : Option Node} (hnumbers : d'.numbers = d.numbers.erase place)
    (hnode : ∀ p, d'.node? p = if p = place then new else d.node? p) : Parting d d' := by
  intro p q htwin
  obtain ⟨-, ⟨number, hp, hq⟩, -⟩ := isTwin_iff.1 htwin
  have hkept : ∀ r, d'.numbers.find? r = some number →
      d'.node? r = d.node? r ∧ d'.numbers.find? r = d.numbers.find? r := by
    intro r hr
    rw [hnumbers, OrdMap.find?_erase] at hr
    have hne : r ≠ place := by
      rintro rfl
      rw [if_pos rfl] at hr
      cases hr
    rw [hnode, hnumbers, OrdMap.find?_erase, if_neg hne, if_neg hne]
    exact ⟨rfl, rfl⟩
  exact isTwin_of_unchanged htwin (hkept p hp) (hkept q hq)

theorem parting_put (hplace : place ≠ []) (node : Node) : Parting d (d.put place node) :=
  parting_of_place rfl (node?_put hplace node)

theorem parting_erase (hplace : place ≠ []) : Parting d (d.erase place) :=
  parting_of_place rfl (node?_erase hplace)

theorem parting_founded (hplace : place ≠ []) : Parting d (d.founded place) :=
  parting_of_place rfl (node?_founded hplace)

theorem parting_removed (hplace : place ≠ []) : Parting d (d.removed place) :=
  parting_of_place rfl (node?_removed hplace)

theorem parting_written (hplace : place ≠ []) (h : d.IsSole place) (file : Node) :
    Parting d (d.written place file) := by
  refine parting_of_place ?_ (node?_written_of_isSole hplace h file)
  unfold written
  split
  · rfl
  · rfl

/-- The number of a file goes with it. -/
theorem numbers_moved (h : ¬ (source = target ∨ d.isTwin source target = true)) (node : Node)
    (p : List String) : (d.moved source target node).numbers.find? p =
      if p = target then d.numbers.find? source
      else if p = source then none else d.numbers.find? p := by
  unfold moved
  rw [if_neg (by simpa using h)]
  cases d.numbers.find? source with
  | some number =>
    show (((d.erase source).put target node).numbers.insert target number).find? p = _
    by_cases hp : p = target <;> simp [put, erase, hp]
  | none =>
    show ((d.erase source).put target node).numbers.find? p = _
    simp [put, erase]

/-- A twin of the new place would have been one of the old place. -/
theorem isTwin_moved (hsource : source ≠ []) (htarget : target ≠ []) (h : d.IsSole source)
    (hnode : d.node? source = some node) (hdiffer : source ≠ target) (q : List String) :
    (d.moved source target node).isTwin target q = false := by
  have hother : ¬ (source = target ∨ d.isTwin source target = true) := by
    simp [hdiffer, h.isTwin]
  refine Bool.eq_false_iff.2 fun htwin => ?_
  obtain ⟨hne, ⟨number, hp, hq⟩, content, time, hfile, hfile'⟩ := isTwin_iff.1 htwin
  rw [numbers_moved hother, if_pos rfl] at hp
  rw [node?_moved hsource htarget hother, if_pos rfl, ← hnode] at hfile
  have hgone : q ≠ source := by
    rintro rfl
    rw [numbers_moved hother, if_neg hne.symm, if_pos rfl] at hq
    cases hq
  rw [numbers_moved hother, if_neg hne.symm, if_neg hgone] at hq
  rw [node?_moved hsource htarget hother, if_neg hne.symm, if_neg hgone] at hfile'
  have hold : d.isTwin source q = true :=
    isTwin_iff.2 ⟨hgone.symm, ⟨number, hp, hq⟩, content, time, hfile, hfile'⟩
  rw [h.isTwin] at hold
  cases hold

/-- Where a file has no other name, it has none at the place to which it is moved. -/
theorem parting_moved (hsource : source ≠ []) (htarget : target ≠ []) (h : d.IsSole source)
    (hnode : d.node? source = some node) : Parting d (d.moved source target node) := by
  by_cases hsame : source = target
  · rw [moved_of_same (.inl hsame)]
    exact Change.Frame.refl d
  have hother : ¬ (source = target ∨ d.isTwin source target = true) := by
    simp [hsame, h.isTwin]
  intro p q htwin
  obtain ⟨-, ⟨number, hp, hq⟩, -⟩ := isTwin_iff.1 htwin
  have hkept : ∀ r, r ≠ target → (d.moved source target node).numbers.find? r = some number →
      (d.moved source target node).node? r = d.node? r ∧
        (d.moved source target node).numbers.find? r = d.numbers.find? r := by
    intro r hr hnumber
    have hgone : r ≠ source := by
      rintro rfl
      rw [numbers_moved hother, if_neg hr, if_pos rfl] at hnumber
      cases hnumber
    rw [node?_moved hsource htarget hother, numbers_moved hother, if_neg hr, if_neg hgone,
      if_neg hr, if_neg hgone]
    exact ⟨rfl, rfl⟩
  refine isTwin_of_unchanged htwin (hkept p ?_ hp) (hkept q ?_ hq)
  · rintro rfl
    rw [isTwin_moved hsource htarget h hnode hsame] at htwin
    cases htwin
  · rintro rfl
    rw [isTwin_comm, isTwin_moved hsource htarget h hnode hsame] at htwin
    cases htwin

/-! ## Times of folders -/

@[simp] theorem folderTime_put (p : List String) :
    (d.put place node).folderTime p = d.folderTime p := rfl

theorem folderTime_dated (time : Int) (folders : List (List String)) (p : List String) :
    (d.dated time folders).folderTime p = if p ∈ folders then time else d.folderTime p := by
  show ((folders.foldl _ d.folderTimes).find? p).getD 0 =
    if p ∈ folders then time else (d.folderTimes.find? p).getD 0
  generalize d.folderTimes = times
  induction folders generalizing times with
  | nil => simp
  | cons folder folders ih =>
    rw [List.foldl_cons, ih, OrdMap.find?_insert]
    by_cases hp : p = folder
    · simp [hp]
    · simp [hp]

theorem folderTime_stamped {folders : List (List String)} (h : p ∉ folders) :
    (d.stamped folders).folderTime p = d.folderTime p :=
  (folderTime_dated _ _ _).trans (if_neg h)

theorem folderTime_founded (hplace : p ≠ place) (hparent : p ≠ place.dropLast) :
    (d.founded place).folderTime p = d.folderTime p :=
  folderTime_stamped (d := d.put place .folder) (by simp [hplace, hparent])

theorem folderTime_removed (h : p ≠ place.dropLast) :
    (d.removed place).folderTime p = d.folderTime p :=
  folderTime_stamped (d := d.erase place) (by simpa using h)

theorem folderTime_written (h : p ≠ place.dropLast) (file : Node) :
    (d.written place file).folderTime p = d.folderTime p := by
  unfold written
  split
  · exact folderTime_stamped (d := d.put place file) (by simpa using h)
  · split <;> rfl

theorem folderTime_moved (hsource : p ≠ source.dropLast) (htarget : p ≠ target.dropLast)
    (node : Node) : (d.moved source target node).folderTime p = d.folderTime p := by
  unfold moved
  split
  · rfl
  · exact folderTime_stamped (by simp [hsource, htarget])

/-! ## What single changes come to

A change uses up one fault. Then it fails and leaves the rest of the disk as it is, or it has its
effect at the place that its route finds. Only a torn write does both. -/

theorem frame_begun {R : Disk → Disk → Prop} [Change.Frame R] (d : Disk) : R d d.begun :=
  Change.Frame.faults d d.faults.tail

namespace Change

theorem nextFault_eq (d : Disk) : nextFault d = .ok d.faults.head?.join d.begun := by
  obtain ⟨nodes, faults⟩ := d
  cases faults <;> rfl

theorem admitted_eq (d : Disk) : admitted d =
    if d.faults.head?.join.isSome then .error .noSpace d.begun else .ok () d.begun := by
  refine (bind_of_ok (nextFault_eq d)).trans ?_
  cases d.faults.head?.join <;> rfl

/-- Making a folder fails, or the folder comes to stand where nothing stood. -/
theorem makeFolder_cases (r : Route) (d : Disk) : (∃ e, makeFolder r d = .error e d.begun) ∨
    ∃ place, d.begun.locate r = .ok place ∧ d.begun.node? place = none ∧
      makeFolder r d = .ok () (d.begun.founded place) := by
  have hadmitted := admitted_eq d
  split at hadmitted
  · exact .inl ⟨_, bind_of_error hadmitted⟩
  have hmake := bind_of_ok (f := fun _ => do
    let place ← ask fun d => d.locate r
    if (← get).node? place = none then modify fun d => d.founded place else throw .occupied)
    hadmitted
  cases hlocate : d.begun.locate r with
  | error e =>
    exact .inl ⟨e, hmake.trans (bind_of_error (ask_eq_error.2 ⟨hlocate, rfl⟩))⟩
  | ok place =>
    have hfound := hmake.trans (bind_of_ok (ask_eq_ok.2 ⟨hlocate, rfl⟩))
    rw [get_bind] at hfound
    by_cases hnone : d.begun.node? place = none
    · rw [if_pos hnone] at hfound
      exact .inr ⟨place, rfl, hnone, hfound⟩
    · rw [if_neg hnone] at hfound
      exact .inl ⟨_, hfound⟩

/-- The file that a text becomes. -/
def fileOf (text : String) (now : UInt64) : Node := .file (.text text) (now.toNat * 1000000)

/-- Writing a file fails, or the text comes to stand where its route lands, or a part of it does. -/
theorem writeFile_cases (r : Route) (text : String) (now : UInt64) (d : Disk) :
    (∃ e, writeFile r text now d = .error e d.begun) ∨
    ∃ place, d.begun.landing r maxLinks = .ok place ∧ d.begun.node? place ≠ some .folder ∧
      (writeFile r text now d = .ok () (d.begun.written place (fileOf text now)) ∨
        ∃ e kept, writeFile r text now d = .error e (d.begun.written place
          (fileOf (.ofList (text.toList.take kept)) now))) := by
  rw [writeFile, bind_of_ok (nextFault_eq d)]
  generalize d.faults.head?.join = fault
  simp only
  split
  · exact .inl ⟨_, rfl⟩
  cases hplace : d.begun.writable r with
  | error e => exact .inl ⟨e, bind_of_error (ask_eq_error.2 ⟨hplace, rfl⟩)⟩
  | ok place =>
    obtain ⟨hlanding, hfolder⟩ := landing_of_writable hplace
    rw [bind_of_ok (ask_eq_ok.2 ⟨hplace, rfl⟩)]
    refine .inr ⟨place, hlanding, hfolder, ?_⟩
    split
    · exact .inr ⟨_, _, rfl⟩
    · exact .inl rfl

/-- Where a file was written. -/
theorem written_of_writeFile {r : Route} {text : String} {now : UInt64} {d d' : Disk} {u : Unit}
    (h : writeFile r text now d = .ok u d') : ∃ place, d.begun.landing r maxLinks = .ok place ∧
      d.begun.node? place ≠ some .folder ∧ d' = d.begun.written place (fileOf text now) := by
  obtain ⟨e, hrun⟩ | ⟨place, hplace, hfolder, hrun | ⟨e, kept, hrun⟩⟩ :=
    writeFile_cases r text now d
  · rw [hrun] at h
    cases h
  · rw [hrun] at h
    cases h
    exact ⟨place, hplace, hfolder, rfl⟩
  · rw [hrun] at h
    cases h

/-- Moving a file fails, or what stood at one place comes to stand at the other. -/
theorem rename_cases (source target : Route) (d : Disk) :
    (∃ e, rename source target d = .error e d.begun) ∨
    ∃ place place' node, d.begun.locate source = .ok place ∧
      d.begun.locate target = .ok place' ∧ d.begun.node? place = some node ∧
      d.begun.node? place' ≠ some .folder ∧
      rename source target d = .ok () (d.begun.moved place place' node) := by
  have hadmitted := admitted_eq d
  rw [rename]
  split at hadmitted
  · exact .inl ⟨_, bind_of_error hadmitted⟩
  rw [bind_of_ok hadmitted]
  cases hsource : d.begun.locate source with
  | error e =>
    exact .inl ⟨e, bind_of_error (ask_eq_error.2 ⟨hsource, rfl⟩)⟩
  | ok place =>
    rw [bind_of_ok (ask_eq_ok.2 ⟨hsource, rfl⟩)]
    cases htarget : d.begun.locate target with
    | error e =>
      exact .inl ⟨e, bind_of_error (ask_eq_error.2 ⟨htarget, rfl⟩)⟩
    | ok place' =>
      rw [bind_of_ok (ask_eq_ok.2 ⟨htarget, rfl⟩), get_bind]
      cases hnode : d.begun.node? place with
      | none => exact .inl ⟨_, rfl⟩
      | some node =>
        simp only
        rw [get_bind]
        by_cases hfolder : d.begun.node? place' = some .folder
        · rw [if_pos hfolder]
          exact .inl ⟨_, rfl⟩
        · rw [if_neg hfolder]
          exact .inr ⟨place, place', node, rfl, rfl, hnode, hfolder, rfl⟩

/-- What was moved, and from where to where. -/
theorem moved_of_rename {source target : Route} {d d' : Disk} {u : Unit}
    (h : rename source target d = .ok u d') : ∃ place place' node,
      d.begun.locate source = .ok place ∧ d.begun.locate target = .ok place' ∧
        d.begun.node? place = some node ∧ d.begun.node? place' ≠ some .folder ∧
          d' = d.begun.moved place place' node := by
  obtain ⟨e, hrun⟩ | ⟨place, place', node, hplace, hplace', hnode, hfolder, hrun⟩ :=
    rename_cases source target d
  · rw [hrun] at h
    cases h
  · rw [hrun] at h
    cases h
    exact ⟨place, place', node, hplace, hplace', hnode, hfolder, rfl⟩

/-- The place of what a removal takes away, or why it fails. -/
def removal (d : Disk) (r : Route) : Except IoError (List String) :=
  if d.faults.head?.join.isSome then .error .noSpace
  else
    match d.locate r with
    | .error e => .error e
    | .ok place =>
      match d.node? place with
      | none => .error .notFound
      | some .folder => .error .isAFolder
      | some _ => .ok place

/-- A removal uses up one fault, whatever comes of it. -/
theorem removeFile_eq (r : Route) (d : Disk) : removeFile r d =
    match removal d r with
    | .ok place => .ok () (d.begun.removed place)
    | .error e => .error e d.begun := by
  have hadmitted := admitted_eq d
  rw [removeFile, removal]
  split at hadmitted
  next hfault =>
    rw [if_pos hfault]
    exact bind_of_error hadmitted
  next hfault =>
    rw [if_neg hfault, bind_of_ok hadmitted]
    cases hlocate : d.locate r with
    | error e => exact bind_of_error (ask_eq_error.2 ⟨(locate_begun r).trans hlocate, rfl⟩)
    | ok place =>
      rw [bind_of_ok (ask_eq_ok.2 ⟨(locate_begun r).trans hlocate, rfl⟩), get_bind]
      simp only [node?_begun]
      cases hnode : d.node? place with
      | none => rfl
      | some node => cases node <;> rfl

theorem removal_eq_ok {r : Route} : removal d r = .ok place ↔
    d.faults.head?.join = none ∧ d.locate r = .ok place ∧
      ∃ node, d.node? place = some node ∧ node ≠ .folder := by
  unfold removal
  cases d.faults.head?.join with
  | some fault => simp
  | none =>
    cases d.locate r with
    | error e => simp
    | ok own =>
      simp only [Option.isSome_none, Bool.false_eq_true, if_false, true_and, Except.ok.injEq]
      constructor
      · intro h
        split at h <;> cases h
        next hfolder hnode => exact ⟨rfl, _, hnode, hfolder⟩
      · rintro ⟨rfl, node, hnode, hfolder⟩
        rw [hnode]
        cases node with
        | folder => exact absurd rfl hfolder
        | file | link => rfl

/-- Where nothing is found, nothing stands. -/
theorem eq_none_of_removal {r : Route} (h : removal d r = .error .notFound)
    (hplace : d.locate r = .ok place) : d.node? place = none := by
  unfold removal at h
  rw [hplace] at h
  split at h
  · cases h
  · simp only at h
    split at h <;> cases h
    assumption

/-- What was removed. -/
theorem removed_of_removeFile {r : Route} {d d' : Disk} {u : Unit}
    (h : removeFile r d = .ok u d') : ∃ place node, d.begun.locate r = .ok place ∧
      d.begun.node? place = some node ∧ node ≠ .folder ∧ d' = d.begun.removed place := by
  rw [removeFile_eq] at h
  cases hremoval : removal d r with
  | error e =>
    rw [hremoval] at h
    cases h
  | ok place =>
    rw [hremoval] at h
    cases h
    obtain ⟨-, hplace, node, hnode, hfolder⟩ := removal_eq_ok.1 hremoval
    exact ⟨place, node, (locate_begun r).trans hplace, hnode, hfolder, rfl⟩

/-- What is not found leaves the disk as it is, and nothing stands at its place. -/
theorem removeFile_notFound {r : Route} {d d' : Disk}
    (h : removeFile r d = .error .notFound d') :
    Alike d d' ∧ ∀ place, d'.locate r = .ok place → d'.node? place = none := by
  rw [removeFile_eq] at h
  cases hremoval : removal d r with
  | ok place =>
    rw [hremoval] at h
    cases h
  | error e =>
    rw [hremoval] at h
    cases h
    refine ⟨alike_begun d, ?_⟩
    intro place hplace
    rw [locate_begun] at hplace
    exact (node?_begun place).trans (eq_none_of_removal hremoval hplace)

/-! ### What single changes keep

A change that fails keeps every frame, so it is enough to look at what one that succeeds does, and
at the parts of a text that it may leave. -/

section

variable {R : Disk → Disk → Prop} [Frame R] {r : Route}

theorem keeps_of_founded (h : ∀ (d : Disk) (place : List String), d.locate r = .ok place →
    d.node? place = none → R d (d.founded place)) : Keeps R (makeFolder r) := by
  intro d
  obtain ⟨e, hrun⟩ | ⟨place, hplace, hnone, hrun⟩ := makeFolder_cases r d
  · exact diskAfter_of_error hrun ▸ frame_begun d
  · exact diskAfter_of_ok hrun ▸ Frame.trans (frame_begun d) (h _ _ hplace hnone)

theorem keeps_of_written {text : String} {now : UInt64}
    (h : ∀ (d : Disk) (place : List String) (kept : Nat), d.landing r maxLinks = .ok place →
      d.node? place ≠ some .folder →
      R d (d.written place (fileOf (.ofList (text.toList.take kept)) now))) :
    Keeps R (writeFile r text now) := by
  intro d
  obtain ⟨e, hrun⟩ | ⟨place, hplace, hfolder, hrun | ⟨e, kept, hrun⟩⟩ :=
    writeFile_cases r text now d
  · exact diskAfter_of_error hrun ▸ frame_begun d
  · -- The whole text is the start of it that is as long.
    have hwhole := h d.begun place text.toList.length hplace hfolder
    rw [List.take_length, String.ofList_toList] at hwhole
    exact diskAfter_of_ok hrun ▸ Frame.trans (frame_begun d) hwhole
  · exact diskAfter_of_error hrun ▸ Frame.trans (frame_begun d) (h _ _ kept hplace hfolder)

theorem keeps_of_moved {target : Route}
    (h : ∀ (d : Disk) (place place' : List String) (node : Node), d.locate r = .ok place →
      d.locate target = .ok place' → d.node? place = some node → d.node? place' ≠ some .folder →
      R d (d.moved place place' node)) :
    Keeps R (rename r target) := by
  intro d
  obtain ⟨e, hrun⟩ | ⟨place, place', node, hplace, hplace', hnode, hfolder, hrun⟩ :=
    rename_cases r target d
  · exact diskAfter_of_error hrun ▸ frame_begun d
  · exact diskAfter_of_ok hrun ▸
      Frame.trans (frame_begun d) (h _ _ _ _ hplace hplace' hnode hfolder)

theorem keeps_of_removed (h : ∀ (d : Disk) (place : List String) (node : Node),
    d.locate r = .ok place → d.node? place = some node → node ≠ .folder → R d (d.removed place)) :
    Keeps R (removeFile r) := by
  intro d
  unfold diskAfter
  rw [removeFile_eq]
  cases hremoval : removal d r with
  | error e => exact frame_begun d
  | ok place =>
    obtain ⟨-, hplace, node, hnode, hfolder⟩ := removal_eq_ok.1 hremoval
    exact Frame.trans (frame_begun d)
      (h d.begun place node ((locate_begun r).trans hplace) hnode hfolder)

/-- A move that fails uses up a fault at most. -/
theorem rename_error {source target : Route} {e : IoError} {d d' : Disk}
    (hrun : rename source target d = .error e d') : R d d' := by
  obtain ⟨e', hfailed⟩ | ⟨place, place', node, -, -, -, -, hmoved⟩ := rename_cases source target d
  · rw [hfailed] at hrun
    cases hrun
    exact frame_begun d
  · rw [hmoved] at hrun
    cases hrun

end

end Change
end Gazetteer.Disk
