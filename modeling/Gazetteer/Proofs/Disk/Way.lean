import Gazetteer.Disk.Basic
import Mathlib.Data.List.Infix

/-!
# Ways without links

Along a way of names that meets no link a route leads to the place with these names or nowhere. So
what a question about the route finds stands at that place.
-/

namespace Gazetteer.Disk

def Node.isLink : Node → Bool
  | .link _ => true
  | .file _ _ | .folder => false

/-- No link stands on the way to a place, the place included. -/
def Straight (d : Disk) (place : List String) : Prop :=
  ∀ p, p <+: place → ∀ target, d.node? p ≠ some (.link target)

variable {d : Disk} {names : List String} {name : String}

theorem Straight.of_prefix {place : List String} (h : d.Straight place) (hp : names <+: place) :
    d.Straight names := fun _ hq => h _ (hq.trans hp)

theorem Straight.concat (h : d.Straight names)
    (hnode : ∀ target, d.node? (names ++ [name]) ≠ some (.link target)) :
    d.Straight (names ++ [name]) := by
  intro p hp
  rcases List.prefix_concat_iff.1 hp with rfl | hp
  · exact hnode
  · exact h p hp

/-! ## Nodes -/

@[simp] theorem node?_nil (d : Disk) : d.node? [] = some .folder := if_pos rfl

theorem ne_nil_of_ne_folder {d : Disk} {place : List String} (h : d.node? place ≠ some .folder) :
    place ≠ [] := by
  rintro rfl
  exact h (node?_nil d)

theorem node?_of_ne_nil {place : List String} (h : place ≠ []) :
    d.node? place = d.nodes.find? place := if_neg h

theorem node?_put {place : List String} (hplace : place ≠ []) (node : Node) (p : List String) :
    (d.put place node).node? p = if p = place then some node else d.node? p := by
  by_cases hp : p = []
  · subst hp
    rw [node?_nil, node?_nil, if_neg hplace.symm]
  · rw [node?_of_ne_nil hp, node?_of_ne_nil hp, put, OrdMap.find?_insert]

theorem node?_erase {place : List String} (hplace : place ≠ []) (p : List String) :
    (d.erase place).node? p = if p = place then none else d.node? p := by
  by_cases hp : p = []
  · subst hp
    rw [node?_nil, node?_nil, if_neg hplace.symm]
  · rw [node?_of_ne_nil hp, node?_of_ne_nil hp, erase, OrdMap.find?_erase]

/-- No links stand on a disk. -/
def IsLinkless (d : Disk) : Prop := ∀ e ∈ d.nodes.entries, e.2.isLink = false

instance (d : Disk) : Decidable d.IsLinkless := inferInstanceAs (Decidable (∀ e ∈ _, _))

theorem IsLinkless.node?_ne (h : d.IsLinkless) (place : List String) (target : String) :
    d.node? place ≠ some (.link target) := by
  intro hnode
  by_cases hplace : place = []
  · subst hplace
    rw [node?_nil] at hnode
    cases hnode
  · rw [node?_of_ne_nil hplace, OrdMap.find?_eq_some_iff] at hnode
    cases h _ hnode

/-! ## Routes of names -/

namespace Route

theorem ofNames_concat (names : List String) (name : String) :
    ofNames (names ++ [name]) = ofNames names ++ [.down name] := by simp [ofNames]

theorem ofNames_injective : Function.Injective ofNames :=
  List.map_injective_iff.2 fun _ _ h => Step.down.inj h

theorem up_not_mem_ofNames (names : List String) : .up ∉ ofNames names := by simp [ofNames]

theorem trimmed_ofNames (names : List String) : (ofNames names).trimmed = ofNames names := by
  have h : ((ofNames names).reverse.dropWhile Step.isIdle) = (ofNames names).reverse := by
    rw [ofNames, ← List.map_reverse]
    cases names.reverse <;> rfl
  rw [trimmed, h, List.reverse_reverse]

theorem parent_ofNames (names : List String) (name : String) :
    (ofNames (names ++ [name])).parent = ofNames names := by
  rw [parent, trimmed_ofNames, ofNames_concat, List.dropLast_concat, trimmed_ofNames]

theorem opened_ofNames (names : List String) : (ofNames names).opened = ofNames names := by
  refine if_neg fun h => ?_
  have hmem := List.mem_of_getLast? h
  simp [ofNames] at hmem

theorem child_ofNames (names : List String) (name : String) :
    (ofNames names).child name = ofNames (names ++ [name]) := by
  rw [child, opened_ofNames, ofNames_concat]

theorem withExtension_ofNames (names : List String) {name : String} (extension : String)
    (h : isDotted name = false) :
    (ofNames (names ++ [name])).withExtension extension =
      ofNames (names ++ [replaceExtension name extension]) := by
  rw [withExtension, trimmed_ofNames]
  simp [ofNames_concat, h]

end Route

/-! ## Where a route leads -/

/-- Whether a way from a place can be gone: it leads through folders, and something stands at its
end. -/
def Passable (d : Disk) (here : List String) : List String → Prop
  | [] => True
  | name :: rest => d.node? here = some .folder ∧ name.utf8ByteSize ≤ maxNameSize ∧
      d.node? (here ++ [name]) ≠ none ∧ d.Passable (here ++ [name]) rest

/-- What holds along a way holds along it from its first place on. -/
theorem forall_behind {P : List String → Prop} {here : List String} {name : String}
    (h : ∀ p, p <+: name :: names → P (here ++ p)) :
    ∀ p, p <+: names → P (here ++ [name] ++ p) := by
  intro p hp
  rw [List.append_assoc]
  exact h (name :: p) (List.cons_prefix_cons.2 ⟨rfl, hp⟩)

theorem walkWith_ofNames_iff {jump : List String → List Step → Except IoError (List String)}
    {here place : List String}
    (h : ∀ p, p <+: names → ∀ target, d.node? (here ++ p) ≠ some (.link target)) :
    d.walkWith jump here (Route.ofNames names) = .ok place ↔
      d.Passable here names ∧ place = here ++ names := by
  induction names generalizing here with
  | nil =>
    rw [List.append_nil]
    exact ⟨fun hwalk => ⟨trivial, (Except.ok.inj hwalk).symm⟩, fun hplace => hplace.2 ▸ rfl⟩
  | cons name names ih =>
    have hfirst := h [name] (List.prefix_append [name] names)
    have hlinks := forall_behind (P := fun q => ∀ target, d.node? q ≠ some (.link target)) h
    have hrest := ih hlinks
    rw [List.append_assoc, List.singleton_append] at hrest
    rw [Route.ofNames, List.map_cons, walkWith, Passable]
    -- A walk ends where there is no folder, at a name that is too long and where nothing stands.
    by_cases hfolder : d.node? here = some .folder
    · by_cases hsize : maxNameSize < name.utf8ByteSize
      · simp [hfolder, hsize, Nat.not_le.2 hsize]
      · cases hnode : d.node? (here ++ [name]) with
        | none => simp [hfolder, hsize]
        | some node =>
          rw [if_neg (not_not.2 hfolder)]
          simp only [if_neg hsize]
          cases node with
          | link target => exact absurd hnode (hfirst target)
          | file content time =>
            rw [← Route.ofNames, hrest]
            simp [hfolder, Nat.le_of_not_lt hsize]
          | folder =>
            rw [← Route.ofNames, hrest]
            simp [hfolder, Nat.le_of_not_lt hsize]
    · simp [hfolder]

theorem follow_ofNames_iff {place : List String} (h : d.Straight names) :
    d.follow (Route.ofNames names) = .ok place ↔
      accept (Route.ofNames names) = .ok () ∧ d.Passable [] names ∧ place = names := by
  have hwalk : d.walk maxLinks [] (Route.ofNames names) = .ok place ↔
      d.Passable [] names ∧ place = names := walkWith_ofNames_iff fun p hp => h p hp
  rw [← hwalk, follow]
  cases accept (Route.ofNames names) with
  | error e => simp [bind, Except.bind]
  | ok => simp [bind, Except.bind]

theorem follow_ofNames {place : List String} (h : d.Straight names)
    (hfollow : d.follow (Route.ofNames names) = .ok place) : place = names :=
  ((follow_ofNames_iff h).1 hfollow).2.2

theorem locate_ofNames {place : List String} (h : d.Straight names)
    (hlocate : d.locate (Route.ofNames (names ++ [name])) = .ok place) :
    place = names ++ [name] := by
  have hlast : (Route.ofNames (names ++ [name])).getLast? = some (.down name) := by
    simp [Route.ofNames_concat]
  rw [locate, hlast, Route.parent_ofNames] at hlocate
  simp only [bind, Except.bind] at hlocate
  split at hlocate
  · cases hlocate
  · split at hlocate
    · cases hlocate
    next above habove =>
      obtain rfl := follow_ofNames h habove
      split at hlocate
      · cases hlocate
      · split at hlocate
        · cases hlocate
        · exact (Except.ok.inj hlocate).symm

theorem landing_ofNames {place : List String} {links : Nat} (h : d.Straight (names ++ [name]))
    (hlanding : d.landing (Route.ofNames (names ++ [name])) links = .ok place) :
    place = names ++ [name] := by
  cases links with
  | zero => cases hlanding
  | succ links =>
    rw [landing] at hlanding
    simp only [bind, Except.bind] at hlanding
    split at hlanding
    · cases hlanding
    next above hlocate =>
      obtain rfl := locate_ofNames (h.of_prefix (List.prefix_append names [name])) hlocate
      split at hlanding
      next target hlink => exact absurd hlink (h _ List.prefix_rfl target)
      · exact (Except.ok.inj hlanding).symm

theorem status_ofNames_iff {node : Node} (h : d.Straight names) :
    d.status (Route.ofNames names) = .ok node ↔ accept (Route.ofNames names) = .ok () ∧
      d.Passable [] names ∧ d.node? names = some node := by
  have hfollow := @follow_ofNames_iff d names
  rw [status]
  simp only [bind, Except.bind]
  cases hplace : d.follow (Route.ofNames names) with
  | error e =>
    have hno : ¬ (accept (Route.ofNames names) = .ok () ∧ d.Passable [] names) := by
      rintro ⟨haccept, hpass⟩
      rw [(hfollow h).2 ⟨haccept, hpass, rfl⟩] at hplace
      cases hplace
    simp only [reduceCtorEq, false_iff]
    exact fun hall => hno ⟨hall.1, hall.2.1⟩
  | ok place =>
    obtain ⟨haccept, hpass, rfl⟩ := (hfollow h).1 hplace
    simp only [haccept, hpass, true_and]
    cases d.node? place <;> simp

theorem read_ofNames_iff {content : Content} (h : d.Straight names) :
    d.read (Route.ofNames names) = .ok content ↔ accept (Route.ofNames names) = .ok () ∧
      d.Passable [] names ∧ ∃ time, d.node? names = some (.file content time) := by
  have hstatus := @status_ofNames_iff d names
  rw [read]
  simp only [bind, Except.bind]
  constructor
  · intro hread
    cases hnode : d.status (Route.ofNames names) with
    | error e => simp [hnode] at hread
    | ok node =>
      rw [hnode] at hread
      cases node with
      | file held time =>
        obtain rfl := Except.ok.inj hread
        obtain ⟨haccept, hpass, hend⟩ := (hstatus h).1 hnode
        exact ⟨haccept, hpass, time, hend⟩
      | folder => cases hread
      | link target => cases hread
  · rintro ⟨haccept, hpass, time, hend⟩
    rw [(hstatus h).2 ⟨haccept, hpass, hend⟩]

/-- What is read along a straight way stands at its end. -/
theorem node?_of_read {content : Content} (h : d.Straight names)
    (hread : d.read (Route.ofNames names) = .ok content) :
    ∃ time, d.node? names = some (.file content time) := ((read_ofNames_iff h).1 hread).2.2

/-! ## Ways on other disks -/

section

variable {d' : Disk}

theorem walkWith_congr {jump jump' : List String → List Step → Except IoError (List String)}
    {here : List String}
    (h : ∀ p, p <+: names → ∀ target, d.node? (here ++ p) ≠ some (.link target))
    (hsame : ∀ p, p <+: names → d'.node? (here ++ p) = d.node? (here ++ p)) :
    d'.walkWith jump' here (Route.ofNames names) = d.walkWith jump here (Route.ofNames names) := by
  induction names generalizing here with
  | nil => rfl
  | cons name names ih =>
    have hlinks := forall_behind (P := fun q => ∀ target, d.node? q ≠ some (.link target)) h
    have hnodes := forall_behind (P := fun q => d'.node? q = d.node? q) hsame
    have hrest := ih hlinks hnodes
    have hhere := hsame [] List.nil_prefix
    have hfirst := hsame [name] (List.prefix_append [name] names)
    rw [List.append_nil] at hhere
    rw [Route.ofNames, List.map_cons, walkWith, walkWith, hhere, hfirst]
    split
    · rfl
    · split
      · rfl
      · split
        · rfl
        next target hlink =>
          exact absurd hlink (h [name] (List.prefix_append [name] names) target)
        · exact hrest

theorem follow_congr (h : d.Straight names) (hsame : ∀ p, p <+: names → d'.node? p = d.node? p) :
    d'.follow (Route.ofNames names) = d.follow (Route.ofNames names) := by
  have hwalk :
      d'.walk maxLinks [] (Route.ofNames names) = d.walk maxLinks [] (Route.ofNames names) :=
    walkWith_congr (fun p hp => h p hp) fun p hp => hsame p hp
  rw [follow, follow, hwalk]

theorem locate_congr (h : d.Straight names) (hsame : ∀ p, p <+: names → d'.node? p = d.node? p) :
    d'.locate (Route.ofNames names) = d.locate (Route.ofNames names) := by
  induction names using List.reverseRecOn with
  | nil => exact follow_congr h hsame
  | append_singleton names name =>
    have hlast : (Route.ofNames (names ++ [name])).getLast? = some (.down name) := by
      simp [Route.ofNames_concat]
    have hup : names <+: names ++ [name] := List.prefix_append _ _
    have hfollow := follow_congr (h.of_prefix hup) fun p hp => hsame p (hp.trans hup)
    rw [locate, locate, hlast, Route.parent_ofNames, hfollow]
    cases habove : d.follow (Route.ofNames names) with
    | error e => rfl
    | ok above =>
      obtain rfl := follow_ofNames (h.of_prefix hup) habove
      simp only [bind, Except.bind, hsame above hup]

end

namespace Passable

variable {d' : Disk} {here : List String}

theorem folder (h : d.Passable here names) {p : List String} (hp : p <+: names) (hne : p ≠ names) :
    d.node? (here ++ p) = some .folder := by
  induction names generalizing here p with
  | nil => exact absurd (List.prefix_nil.1 hp) hne
  | cons name names ih =>
    obtain ⟨hfolder, -, -, hrest⟩ := h
    cases p with
    | nil =>
      rw [List.append_nil]
      exact hfolder
    | cons first p =>
      obtain ⟨rfl, htail⟩ := List.cons_prefix_cons.1 hp
      have hnode := ih hrest htail fun heq => hne (heq ▸ rfl)
      rwa [List.append_assoc, List.singleton_append] at hnode

/-- A way can be gone on another disk when its folders stand there, and something at its end. -/
theorem congr (h : d.Passable here names)
    (hfolders : ∀ p, p <+: names → p ≠ names → d'.node? (here ++ p) = some .folder)
    (hend : d'.node? (here ++ names) ≠ none) : d'.Passable here names := by
  induction names generalizing here with
  | nil => trivial
  | cons name names ih =>
    obtain ⟨-, hsize, -, hrest⟩ := h
    have happend : ∀ p, here ++ [name] ++ p = here ++ name :: p := fun p => by simp
    have hhere := hfolders [] (List.nil_prefix) nofun
    rw [List.append_nil] at hhere
    refine ⟨hhere, hsize, ?_, ih hrest (fun p hp hne => ?_) (happend names ▸ hend)⟩
    · -- The first place is the end of the way or one of its folders.
      cases names with
      | nil => exact hend
      | cons next names =>
        rw [hfolders [name] (List.prefix_append [name] _) (by simp)]
        exact nofun
    · rw [happend]
      exact hfolders (name :: p) (List.cons_prefix_cons.2 ⟨rfl, hp⟩)
        fun heq => hne (List.cons.inj heq).2

end Passable

/-! ### Neighbours -/

theorem Passable.neighbour {here : List String} {name other : String}
    (h : d.Passable here (names ++ [name])) (hsize : other.utf8ByteSize ≤ name.utf8ByteSize)
    (hend : d.node? (here ++ (names ++ [other])) ≠ none) : d.Passable here (names ++ [other]) := by
  induction names generalizing here with
  | nil =>
    obtain ⟨hfolder, hname, -, -⟩ := h
    exact ⟨hfolder, Nat.le_trans hsize hname, hend, trivial⟩
  | cons first names ih =>
    obtain ⟨hfolder, hname, hnode, hrest⟩ := h
    have happend : here ++ [first] ++ (names ++ [other]) = here ++ (first :: names ++ [other]) := by
      simp
    exact ⟨hfolder, hname, hnode, ih hrest (happend ▸ hend)⟩

theorem Route.exists_text_ofNames (names : List String) :
    ∃ start, ∀ name, (ofNames (names ++ [name])).text = start ++ name := by
  unfold text ofNames
  cases names with
  | nil => exact ⟨"/", fun name => by simp [Step.text]⟩
  | cons first names =>
    refine ⟨"/" ++ ("/".intercalate (((first :: names).map Step.down).map Step.text) ++ "/"),
      fun name => ?_⟩
    rw [List.map_append, List.map_append,
      String.intercalate_append_of_ne_nil (by simp) (by simp), ← String.append_assoc]
    simp [Step.text]

theorem accept_neighbour {name other : String}
    (h : accept (Route.ofNames (names ++ [name])) = .ok ())
    (hsize : other.utf8ByteSize ≤ name.utf8ByteSize) (hnul : '\x00' ∉ other.toList) :
    accept (Route.ofNames (names ++ [other])) = .ok () := by
  obtain ⟨start, htext⟩ := Route.exists_text_ofNames names
  unfold accept at h ⊢
  simp only [htext, String.toList_append, List.mem_append, String.utf8ByteSize_append] at h ⊢
  split at h
  · cases h
  next hclean =>
    split at h
    · cases h
    next hshort =>
      rw [if_neg, if_neg]
      · omega
      · rintro (hstart | hother)
        · exact hclean (.inl hstart)
        · exact hnul hother

/-- Where a file can be read, a neighbour with a name that is no longer can be read. -/
theorem isOk_read_neighbour {name other : String} {content : Content} {time : Int}
    (h : d.Straight (names ++ [name])) (h' : d.Straight (names ++ [other]))
    (hread : (d.read (Route.ofNames (names ++ [name]))).isOk = true)
    (hnode : d.node? (names ++ [other]) = some (.file content time))
    (hsize : other.utf8ByteSize ≤ name.utf8ByteSize) (hnul : '\x00' ∉ other.toList) :
    (d.read (Route.ofNames (names ++ [other]))).isOk = true := by
  cases hname : d.read (Route.ofNames (names ++ [name])) with
  | error e =>
    rw [hname] at hread
    cases hread
  | ok held =>
    obtain ⟨haccept, hpass, -⟩ := (read_ofNames_iff h).1 hname
    have hother : d.Passable [] (names ++ [other]) :=
      hpass.neighbour hsize (by rw [List.nil_append, hnode]; exact nofun)
    rw [(read_ofNames_iff h').2 ⟨accept_neighbour haccept hsize hnul, hother, time, hnode⟩]
    rfl

end Gazetteer.Disk
