import Gazetteer.Proofs.Area.Reference
import Gazetteer.Proofs.Path.Relative
import Gazetteer.Proofs.Text.Folding
import Gazetteer.Proofs.Text.Lowering

/-!
# Inferred ids

The names of directories are looked over before they are folded, so what is taken off by folding can
leave an id that would not have been accepted as a name: an empty one, a structural one or a private
one. An id is as it should be if the name that it comes from was folded already, and all ids of a
path are exactly if the names below its containers fold to such ids (`inferred_ids_are_proper_iff`).
-/

namespace Gazetteer.Area

/-! ## Names of directories -/

/-- Whether a name may be that of an area: it is neither private nor dynamic nor structural. -/
structure IsAccepted (name : List Char) : Prop where
  nonempty : name ≠ []
  shown : name.head? ∉ ['[', '_', '@', '.', '+'].map some
  notGeneric : ∀ generic ∈ genericNames, name ≠ generic.toList

instance (name : List Char) : Decidable (IsAccepted name) :=
  decidable_of_iff
    (name ≠ [] ∧ name.head? ∉ ['[', '_', '@', '.', '+'].map some ∧
      ∀ generic ∈ genericNames, name ≠ generic.toList)
    ⟨fun ⟨hnonempty, hshown, hgeneric⟩ => ⟨hnonempty, hshown, hgeneric⟩,
      fun h => ⟨h.nonempty, h.shown, h.notGeneric⟩⟩

theorem isAccepted_cons_iff {c : Char} {rest : List Char} : IsAccepted (c :: rest) ↔
    c ∉ ['[', '_', '@', '.', '+'] ∧
      ¬ genericNames.any fun generic => c :: rest = generic.toList := by
  have hhead : some c ∉ ['[', '_', '@', '.', '+'].map some ↔ c ∉ ['[', '_', '@', '.', '+'] :=
    not_congr (List.mem_map_of_injective fun _ _ => Option.some.inj)
  constructor
  · intro h
    refine ⟨hhead.1 h.shown, fun hany => ?_⟩
    obtain ⟨generic, hgeneric, hname⟩ := List.any_eq_true.1 hany
    exact h.notGeneric generic hgeneric (of_decide_eq_true hname)
  · rintro ⟨hshown, hgeneric⟩
    refine ⟨List.cons_ne_nil c rest, hhead.2 hshown, ?_⟩
    intro generic hmem hname
    exact hgeneric (List.any_eq_true.2 ⟨generic, hmem, decide_eq_true hname⟩)

/-- A name is looked over first and folded afterwards. -/
theorem cleaned?_eq (directory : List Char) : cleaned? directory =
    if IsAccepted (unwrapped directory) then some (Text.fold (unwrapped directory)) else none := by
  unfold cleaned?
  cases unwrapped directory with
  | nil =>
    have hnone : ¬ IsAccepted [] := fun h => h.nonempty rfl
    rw [if_neg hnone]
  | cons c rest =>
    dsimp only
    simp only [isAccepted_cons_iff]
    split
    next hhidden => rw [if_neg fun h => h.1 hhidden]
    next hshown =>
      split
      next hgeneric => rw [if_neg fun h => h.2 hgeneric]
      next hgeneric => rw [if_pos ⟨hshown, hgeneric⟩]

/-- Whether an id is as ids should be: one that would be accepted as a name, and folded. -/
structure IsProper (id : String) : Prop where
  accepted : IsAccepted id.toList
  folded : Text.fold id.toList = id.toList

instance (id : String) : Decidable (IsProper id) :=
  decidable_of_iff (IsAccepted id.toList ∧ Text.fold id.toList = id.toList)
    ⟨fun ⟨haccepted, hfolded⟩ => ⟨haccepted, hfolded⟩, fun h => ⟨h.accepted, h.folded⟩⟩

theorem isProper_builtin {b : Builtin} (h : b ∈ Builtin.all) : IsProper b.id := by
  have hall : ∀ b ∈ Builtin.all, IsProper b.id := by decide
  exact hall b h

/-! ## Where ids come from -/

/-- Whether a directory of this name, in parentheses or not, stands right below a container. -/
def StandsBelow (path : String) (name : List Char) : Prop :=
  ∃ container ∈ containers, ∃ directory,
    [container.toList, directory] <:+: directories path ∧ unwrapped directory = name

theorem StandsBelow.exists_directory {path : String} {name : List Char}
    (h : StandsBelow path name) : ∃ directory ∈ directories path, unwrapped directory = name := by
  obtain ⟨container, -, directory, hpair, hname⟩ := h
  exact ⟨directory, hpair.subset (by simp), hname⟩

theorem forall_standsBelow {path : String} {P : List Char → Prop}
    (h : ∀ directory ∈ directories path, P (unwrapped directory)) :
    ∀ name, StandsBelow path name → P name := by
  intro name hname
  obtain ⟨directory, hdirectory, rfl⟩ := hname.exists_directory
  exact h directory hdirectory

theorem mem_idsAlong_iff {segments : List (List Char)} {id : String} : id ∈ idsAlong segments ↔
    (∃ segment ∈ segments, idByName? segment = some id) ∨
      ∃ segment next, [segment, next] <:+: segments ∧ idBelow? segment next = some id := by
  induction segments using idsAlong.induct with
  | case1 => simp [idsAlong]
  | case2 segment =>
    have hpair : ∀ outer inner, ¬ [outer, inner] <:+: [segment] := by
      intro outer inner h
      have hlength := h.length_le
      simp at hlength
    simp [idsAlong, hpair]
  | case3 segment next rest ih =>
    have hpairs : ∀ outer inner, [outer, inner] <:+: segment :: next :: rest ↔
        (outer = segment ∧ inner = next) ∨ [outer, inner] <:+: next :: rest := by
      intro outer inner
      rw [List.infix_cons_iff]
      simp
    rw [idsAlong, List.mem_append, List.mem_append, Option.mem_toList, Option.mem_toList, ih]
    constructor
    · rintro ((hname | hbelow) | ⟨other, hother, hname⟩ | ⟨outer, inner, hpair, hbelow⟩)
      · exact .inl ⟨segment, List.mem_cons_self, hname⟩
      · exact .inr ⟨segment, next, (hpairs _ _).2 (.inl ⟨rfl, rfl⟩), hbelow⟩
      · exact .inl ⟨other, List.mem_cons_of_mem _ hother, hname⟩
      · exact .inr ⟨outer, inner, (hpairs _ _).2 (.inr hpair), hbelow⟩
    · rintro (⟨other, hother, hname⟩ | ⟨outer, inner, hpair, hbelow⟩)
      · rcases List.mem_cons.1 hother with rfl | hother
        · exact .inl (.inl hname)
        · exact .inr (.inl ⟨other, hother, hname⟩)
      · rcases (hpairs _ _).1 hpair with ⟨rfl, rfl⟩ | hpair
        · exact .inl (.inr hbelow)
        · exact .inr (.inr ⟨outer, inner, hpair, hbelow⟩)

theorem idBelow?_eq_some_iff {directory next : List Char} {id : String} :
    idBelow? directory next = some id ↔ (∃ container ∈ containers, directory = container.toList) ∧
      IsAccepted (unwrapped next) ∧ idOfFolded (Text.fold (unwrapped next)) = id := by
  unfold idBelow?
  rw [cleaned?_eq]
  constructor
  · intro h
    split at h
    next hcontainer =>
      split at h
      next haccepted => exact ⟨by simpa using hcontainer, haccepted, Option.some.inj h⟩
      · cases h
    · cases h
  · rintro ⟨⟨container, hcontainer, hdirectory⟩, haccepted, hid⟩
    have hany : (containers.any fun container => directory = container.toList) = true :=
      List.any_eq_true.2 ⟨container, hcontainer, decide_eq_true hdirectory⟩
    rw [if_pos hany, if_pos haccepted, Option.map_some, hid]

variable {path id : String}

/-- Directories name areas by what they are called, or by standing below a container. -/
theorem mem_infer_iff : id ∈ infer path ↔
    (∃ directory ∈ directories path, idByName? directory = some id) ∨
      ∃ name, StandsBelow path name ∧ IsAccepted name ∧ idOfFolded (Text.fold name) = id := by
  rw [infer, OrdSet.mem_ofList, mem_idsAlong_iff]
  refine or_congr_right ⟨?_, ?_⟩
  · rintro ⟨outer, inner, hpair, hbelow⟩
    obtain ⟨⟨container, hcontainer, rfl⟩, haccepted, hid⟩ := idBelow?_eq_some_iff.1 hbelow
    exact ⟨unwrapped inner, ⟨container, hcontainer, inner, hpair, rfl⟩, haccepted, hid⟩
  · rintro ⟨_, ⟨container, hcontainer, inner, hpair, rfl⟩, haccepted, hid⟩
    exact ⟨container.toList, inner, hpair,
      idBelow?_eq_some_iff.2 ⟨⟨container, hcontainer, rfl⟩, haccepted, hid⟩⟩

/-- An id is that of a built-in area, or a folded name that no built-in area goes by. -/
theorem mem_infer_cases (h : id ∈ infer path) : (∃ b ∈ Builtin.all, b.id = id) ∨
    ∃ name, StandsBelow path name ∧ IsAccepted name ∧
      Builtin.ofName? (.ofList (Text.fold name)) = none ∧ id = .ofList (Text.fold name) := by
  rcases mem_infer_iff.1 h with ⟨directory, -, hname⟩ | ⟨name, hbelow, haccepted, hid⟩
  · left
    obtain ⟨b, hb, rfl⟩ := Option.map_eq_some_iff.1 hname
    obtain ⟨folded, -, hfolded⟩ := Option.bind_eq_some_iff.1 hb
    exact ⟨b, Resolver.mem_all_of_ofName? hfolded, rfl⟩
  · unfold idOfFolded at hid
    cases hname : Builtin.ofName? (.ofList (Text.fold name)) with
    | none =>
      right
      rw [hname] at hid
      exact ⟨name, hbelow, haccepted, hname, hid.symm⟩
    | some b =>
      left
      rw [hname] at hid
      exact ⟨b, Resolver.mem_all_of_ofName? hname, hid⟩

theorem mem_infer_of_standsBelow {name : List Char} (h : StandsBelow path name)
    (haccepted : IsAccepted name) (hname : Builtin.ofName? (.ofList (Text.fold name)) = none) :
    String.ofList (Text.fold name) ∈ infer path := by
  refine mem_infer_iff.2 (.inr ⟨name, h, haccepted, ?_⟩)
  rw [idOfFolded, hname]
  rfl

/-! ## Plain names -/

/-- Whether a path is in ASCII and no name below its containers has white space around it. -/
structure HasPlainNames (path : String) : Prop where
  ascii : Text.IsAscii path.toList
  trimmed : ∀ name, StandsBelow path name → Text.trim name = name

theorem isAscii_relative (h : Text.IsAscii path.toList) :
    Text.IsAscii (Path.relative path).toList := by
  intro c hc
  rw [Path.toList_relative] at hc
  obtain ⟨d, hd, rfl⟩ := List.mem_map.1 ((Path.dropLead_suffix _).subset hc)
  show (if d = '\\' then '/' else d).toNat < 128
  split
  · decide
  · exact h d (Text.trim_subset _ hd)

/-- Directories are in lower case. -/
theorem toLower_of_mem_directories {directory : List Char} (h : Text.IsAscii path.toList)
    (hdirectory : directory ∈ directories path) :
    ∀ c ∈ directory, c.toNat < 128 ∧ c.toLower = c := by
  intro c hc
  have hpiece := List.mem_of_mem_filter (List.dropLast_subset _ hdirectory)
  have hmem := Text.splitOn_subset hpiece hc
  have hascii := isAscii_relative h
  rw [Text.lower_of_isAscii hascii] at hmem
  obtain ⟨d, hd, rfl⟩ := List.mem_map.1 hmem
  obtain ⟨hcode, hagain, -, -⟩ := Text.toLower_facts (hascii d hd)
  exact ⟨hcode, hagain⟩

/-- A name without the parentheses of a route group is a part of the name of its directory. -/
theorem unwrapped_subset (directory : List Char) : unwrapped directory ⊆ directory := by
  unfold unwrapped
  cases hinside : (Text.dropStart? ['('] directory).bind (Text.dropEnd? [')']) with
  | none => exact List.Subset.refl _
  | some inside =>
    obtain ⟨rest, hstart, hend⟩ := Option.bind_eq_some_iff.1 hinside
    rw [Text.dropStart?_eq_some_iff.1 hstart, Text.dropEnd?_eq_some_iff.1 hend]
    show inside ⊆ ['('] ++ (inside ++ [')'])
    intro c hc
    exact List.mem_append_right _ (List.mem_append_left _ hc)

theorem HasPlainNames.fold_eq (h : HasPlainNames path) {name : List Char}
    (hname : StandsBelow path name) : Text.fold name = name := by
  have htrim := h.trimmed name hname
  obtain ⟨directory, hdirectory, rfl⟩ := hname.exists_directory
  have hchars : ∀ c ∈ unwrapped directory, c.toNat < 128 ∧ c.toLower = c := by
    intro c hc
    exact toLower_of_mem_directories h.ascii hdirectory c (unwrapped_subset directory hc)
  have hlower : (unwrapped directory).map Char.toLower = (unwrapped directory).map id :=
    List.map_congr_left fun c hc => (hchars c hc).2
  rw [Text.fold_of_isAscii fun c hc => (hchars c hc).1, htrim, hlower, List.map_id]

/-! ## Proper ids -/

theorem IsAccepted.isProper {name : List Char} (h : IsAccepted name)
    (hfold : Text.fold name = name) : IsProper (.ofList (Text.fold name)) := by
  rw [hfold]
  constructor
  · rwa [String.toList_ofList]
  · rw [String.toList_ofList, hfold]

/-- The ids that a path names rise. All are as they should be exactly if each accepted name below a
container that no built-in area goes by folds to such an id. One that is not is the folded form of
an accepted name that was not folded, and a path with plain names has none. -/
theorem inferred_ids_are_proper_iff (path : String) :
    (infer path).toList.Pairwise (fun a b => compare a b = .lt) ∧
      ((∀ id ∈ infer path, IsProper id) ↔
        ∀ name, StandsBelow path name → IsAccepted name →
          Builtin.ofName? (.ofList (Text.fold name)) = none →
            IsProper (.ofList (Text.fold name))) ∧
      (∀ id ∈ infer path, ¬ IsProper id →
        ∃ name, StandsBelow path name ∧ IsAccepted name ∧ Text.fold name ≠ name ∧
          id = .ofList (Text.fold name)) ∧
      (HasPlainNames path → ∀ id ∈ infer path, IsProper id) := by
  have hunfolded : ∀ id ∈ infer path, ¬ IsProper id →
      ∃ name, StandsBelow path name ∧ IsAccepted name ∧ Text.fold name ≠ name ∧
        id = .ofList (Text.fold name) := by
    intro id hid himproper
    rcases mem_infer_cases hid with ⟨b, hb, rfl⟩ | ⟨name, hbelow, haccepted, -, rfl⟩
    · exact absurd (isProper_builtin hb) himproper
    · have hchanged : Text.fold name ≠ name := fun hfold => himproper (haccepted.isProper hfold)
      exact ⟨name, hbelow, haccepted, hchanged, rfl⟩
  refine ⟨(infer path).increasing, ⟨?_, ?_⟩, hunfolded, ?_⟩
  · intro hproper name hbelow haccepted hname
    exact hproper _ (mem_infer_of_standsBelow hbelow haccepted hname)
  · intro hnames id hid
    rcases mem_infer_cases hid with ⟨b, hb, rfl⟩ | ⟨name, hbelow, haccepted, hname, rfl⟩
    · exact isProper_builtin hb
    · exact hnames name hbelow haccepted hname
  · intro hplain id hid
    by_contra himproper
    obtain ⟨name, hbelow, -, hchanged, -⟩ := hunfolded id hid himproper
    exact hchanged (hplain.fold_eq hbelow)

/-- Two directories that may name areas, one of them with a letter that folding takes apart. -/
theorem cart_and_cafe_are_proper : (∀ id ∈ infer "src/features/(cart)/a.ts", IsProper id) ∧
    ∀ id ∈ infer "src/modules/café/a.ts", IsProper id := by
  constructor
  · have hplain : HasPlainNames "src/features/(cart)/a.ts" := by
      refine ⟨by decide, ?_⟩
      exact forall_standsBelow (by decide)
    obtain ⟨-, -, -, hproper⟩ := inferred_ids_are_proper_iff "src/features/(cart)/a.ts"
    exact hproper hplain
  · obtain ⟨-, hiff, -, -⟩ := inferred_ids_are_proper_iff "src/modules/café/a.ts"
    exact hiff.2 (forall_standsBelow (by decide))

/-- Folding leaves nothing of a space, the name of a structural directory of `ápi`, a dynamic name
of one with a space in front, and, where a mark stood at the end, a name that is not folded. -/
theorem exists_improper_ids : "" ∈ infer "features/ /a.ts" ∧ "api" ∈ infer "features/ápi/a.ts" ∧
    "[id]" ∈ infer "app/ [id]/a.ts" ∧ "a " ∈ infer "features/a \u0301/a.ts" ∧
      ∀ id ∈ ["", "api", "[id]", "a "], ¬ IsProper id := by
  decide +kernel

end Gazetteer.Area
