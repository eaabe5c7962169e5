import Gazetteer.Proofs.Area.Index
import Gazetteer.Proofs.Text.Cutting

/-!
# References to areas

A text can name areas in five ways, and the first way in which it names any decides: the least of
the areas named in that way is the referent. So a listed area can be asked for by its id exactly if
no other area goes before it. That other areas can is how references are meant to work: a part of an
id is a reference too.
-/

namespace Gazetteer

namespace Area

/-- The ways in which a text can name an area, in the order in which they are tried. -/
inductive Tier where
  /-- By a declared id. -/
  | id
  /-- By a declared name. -/
  | name
  /-- By a name of a built-in area. -/
  | builtin
  /-- By part of a declared id. -/
  | idPart
  /-- By part of an inferred id. -/
  | inferredPart
deriving DecidableEq

namespace Tier

def all : List Tier := [.id, .name, .builtin, .idPart, .inferredPart]

def rank : Tier → Nat
  | .id => 0
  | .name => 1
  | .builtin => 2
  | .idPart => 3
  | .inferredPart => 4

theorem mem_all (tier : Tier) : tier ∈ all := by cases tier <;> decide

theorem pairwise_all : all.Pairwise fun a b => a.rank < b.rank := by decide

theorem mem_of_rank_lt {earlier tier : Tier} {before after : List Tier}
    (hall : all = before ++ tier :: after) (h : earlier.rank < tier.rank) : earlier ∈ before := by
  have hpairwise := pairwise_all
  rw [hall, List.pairwise_append, List.pairwise_cons] at hpairwise
  obtain ⟨-, ⟨hafter, -⟩, -⟩ := hpairwise
  have hmem := mem_all earlier
  rw [hall, List.mem_append, List.mem_cons] at hmem
  rcases hmem with hbefore | rfl | hlater
  · exact hbefore
  · exact absurd h (Nat.lt_irrefl _)
  · exact absurd h (Nat.lt_asymm (hafter _ hlater))

end Tier

/-- Whether an id is the least with a property. -/
def IsLeast (p : String → Prop) (id : String) : Prop :=
  p id ∧ ∀ other, p other → other = id ∨ compare id other = .lt

namespace Resolver

variable {r : Resolver} {files : List String} {text : String}

/-- Whether a text, which has no blanks around it, names an area in some way. -/
def Names (r : Resolver) (files : List String) (text : String) (tier : Tier) (id : String) : Prop :=
  match tier with
  | .id => ∃ area ∈ r.declared, area.id = text ∧ area.id = id
  | .name => ∃ area ∈ r.declared,
    (∃ name, area.name = some name ∧ Text.fold name.toList = Text.fold text.toList) ∧ area.id = id
  | .builtin => ∃ b, Builtin.ofName? text = some b ∧ b.id = id
  | .idPart => ∃ area ∈ r.declared,
    Text.fold text.toList <:+: Text.fold area.id.toList ∧ area.id = id
  | .inferredPart => id ∈ r.inferredIds files ∧ Text.fold text.toList <:+: Text.fold id.toList

/-- The area that a text refers to by one way of naming. -/
def named? (r : Resolver) (files : List String) (text : String) : Tier → Option String
  | .id => (r.declared.find? fun area => area.id = text).map Declared.id
  | .name => (r.declared.find? fun area => (area.name.map fun name =>
      decide (Text.fold name.toList = Text.fold text.toList)).getD false).map Declared.id
  | .builtin => (Builtin.ofName? text).map Builtin.id
  | .idPart => (r.declared.find? fun area =>
      Text.occursIn (Text.fold text.toList) (Text.fold area.id.toList)).map Declared.id
  | .inferredPart => (r.inferredIds files).toList.find? fun id =>
      Text.occursIn (Text.fold text.toList) (Text.fold id.toList)

theorem referent?_eq_findSome? (r : Resolver) (files : List String) (text : String) :
    r.referent? text files = Tier.all.findSome? (r.named? files text) := by
  show (r.named? files text .id <|> r.named? files text .name <|> r.named? files text .builtin <|>
    r.named? files text .idPart <|> r.named? files text .inferredPart) = _
  unfold Tier.all
  simp only [List.findSome?_cons, List.findSome?_nil]
  cases r.named? files text .id <;> cases r.named? files text .name <;>
    cases r.named? files text .builtin <;> cases r.named? files text .idPart <;>
    cases r.named? files text .inferredPart <;> rfl

/-! ## The least area of a tier -/

/-- In a list whose keys rise, the first member that passes a test has the least key of those that
do. -/
theorem map_find?_eq_some_iff {α : Type} {l : List α} {key : α → String} {p : α → Bool}
    (h : l.Pairwise fun a b => compare (key a) (key b) = .lt) {k : String} :
    (l.find? p).map key = some k ↔ IsLeast (fun k => ∃ a ∈ l, p a = true ∧ key a = k) k := by
  constructor
  · intro hfind
    obtain ⟨a, hfirst, rfl⟩ := Option.map_eq_some_iff.1 hfind
    obtain ⟨hpa, before, after, rfl, hbefore⟩ := List.find?_eq_some_iff_append.1 hfirst
    refine ⟨⟨a, by simp, hpa, rfl⟩, ?_⟩
    rintro _ ⟨b, hb, hpb, rfl⟩
    obtain ⟨-, hrest, -⟩ := List.pairwise_append.1 h
    rcases List.mem_append.1 hb with hb | hb
    · exact absurd hpb (by simpa using hbefore b hb)
    · rcases List.mem_cons.1 hb with rfl | hb
      · exact .inl rfl
      · exact .inr ((List.pairwise_cons.1 hrest).1 b hb)
  · rintro ⟨⟨a, ha, hpa, rfl⟩, hleast⟩
    induction l with
    | nil => cases ha
    | cons b l ih =>
      obtain ⟨hb, hl⟩ := List.pairwise_cons.1 h
      by_cases hpb : p b = true
      · rw [List.find?_cons_of_pos hpb, Option.map_some]
        rcases List.mem_cons.1 ha with rfl | ha
        · rfl
        · rcases hleast (key b) ⟨b, List.mem_cons_self, hpb, rfl⟩ with heq | hlt
          · rw [heq]
          · exact absurd (Std.TransCmp.lt_trans hlt (hb a ha)) (by simp)
      · rw [List.find?_cons_of_neg hpb]
        refine ih hl ?_ ?_
        · rcases List.mem_cons.1 ha with rfl | ha
          · exact absurd hpa hpb
          · exact ha
        · rintro other ⟨c, hc, hpc, rfl⟩
          exact hleast _ ⟨c, List.mem_cons_of_mem _ hc, hpc, rfl⟩

theorem find?_eq_some_iff {l : List String} {p : String → Bool}
    (h : l.Pairwise fun a b => compare a b = .lt) {k : String} :
    l.find? p = some k ↔ IsLeast (fun k => k ∈ l ∧ p k = true) k := by
  have hmap : (l.find? p).map (fun a => a) = some k ↔ _ := map_find?_eq_some_iff h
  rw [Option.map_id'] at hmap
  rw [hmap]
  simp [IsLeast]

theorem map_find?_eq_none_iff {α : Type} {l : List α} {key : α → String} {p : α → Bool} :
    (l.find? p).map key = none ↔ ∀ k, ¬ ∃ a ∈ l, p a = true ∧ key a = k := by
  rw [Option.map_eq_none_iff, List.find?_eq_none]
  constructor
  · rintro h _ ⟨a, ha, hpa, rfl⟩
    exact h a ha hpa
  · exact fun h a ha hpa => h _ ⟨a, ha, hpa, rfl⟩

/-- Whether the declared areas stand in the order of their ids. -/
def IsOrdered (r : Resolver) : Prop :=
  r.declared.Pairwise fun a b => compare a.id b.id = .lt

theorem isOrdered_ofConfig (config : Config) : (ofConfig config).IsOrdered := by
  unfold IsOrdered ofConfig
  rw [List.pairwise_map]
  exact config.areas.increasing

/-! ### Naming and searching -/

section

variable {id : String}

theorem names_id : r.Names files text .id id ↔
    ∃ area ∈ r.declared, decide (area.id = text) = true ∧ area.id = id := by simp [Names]

theorem names_name : r.Names files text .name id ↔
    ∃ area ∈ r.declared, (area.name.map fun name =>
      decide (Text.fold name.toList = Text.fold text.toList)).getD false = true ∧ area.id = id := by
  refine exists_congr fun area => and_congr_right fun _ => ?_
  cases area.name <;> simp

theorem names_idPart : r.Names files text .idPart id ↔ ∃ area ∈ r.declared,
    Text.occursIn (Text.fold text.toList) (Text.fold area.id.toList) = true ∧ area.id = id := by
  simp [Names, Text.occursIn_iff]

theorem names_inferredPart : r.Names files text .inferredPart id ↔
    id ∈ (r.inferredIds files).toList ∧
    Text.occursIn (Text.fold text.toList) (Text.fold id.toList) = true := by
  rw [Text.occursIn_iff]
  rfl

end

theorem isLeast_congr {p q : String → Prop} (h : ∀ id, p id ↔ q id) {id : String} :
    IsLeast p id ↔ IsLeast q id := by
  have heq : p = q := funext fun id => propext (h id)
  rw [heq]

theorem named?_eq_some_iff (h : r.IsOrdered) {tier : Tier} {id : String} :
    r.named? files text tier = some id ↔ IsLeast (r.Names files text tier) id := by
  cases tier with
  | id =>
    rw [named?, map_find?_eq_some_iff h]
    exact isLeast_congr fun id => names_id.symm
  | name =>
    rw [named?, map_find?_eq_some_iff h]
    exact isLeast_congr fun id => names_name.symm
  | builtin =>
    rw [named?, Option.map_eq_some_iff]
    constructor
    · rintro ⟨b, hb, rfl⟩
      refine ⟨⟨b, hb, rfl⟩, ?_⟩
      rintro _ ⟨c, hc, rfl⟩
      exact .inl (congrArg Builtin.id (Option.some.inj (hc.symm.trans hb)))
    · exact fun hleast => hleast.1
  | idPart =>
    rw [named?, map_find?_eq_some_iff h]
    exact isLeast_congr fun id => names_idPart.symm
  | inferredPart =>
    rw [named?, find?_eq_some_iff (r.inferredIds files).increasing]
    exact isLeast_congr fun id => names_inferredPart.symm

theorem named?_eq_none_iff {tier : Tier} :
    r.named? files text tier = none ↔ ∀ id, ¬ r.Names files text tier id := by
  cases tier with
  | id => simp only [named?, map_find?_eq_none_iff, names_id]
  | name => simp only [named?, map_find?_eq_none_iff, names_name]
  | builtin => simp [named?, Names, Option.eq_none_iff_forall_ne_some]
  | idPart => simp only [named?, map_find?_eq_none_iff, names_idPart]
  | inferredPart => simp only [named?, List.find?_eq_none, names_inferredPart, not_and]

/-! ## Referents -/

/-- Whether an area is the first that a text names. -/
def IsReferent (r : Resolver) (files : List String) (text id : String) : Prop :=
  ∃ tier, IsLeast (r.Names files text tier) id ∧
    ∀ earlier : Tier, earlier.rank < tier.rank → ∀ other, ¬ r.Names files text earlier other

theorem referent?_eq_some_iff (h : r.IsOrdered) {id : String} :
    r.referent? text files = some id ↔ r.IsReferent files text id := by
  unfold IsReferent
  simp only [← named?_eq_some_iff h, ← named?_eq_none_iff, referent?_eq_findSome?]
  constructor
  · intro hfind
    obtain ⟨before, tier, after, hall, htier, hbefore⟩ := List.findSome?_eq_some_iff.1 hfind
    exact ⟨tier, htier, fun earlier hlt => hbefore earlier (Tier.mem_of_rank_lt hall hlt)⟩
  · rintro ⟨tier, htier, hearlier⟩
    cases tier with
    | id => simp [Tier.all, htier]
    | name => simp [Tier.all, htier, hearlier .id (by decide)]
    | builtin => simp [Tier.all, htier, hearlier .id (by decide), hearlier .name (by decide)]
    | idPart =>
      simp [Tier.all, htier, hearlier .id (by decide), hearlier .name (by decide),
        hearlier .builtin (by decide)]
    | inferredPart =>
      simp [Tier.all, htier, hearlier .id (by decide), hearlier .name (by decide),
        hearlier .builtin (by decide), hearlier .idPart (by decide)]

theorem referent?_eq_none_iff :
    r.referent? text files = none ↔ ∀ tier id, ¬ r.Names files text tier id := by
  simp only [referent?_eq_findSome?, List.findSome?_eq_none_iff, named?_eq_none_iff]
  exact ⟨fun h tier => h tier (Tier.mem_all tier), fun h tier _ => h tier⟩

/-- Whether a text refers to what it spells: it folds to nothing, or names no area, or its area is
called like that. -/
def StandsForItself (r : Resolver) (files : List String) (input : String) : Prop :=
  let text := String.ofList (Text.trim input.toList)
  Text.fold (Text.trim input.toList) = [] ∨ (∀ tier id, ¬ r.Names files text tier id) ∨
    r.IsReferent files text input

theorem resolveReference_eq_self_iff (h : r.IsOrdered) {input : String} :
    r.resolveReference input files = input ↔ r.StandsForItself files input := by
  unfold resolveReference StandsForItself
  simp only [String.toList_ofList]
  by_cases hblank : Text.fold (Text.trim input.toList) = []
  · simp [hblank]
  · simp only [hblank, if_false, false_or]
    rw [← referent?_eq_none_iff, ← referent?_eq_some_iff h]
    cases r.referent? (String.ofList (Text.trim input.toList)) files <;> simp

/-- A declared id without blanks around it goes before everything else. -/
theorem standsForItself_of_mem {area : Declared} (harea : area ∈ r.declared)
    (htrim : Text.trim area.id.toList = area.id.toList) : r.StandsForItself files area.id := by
  unfold StandsForItself
  rw [htrim, String.ofList_toList]
  refine .inr (.inr ⟨.id, ⟨⟨area, harea, rfl, rfl⟩, ?_⟩, ?_⟩)
  · rintro _ ⟨other, -, hother, rfl⟩
    exact .inl hother
  · intro other hrank
    exact absurd hrank (Nat.not_lt_zero _)

/-! ## Listed areas and built-in ones -/

theorem ofName?_trim (cs : List Char) :
    Builtin.ofName? (.ofList (Text.trim cs)) = Builtin.ofName? (.ofList cs) := by
  simp only [Builtin.ofName?, String.toList_ofList, Text.fold, Text.trim_trim]

theorem ofName?_id {b c : Builtin} (hb : b ∈ Builtin.all) (hc : Builtin.ofName? b.id = some c) :
    c.id = b.id := by
  have hall : ∀ b ∈ Builtin.all, Builtin.ofName? b.id = some b := by decide
  rw [hall b hb] at hc
  rw [Option.some.inj hc]

theorem mem_all_of_ofName? {name : String} {b : Builtin} (h : Builtin.ofName? name = some b) :
    b ∈ Builtin.all := by
  have hnames : ∀ e ∈ Builtin.foldedNames, e.2 ∈ Builtin.all := by decide
  rw [Builtin.ofName?, Builtin.ofFolded?] at h
  split at h
  · cases h
  · obtain ⟨before, after, hmem, -⟩ := List.lookup_eq_some_iff.1 h
    refine hnames (Text.fold name.toList, b) ?_
    rw [hmem]
    exact List.mem_append_right _ List.mem_cons_self

theorem ofName?_idOfFolded {name : List Char} {b : Builtin}
    (h : Builtin.ofName? (idOfFolded name) = some b) : b.id = idOfFolded name := by
  unfold idOfFolded at h ⊢
  cases hname : Builtin.ofName? (.ofList name) with
  | none =>
    rw [hname, Option.map_none, Option.getD_none, hname] at h
    cases h
  | some c =>
    rw [hname, Option.map_some, Option.getD_some] at h
    exact ofName?_id (mem_all_of_ofName? hname) h

/-- An area that directories name is not a second name of a built-in one. -/
theorem ofName?_of_mem_idsAlong {segments : List (List Char)} {id : String}
    (h : id ∈ idsAlong segments) {b : Builtin} (hb : Builtin.ofName? id = some b) : b.id = id := by
  have hbyName : ∀ segment, id ∈ (idByName? segment).toList → b.id = id := by
    intro segment hid
    obtain ⟨c, hc, rfl⟩ := Option.map_eq_some_iff.1 (Option.mem_toList.1 hid)
    obtain ⟨name, -, hname⟩ := Option.bind_eq_some_iff.1 hc
    exact ofName?_id (mem_all_of_ofName? hname) hb
  have hbelow : ∀ segment next, id ∈ (idBelow? segment next).toList → b.id = id := by
    intro segment next hid
    rw [Option.mem_toList, idBelow?] at hid
    split at hid
    · obtain ⟨name, -, rfl⟩ := Option.map_eq_some_iff.1 hid
      exact ofName?_idOfFolded hb
    · cases hid
  induction segments using idsAlong.induct with
  | case1 => cases h
  | case2 segment => exact hbyName segment h
  | case3 segment next rest ih =>
    rw [idsAlong, List.mem_append, List.mem_append] at h
    rcases h with (hname | hcontained) | hrest
    · exact hbyName segment hname
    · exact hbelow segment next hcontained
    · exact ih hrest

theorem declared_or_inferred {path id : String} (h : id ∈ (r.assign path).ids) :
    (∃ area ∈ r.declared, area.id = id) ∨ ∃ path, id ∈ infer path := by
  unfold assign at h
  split at h
  · exact absurd h OrdSet.not_mem_empty
  · dsimp only at h
    split at h
    · right
      exact ⟨Path.relative path, h⟩
    · left
      unfold declaredIds at h
      obtain ⟨area, harea, hid⟩ := List.mem_map.1 (OrdSet.mem_ofList.1 h)
      exact ⟨area, (List.mem_filter.1 harea).1, hid⟩

/-- A listed area is declared, or the directories of a file name it. -/
theorem declared_or_inferred_of_listed {id : String}
    (h : ∃ i, (r.index files).areas.find? id = some i) :
    (∃ area ∈ r.declared, area.id = id) ∨ ∃ path, id ∈ infer path := by
  obtain ⟨e, he, hid⟩ := exists_find?_areas_iff.1 h
  obtain ⟨⟨path, assignment⟩, hassigned, rfl⟩ := List.mem_map.1 he
  have hfind : (r.assignments files).find? path = some assignment :=
    OrdMap.find?_eq_some_iff.2 hassigned
  obtain ⟨file, -, hfile⟩ := List.mem_map.1 (OrdMap.mem_of_find?_ofList hfind)
  obtain ⟨rfl, rfl⟩ := Prod.mk.inj hfile
  exact declared_or_inferred hid

end Resolver
end Area

namespace ProjectMap

open Area (Resolver Config)

variable {r : Resolver} {files : List String} {id : String} {i : Area.Info}

theorem id_of_find?_areas (h : (r.index files).areas.find? id = some i) : i.id = id := by
  obtain ⟨members, -, hmember⟩ := List.mem_map.1 (OrdMap.find?_eq_some_iff.1 h)
  obtain ⟨rfl, rfl⟩ := Prod.mk.inj hmember
  rfl

theorem mem_areas_iff : i ∈ (build r files).areas ↔ (r.index files).areas.find? i.id = some i := by
  have hvalues : i ∈ (build r files).areas ↔ i ∈ (r.index files).areas.values := List.mem_mergeSort
  rw [hvalues, OrdMap.values, List.mem_map]
  constructor
  · rintro ⟨⟨id, i⟩, he, rfl⟩
    have hfind := OrdMap.find?_eq_some_iff.2 he
    rwa [id_of_find?_areas hfind]
  · intro hfind
    exact ⟨(i.id, i), OrdMap.find?_eq_some_iff.1 hfind, rfl⟩

/-- A map answers for the areas that its index lists. -/
theorem area?_build : (build r files).area? id = (r.index files).areas.find? id := by
  unfold area?
  cases hfind : (build r files).areas.find? fun a => a.id = id with
  | none =>
    refine (Option.eq_none_iff_forall_ne_some.2 fun i hi => ?_).symm
    have hid := id_of_find?_areas hi
    have hmem := mem_areas_iff.2 (hid ▸ hi)
    exact absurd hid (by simpa using List.find?_eq_none.1 hfind i hmem)
  | some i =>
    have hid : i.id = id := by simpa using List.find?_some hfind
    have hmem := mem_areas_iff.1 (List.mem_of_find?_eq_some hfind)
    rw [← hid, hmem]

/-- Asking for an area by the id of one leads to that area exactly if no other area goes before it.
This holds for every text and list of files, and so for every area that a map lists. A declared area
whose id has no blanks around it always comes first, and a built-in area never goes before a listed
one that is not declared: what does is declared, or inferred too. -/
theorem listed_area_reference (config : Config) (files : List String) :
    let r := Resolver.ofConfig config
    let m := build r files
    (∀ id, r.resolveReference id files = id ↔ r.StandsForItself files id) ∧
      (∀ i ∈ m.areas, m.area? (r.resolveReference i.id m.filePaths) = some i ↔
        r.StandsForItself m.filePaths i.id) ∧
      (∀ area ∈ r.declared, Text.trim area.id.toList = area.id.toList →
        r.resolveReference area.id files = area.id) ∧
      ∀ i ∈ m.areas, (∀ area ∈ r.declared, area.id ≠ i.id) → ∀ id,
        r.Names files (.ofList (Text.trim i.id.toList)) .builtin id → id = i.id := by
  intro r m
  have hordered : r.IsOrdered := Resolver.isOrdered_ofConfig config
  refine ⟨fun id => Resolver.resolveReference_eq_self_iff hordered, ?_, ?_, ?_⟩
  · intro i hi
    rw [area?_build, ← Resolver.resolveReference_eq_self_iff hordered]
    constructor
    · intro hfound
      exact (id_of_find?_areas hfound).symm
    · intro hself
      rw [hself, ← mem_areas_iff]
      exact hi
  · intro area harea htrim
    exact (Resolver.resolveReference_eq_self_iff hordered).2
      (Resolver.standsForItself_of_mem harea htrim)
  · rintro i hi hdeclared id ⟨b, hb, rfl⟩
    rw [Resolver.ofName?_trim, String.ofList_toList] at hb
    rcases Resolver.declared_or_inferred_of_listed ⟨i, mem_areas_iff.1 hi⟩ with
      ⟨area, harea, hid⟩ | ⟨path, hid⟩
    · exact absurd hid (hdeclared area harea)
    · exact Resolver.ofName?_of_mem_idsAlong (OrdSet.mem_ofList.1 hid) hb

/-- A listed area whose id no other area contains stands for itself. -/
theorem cart_alone_stands_for_itself :
    let r := Resolver.ofConfig .default
    let m := build r ["features/cart/b.ts"]
    ∃ i ∈ m.areas, i.id = "cart" ∧ r.StandsForItself m.filePaths "cart" := by
  intro r m
  have hlisted : ∃ i, (r.index ["features/cart/b.ts"]).areas.find? "cart" = some i := ⟨_, rfl⟩
  obtain ⟨i, hi⟩ := hlisted
  have hid := id_of_find?_areas hi
  have hmem : i ∈ m.areas := mem_areas_iff.2 (hid ▸ hi)
  have hself := (listed_area_reference .default _).2.1 i hmem
  rw [hid, area?_build] at hself
  refine ⟨i, hmem, hid, hself.1 ?_⟩
  have hreference : r.resolveReference "cart" m.filePaths = "cart" := by decide
  rw [hreference]
  exact hi

/-- Of two listed areas the one whose id contains the other's goes before it. -/
theorem exists_listed_area_of_another :
    let r := Resolver.ofConfig .default
    let m := build r ["features/acart/a.ts", "features/cart/b.ts"]
    (∃ i ∈ m.areas, i.id = "cart") ∧ r.resolveReference "cart" m.filePaths = "acart" ∧
      ∃ i, m.area? (r.resolveReference "cart" m.filePaths) = some i ∧ i.id = "acart" := by
  intro r m
  have hreference : r.resolveReference "cart" m.filePaths = "acart" := by decide
  refine ⟨⟨⟨"cart", "Cart", none, true, 1⟩, mem_areas_iff.2 ?_, rfl⟩, hreference, ?_⟩
  · decide
  · rw [hreference, area?_build]
    exact ⟨⟨"acart", "Acart", none, true, 1⟩, by decide, rfl⟩

end ProjectMap
end Gazetteer
