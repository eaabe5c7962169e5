import Gazetteer.Proofs.Ordered.OfList
import Gazetteer.ProjectMap

/-!
# What an index holds

An index lists under an area exactly the files that hold it, so an area is listed when some file
holds it. The numbers of a map never exceed the number of files that it was made from.
-/

namespace Gazetteer

namespace OrdMap

variable {κ : Type u} {α : Type v} {β : Type w} [Ord κ]

section

variable [DecidableEq κ] [Std.TransOrd κ]

theorem find?_alter [Std.LawfulEqOrd κ] (m : OrdMap κ α) (key other : κ) (f : Option α → α) :
    (m.alter key f).find? other = if other = key then some (f (m.find? key)) else m.find? other :=
  find?_insert m key other _

end

theorem length_insert_le (key : κ) (value : α) (es : List (κ × α)) :
    (Entries.insert key value es).length ≤ es.length + 1 := by
  induction es with
  | nil => exact Nat.le_refl _
  | cons e es ih =>
    rw [Entries.insert]
    split
    · exact Nat.le_refl _
    · exact Nat.le_succ _
    · exact Nat.succ_le_succ ih

theorem length_ofList_le [Std.TransOrd κ] (es : List (κ × α)) :
    (ofList es).entries.length ≤ es.length := by
  induction es using List.reverseRecOn with
  | nil => exact Nat.le_refl _
  | append_singleton es e ih =>
    rw [ofList_concat, List.length_append, List.length_singleton]
    exact Nat.le_trans (length_insert_le e.1 e.2 _) (Nat.succ_le_succ ih)

end OrdMap

theorem OrdSet.nodup (s : OrdSet String) : s.toList.Nodup :=
  s.increasing.imp Entries.ne_of_compare_lt

/-- The values under the members of a set altered one after the other. -/
theorem OrdMap.find?_foldl_alter (m : OrdMap String α) (keys : OrdSet String) (f : Option α → α)
    (key : String) : (keys.toList.foldl (fun m key => m.alter key f) m).find? key =
      if key ∈ keys then some (f (m.find? key)) else m.find? key := by
  have hfold : ∀ (keys : List String) (m : OrdMap String α), keys.Nodup →
      (keys.foldl (fun m key => m.alter key f) m).find? key =
        if key ∈ keys then some (f (m.find? key)) else m.find? key := by
    intro keys
    induction keys with
    | nil => exact fun _ _ => rfl
    | cons first keys ih =>
      intro m hnodup
      obtain ⟨hfirst, hrest⟩ := List.nodup_cons.1 hnodup
      rw [List.foldl_cons, ih _ hrest, OrdMap.find?_alter]
      by_cases h : key = first
      · subst h
        simp [hfirst]
      · simp [h]
  exact hfold keys.toList m keys.nodup

namespace Area.Resolver

/-! ## Files by area -/

/-- The files that hold an area. -/
def holders (es : List (String × OrdSet String)) (id : String) : List String :=
  (es.filter fun e => decide (id ∈ e.2)).map Prod.fst

theorem find?_spread (byArea : OrdMap String (List String)) (file : String) (ids : OrdSet String)
    (id : String) : (spread byArea file ids).find? id =
      if id ∈ ids then some ((byArea.find? id).getD [] ++ [file]) else byArea.find? id :=
  OrdMap.find?_foldl_alter byArea ids _ id

theorem find?_invert (byFile : OrdMap String (OrdSet String)) (id : String) :
    (invert byFile).find? id =
      if holders byFile.entries id = [] then none else some (holders byFile.entries id) := by
  unfold invert
  induction byFile.entries using List.reverseRecOn with
  | nil => rfl
  | append_singleton es e ih =>
    rw [List.foldl_append, List.foldl_cons, List.foldl_nil, find?_spread, ih]
    have hconcat : holders (es ++ [e]) id = holders es id ++ if id ∈ e.2 then [e.1] else [] := by
      by_cases h : id ∈ e.2 <;> simp [holders, h]
    rw [hconcat]
    by_cases h : id ∈ e.2
    · by_cases hnone : holders es id = [] <;> simp [h, hnone]
    · simp [h]

theorem mem_holders_iff {byFile : OrdMap String (OrdSet String)} {file id : String} :
    file ∈ holders byFile.entries id ↔ ∃ ids, byFile.find? file = some ids ∧ id ∈ ids := by
  unfold holders
  simp only [List.mem_map, List.mem_filter, decide_eq_true_eq, OrdMap.find?_eq_some_iff]
  constructor
  · rintro ⟨⟨file, ids⟩, ⟨he, hid⟩, rfl⟩
    exact ⟨ids, he, hid⟩
  · rintro ⟨ids, he, hid⟩
    exact ⟨(file, ids), ⟨he, hid⟩, rfl⟩

/-- An area is listed with the files that hold it, in order, if some file holds it. -/
theorem find?_invert_eq_some_iff {byFile : OrdMap String (OrdSet String)} {id : String}
    {members : List String} : (invert byFile).find? id = some members ↔
      members ≠ [] ∧ members = holders byFile.entries id := by
  rw [find?_invert]
  by_cases h : holders byFile.entries id = []
  · rw [if_pos h, h]
    constructor
    · exact nofun
    · rintro ⟨hne, rfl⟩
      exact absurd rfl hne
  · rw [if_neg h, Option.some.injEq]
    constructor
    · rintro rfl
      exact ⟨h, rfl⟩
    · exact fun hmembers => hmembers.2.symm

variable {r : Resolver} {files : List String} {id path : String}

theorem mem_kept_iff : path ∈ r.kept files ↔
    (∃ file ∈ files, path = Path.relative file) ∧ r.isIgnored path = false := by
  rw [kept, List.mem_filter, List.mem_map, Bool.not_eq_true']
  exact and_congr_left fun _ => exists_congr fun file => and_congr_right fun _ => eq_comm

/-- Of a file that occurs more than once the last assignment stays, and all are the same. -/
theorem find?_assignments : (r.assignments files).find? path =
    if path ∈ r.kept files then some (r.assign path) else none := by
  have hgraph : ∀ e ∈ (r.kept files).map fun path => (path, r.assign path), e.2 = r.assign e.1 := by
    intro e he
    obtain ⟨path, -, rfl⟩ := List.mem_map.1 he
    rfl
  have hkeys : ((r.kept files).map fun path => (path, r.assign path)).map Prod.fst =
      r.kept files := by
    rw [List.map_map]
    exact List.map_id _
  rw [assignments, OrdMap.find?_ofList_graph hgraph, hkeys]

theorem find?_byFile_eq_some_iff {ids : OrdSet String} :
    (r.index files).byFile.find? path = some ids ↔
      path ∈ r.kept files ∧ ids = (r.assign path).ids := by
  have hbyFile : (r.index files).byFile.find? path =
      ((r.assignments files).find? path).map Assignment.ids := OrdMap.find?_mapValues ..
  rw [hbyFile, find?_assignments]
  by_cases h : path ∈ r.kept files
  · simp [h, eq_comm]
  · simp [h]

theorem find?_areas_eq_some_iff {i : Info} : (r.index files).areas.find? id = some i ↔
    ∃ members, (r.index files).byArea.find? id = some members ∧
      i = r.info id (((r.flags files).find? id).getD true) members.length := by
  have hareas : (r.index files).areas.find? id =
      ((r.index files).byArea.find? id).map fun members =>
        r.info id (((r.flags files).find? id).getD true) members.length := OrdMap.find?_mapValues ..
  rw [hareas, Option.map_eq_some_iff]
  simp only [eq_comm]

/-- The areas that an index lists are those that some file holds. -/
theorem exists_find?_areas_iff :
    (∃ i, (r.index files).areas.find? id = some i) ↔
      ∃ e ∈ (r.index files).byFile.entries, id ∈ e.2 := by
  simp only [find?_areas_eq_some_iff]
  constructor
  · rintro ⟨i, members, hmembers, -⟩
    obtain ⟨hne, rfl⟩ := find?_invert_eq_some_iff.1 hmembers
    obtain ⟨file, hfile⟩ := List.exists_mem_of_ne_nil _ hne
    obtain ⟨ids, hids, hid⟩ := mem_holders_iff.1 hfile
    exact ⟨(file, ids), OrdMap.find?_eq_some_iff.1 hids, hid⟩
  · rintro ⟨⟨file, ids⟩, he, hid⟩
    have hmem : file ∈ holders (r.index files).byFile.entries id :=
      mem_holders_iff.2 ⟨ids, OrdMap.find?_eq_some_iff.2 he, hid⟩
    exact ⟨_, _, find?_invert_eq_some_iff.2 ⟨List.ne_nil_of_mem hmem, rfl⟩, rfl⟩

/-! ## Numbers of files -/

theorem length_byFile_le : (r.index files).byFile.entries.length ≤ files.length := by
  have hassigned : (r.assignments files).entries.length ≤ _ := OrdMap.length_ofList_le _
  have hkept := List.length_filter_le (fun path => !r.isIgnored path) (files.map Path.relative)
  rw [List.length_map] at hassigned hkept
  show ((r.assignments files).entries.map _).length ≤ _
  rw [List.length_map]
  exact Nat.le_trans hassigned hkept

theorem fileCount_le {i : Info} (h : i ∈ (r.index files).byPopulation) :
    i.fileCount ≤ files.length := by
  have hvalue : i ∈ (r.index files).areas.values := List.mem_mergeSort.1 h
  obtain ⟨area, harea, rfl⟩ := List.mem_map.1 hvalue
  obtain ⟨⟨id, members⟩, hmembers, rfl⟩ := List.mem_map.1 harea
  obtain ⟨-, rfl⟩ := find?_invert_eq_some_iff.1 (OrdMap.find?_eq_some_iff.2 hmembers)
  show (holders _ _).length ≤ _
  rw [holders, List.length_map]
  exact Nat.le_trans (List.length_filter_le _ _) length_byFile_le

end Area.Resolver

namespace ProjectMap

/-- A category has a number if it occurs, and the number says how often. -/
theorem find?_countCategories_eq_some_iff {entries : List MapEntry} {c : Category} {n : Nat} :
    (countCategories entries).find? c = some n ↔
      n = (entries.map MapEntry.category).count c ∧ 0 < n := by
  induction entries using List.reverseRecOn generalizing n with
  | nil =>
    constructor
    · exact nofun
    · rintro ⟨rfl, hpos⟩
      exact absurd hpos (Nat.lt_irrefl 0)
  | append_singleton entries e ih =>
    rw [countCategories, List.foldl_append, List.foldl_cons, List.foldl_nil, ← countCategories,
      OrdMap.find?_alter, List.map_append, List.map_singleton, List.count_append,
      List.count_singleton]
    by_cases hc : c = e.category
    · subst hc
      have hold : ((countCategories entries).find? e.category).getD 0 =
          (entries.map MapEntry.category).count e.category := by
        cases hfind : (countCategories entries).find? e.category with
        | some old => exact (ih.1 hfind).1
        | none =>
          by_contra hne
          have hpos := Nat.pos_of_ne_zero (Ne.symm hne)
          exact absurd (ih.2 ⟨rfl, hpos⟩) (by simp [hfind])
      rw [if_pos rfl, hold, Option.some.injEq]
      simp
      omega
    · have hne : (e.category == c) = false := by simpa using Ne.symm hc
      rw [if_neg hc, ih, hne]
      simp

theorem count_le (entries : List MapEntry) :
    ∀ e ∈ (countCategories entries).entries, e.2 ≤ entries.length := by
  intro e he
  obtain ⟨hcount, -⟩ := find?_countCategories_eq_some_iff.1 (OrdMap.find?_eq_some_iff.2 he)
  rw [hcount, ← List.length_map MapEntry.category]
  exact List.count_le_length

/-- Whether all counts of a map are words, which they have to be to be read. -/
structure IsCountable (m : ProjectMap) : Prop where
  categories : ∀ e ∈ m.categories.entries, e.2 < UInt64.size
  areas : ∀ i ∈ m.areas, i.fileCount < UInt64.size

theorem isCountable_build (r : Area.Resolver) {files : List String}
    (h : files.length < UInt64.size) : (build r files).IsCountable where
  categories e he := by
    have hcount := count_le _ e he
    rw [List.length_map] at hcount
    exact Nat.lt_of_le_of_lt (Nat.le_trans hcount Area.Resolver.length_byFile_le) h
  areas i hi := Nat.lt_of_le_of_lt (Area.Resolver.fileCount_le hi) h

end ProjectMap
end Gazetteer
