import Gazetteer.Ordered.Map
import Mathlib.Data.List.Induction

/-!
# Maps made from lists

Under one key the last entry of a list stays. Where the keys of the list are distinct, the map holds
exactly its entries (`find?_ofList_eq_some_iff`).
-/

namespace Gazetteer.OrdMap

variable {κ : Type u} {α : Type v} [Ord κ] [DecidableEq κ] [Std.TransOrd κ] [Std.LawfulEqOrd κ]

omit [DecidableEq κ] [Std.LawfulEqOrd κ] in
theorem ofList_concat (es : List (κ × α)) (e : κ × α) :
    ofList (es ++ [e]) = (ofList es).insert e.1 e.2 := by
  simp [ofList, List.foldl_append]

theorem mem_of_find?_ofList {es : List (κ × α)} {key : κ} {value : α}
    (h : (ofList es).find? key = some value) : (key, value) ∈ es := by
  induction es using List.reverseRecOn with
  | nil => cases h
  | append_singleton es e ih =>
    rw [ofList_concat, find?_insert] at h
    split at h
    next heq =>
      obtain rfl := heq
      cases h
      exact List.mem_append_right _ (List.mem_singleton.2 rfl)
    next => exact List.mem_append_left _ (ih h)

theorem find?_ofList_eq_some_iff {es : List (κ × α)} (hes : (es.map Prod.fst).Nodup) {key : κ}
    {value : α} : (ofList es).find? key = some value ↔ (key, value) ∈ es := by
  refine ⟨mem_of_find?_ofList, fun h => ?_⟩
  induction es using List.reverseRecOn with
  | nil => cases h
  | append_singleton es e ih =>
    rw [List.map_append, List.nodup_append] at hes
    obtain ⟨hes, -, hfresh⟩ := hes
    rw [ofList_concat, find?_insert]
    rcases List.mem_append.1 h with h | h
    · have hne : key ≠ e.1 := hfresh key (List.mem_map_of_mem h) e.1 (List.mem_singleton.2 rfl)
      rw [if_neg hne, ih hes h]
    · obtain rfl := List.mem_singleton.1 h
      rw [if_pos rfl]

/-- A list of entries whose values are those of a function makes the table of that function. -/
theorem find?_ofList_graph {es : List (κ × α)} {value : κ → α} (h : ∀ e ∈ es, e.2 = value e.1)
    (key : κ) :
    (ofList es).find? key = if key ∈ es.map Prod.fst then some (value key) else none := by
  induction es using List.reverseRecOn with
  | nil => rfl
  | append_singleton es e ih =>
    rw [ofList_concat, find?_insert, ih fun e he => h e (List.mem_append_left _ he),
      List.map_append, List.map_singleton]
    have he := h e (List.mem_append_right _ (List.mem_singleton.2 rfl))
    by_cases hkey : key = e.1
    · simp [hkey, he]
    · simp only [hkey, if_false, List.mem_append, List.mem_singleton, or_false]

omit [DecidableEq κ] [Std.LawfulEqOrd κ] in
theorem nodup_keys (m : OrdMap κ α) : (m.entries.map Prod.fst).Nodup :=
  List.pairwise_map.2 (m.increasing.imp Entries.ne_of_compare_lt)

theorem ofList_entries (m : OrdMap κ α) : ofList m.entries = m :=
  ext_find? fun key => Option.ext fun value => by
    rw [find?_ofList_eq_some_iff m.nodup_keys, find?_eq_some_iff]

end Gazetteer.OrdMap
