/-!
# Entry lists in key order

A list of key–value entries whose keys strictly increase holds each key at most once, so inserting
and looking up walk it once. `find?_insert` is the law of the pair, `eq_of_find?` says that the
entries determine the list.
-/

namespace Gazetteer.Entries

variable {κ : Type u} {α : Type v} [Ord κ]

/-- Keys strictly increase along the list. -/
def Increasing (es : List (κ × α)) : Prop :=
  es.Pairwise fun a b => compare a.1 b.1 = .lt

/-- The list with `value` under `key`, in place of what stood there. -/
def insert (key : κ) (value : α) : List (κ × α) → List (κ × α)
  | [] => [(key, value)]
  | e :: es =>
    match compare key e.1 with
    | .lt => (key, value) :: e :: es
    | .eq => (key, value) :: es
    | .gt => e :: insert key value es

/-- What stands under `key`. -/
def find? [DecidableEq κ] (key : κ) : List (κ × α) → Option α
  | [] => none
  | e :: es => if key = e.1 then some e.2 else find? key es

theorem mem_insert {key : κ} {value : α} {es : List (κ × α)} {e : κ × α}
    (h : e ∈ insert key value es) : e = (key, value) ∨ e ∈ es := by
  induction es with
  | nil => simpa [insert] using h
  | cons x es ih =>
    rw [insert] at h
    split at h
    · simpa using h
    · rcases List.mem_cons.1 h with h | h
      · exact .inl h
      · exact .inr (List.mem_cons_of_mem _ h)
    · rcases List.mem_cons.1 h with h | h
      · exact .inr (h ▸ List.mem_cons_self)
      · exact (ih h).imp_right (List.mem_cons_of_mem _)

theorem Increasing.insert [Std.TransOrd κ] {key : κ} {value : α} {es : List (κ × α)}
    (h : Increasing es) : Increasing (Entries.insert key value es) := by
  induction es with
  | nil => simp [Entries.insert, Increasing]
  | cons x es ih =>
    have hx := List.pairwise_cons.1 h
    rw [Entries.insert]
    split
    next hlt =>
      refine List.pairwise_cons.2 ⟨fun e he => ?_, h⟩
      rcases List.mem_cons.1 he with rfl | he
      · exact hlt
      · exact Std.TransCmp.lt_trans hlt (hx.1 e he)
    next heq =>
      refine List.pairwise_cons.2 ⟨fun e he => ?_, hx.2⟩
      exact (Std.TransCmp.congr_left heq).trans (hx.1 e he)
    next hgt =>
      refine List.pairwise_cons.2 ⟨fun e he => ?_, ih hx.2⟩
      rcases mem_insert he with rfl | he
      · exact Std.OrientedCmp.lt_of_gt hgt
      · exact hx.1 e he

theorem ne_of_compare_lt [Std.TransOrd κ] {a b : κ} (h : compare a b = .lt) : a ≠ b := by
  rintro rfl
  have : compare a a = .eq := Std.ReflCmp.compare_self
  rw [this] at h
  cases h

variable [DecidableEq κ] [Std.TransOrd κ]

theorem find?_insert [Std.LawfulEqOrd κ] (key other : κ) (value : α) (es : List (κ × α)) :
    find? other (insert key value es) = if other = key then some value else find? other es := by
  induction es with
  | nil => simp [insert, find?]
  | cons x es ih =>
    rw [insert]
    split
    next => simp [find?]
    next heq =>
      obtain rfl := Std.LawfulEqCmp.eq_of_compare heq
      by_cases h : other = x.1 <;> simp [find?, h]
    next hgt =>
      have hne := (ne_of_compare_lt (Std.OrientedCmp.lt_of_gt hgt)).symm
      by_cases h : other = key
      · subst h
        simp [find?, ih, hne]
      · simp [find?, ih, h]

omit [Ord κ] [Std.TransOrd κ] in
theorem mem_of_find? {key : κ} {value : α} {es : List (κ × α)} (h : find? key es = some value) :
    (key, value) ∈ es := by
  induction es with
  | nil => cases h
  | cons x es ih =>
    rw [find?] at h
    split at h
    next heq =>
      cases h
      exact heq ▸ List.mem_cons_self
    next => exact List.mem_cons_of_mem _ (ih h)

theorem find?_eq_some_iff {key : κ} {value : α} {es : List (κ × α)} (hes : Increasing es) :
    find? key es = some value ↔ (key, value) ∈ es := by
  refine ⟨mem_of_find?, fun h => ?_⟩
  induction es with
  | nil => cases h
  | cons x es ih =>
    have hx := List.pairwise_cons.1 hes
    rcases List.mem_cons.1 h with rfl | h
    · rw [find?, if_pos rfl]
    · rw [find?, if_neg (ne_of_compare_lt (hx.1 _ h)).symm]
      exact ih hx.2 h

/-- Two increasing lists with the same look-ups are the same list. -/
theorem eq_of_find? {es fs : List (κ × α)} (hes : Increasing es) (hfs : Increasing fs)
    (h : ∀ key, find? key es = find? key fs) : es = fs := by
  have nodup {l : List (κ × α)} (hl : Increasing l) : l.Nodup :=
    hl.imp fun {a b} hab (heq : a = b) => ne_of_compare_lt hab (congrArg Prod.fst heq)
  have mem_iff (e : κ × α) : e ∈ es ↔ e ∈ fs := by
    rw [← find?_eq_some_iff hes, ← find?_eq_some_iff hfs, h]
  have perm : es.Perm fs := (List.perm_ext_iff_of_nodup (nodup hes) (nodup hfs)).2 mem_iff
  refine perm.eq_of_pairwise (fun a b _ _ hab hba => ?_) hes hfs
  have := Std.TransCmp.lt_trans hab hba
  exact absurd rfl (ne_of_compare_lt this)

end Gazetteer.Entries
