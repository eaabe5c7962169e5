/-!
# Finite sets in order

A set keeps its members in strictly increasing order, so sets with the same members are equal
(`OrdSet.ext_mem`).
-/

namespace Gazetteer

/-- A finite set, kept as its members in strictly increasing order. -/
structure OrdSet (κ : Type u) [Ord κ] where
  toList : List κ
  increasing : toList.Pairwise fun a b => compare a b = .lt
deriving DecidableEq

namespace OrdSet

variable {κ : Type u} [Ord κ]

def empty : OrdSet κ := ⟨[], List.Pairwise.nil⟩

instance : Inhabited (OrdSet κ) := ⟨empty⟩

instance : Membership κ (OrdSet κ) := ⟨fun s a => a ∈ s.toList⟩

instance [DecidableEq κ] (a : κ) (s : OrdSet κ) : Decidable (a ∈ s) :=
  inferInstanceAs (Decidable (a ∈ s.toList))

/-- Insertion into an increasing list; a member that is there already stays alone. -/
def insertInto (a : κ) : List κ → List κ
  | [] => [a]
  | b :: bs =>
    match compare a b with
    | .lt => a :: b :: bs
    | .eq => b :: bs
    | .gt => b :: insertInto a bs

theorem mem_insertInto_of_mem {a x : κ} {l : List κ} (h : x ∈ insertInto a l) : x = a ∨ x ∈ l := by
  induction l with
  | nil => simpa [insertInto] using h
  | cons b bs ih =>
    rw [insertInto] at h
    split at h
    · simpa using h
    · exact .inr h
    · rcases List.mem_cons.1 h with h | h
      · exact .inr (h ▸ List.mem_cons_self)
      · exact (ih h).imp_right (List.mem_cons_of_mem _)

variable [Std.TransOrd κ]

theorem pairwise_insertInto {a : κ} {l : List κ} (h : l.Pairwise fun a b => compare a b = .lt) :
    (insertInto a l).Pairwise fun a b => compare a b = .lt := by
  induction l with
  | nil => simp [insertInto]
  | cons b bs ih =>
    have hb := List.pairwise_cons.1 h
    rw [insertInto]
    split
    next hlt =>
      refine List.pairwise_cons.2 ⟨fun x hx => ?_, h⟩
      rcases List.mem_cons.1 hx with rfl | hx
      · exact hlt
      · exact Std.TransCmp.lt_trans hlt (hb.1 x hx)
    next => exact h
    next hgt =>
      refine List.pairwise_cons.2 ⟨fun x hx => ?_, ih hb.2⟩
      rcases mem_insertInto_of_mem hx with rfl | hx
      · exact Std.OrientedCmp.lt_of_gt hgt
      · exact hb.1 x hx

def insert (s : OrdSet κ) (a : κ) : OrdSet κ :=
  ⟨insertInto a s.toList, pairwise_insertInto s.increasing⟩

/-- The set of the members of a list. -/
def ofList (l : List κ) : OrdSet κ := l.foldl insert empty

variable [Std.LawfulEqOrd κ]

omit [Std.TransOrd κ] in
theorem mem_insertInto {a x : κ} {l : List κ} : x ∈ insertInto a l ↔ x = a ∨ x ∈ l := by
  refine ⟨mem_insertInto_of_mem, fun h => ?_⟩
  induction l with
  | nil => simpa [insertInto] using h
  | cons b bs ih =>
    rw [insertInto]
    split
    next => simpa using h
    next heq =>
      obtain rfl := Std.LawfulEqCmp.eq_of_compare heq
      rcases h with rfl | h
      · exact List.mem_cons_self
      · exact h
    next =>
      rcases h with h | h
      · exact List.mem_cons_of_mem _ (ih (.inl h))
      · rcases List.mem_cons.1 h with rfl | h
        · exact List.mem_cons_self
        · exact List.mem_cons_of_mem _ (ih (.inr h))

@[simp] theorem mem_insert {a x : κ} {s : OrdSet κ} : x ∈ s.insert a ↔ x = a ∨ x ∈ s :=
  mem_insertInto

omit [Std.TransOrd κ] [Std.LawfulEqOrd κ] in
@[simp] theorem not_mem_empty {x : κ} : x ∉ (empty : OrdSet κ) := List.not_mem_nil

@[simp] theorem mem_ofList {x : κ} {l : List κ} : x ∈ ofList l ↔ x ∈ l := by
  have fold : ∀ (l : List κ) (s : OrdSet κ), x ∈ l.foldl insert s ↔ x ∈ s ∨ x ∈ l := by
    intro l
    induction l with
    | nil => simp
    | cons a l ih =>
      intro s
      rw [List.foldl_cons, ih, mem_insert, List.mem_cons, or_assoc, or_left_comm]
  simp [ofList, fold]

omit [Std.LawfulEqOrd κ] in
theorem ext_mem {s t : OrdSet κ} (h : ∀ x, x ∈ s ↔ x ∈ t) : s = t := by
  have irrefl {a b : κ} (hab : compare a b = .lt) : a ≠ b := by
    rintro rfl
    have : compare a a = .eq := Std.ReflCmp.compare_self
    rw [this] at hab
    cases hab
  have nodup (u : OrdSet κ) : u.toList.Nodup := u.increasing.imp irrefl
  have perm : s.toList.Perm t.toList := (List.perm_ext_iff_of_nodup (nodup s) (nodup t)).2 h
  have : s.toList = t.toList := by
    refine perm.eq_of_pairwise (fun a b _ _ hab hba => ?_) s.increasing t.increasing
    exact absurd rfl (irrefl (Std.TransCmp.lt_trans hab hba))
  cases s
  cases t
  cases this
  rfl

end OrdSet
end Gazetteer
