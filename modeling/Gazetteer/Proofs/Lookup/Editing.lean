import Mathlib.Order.Bounds.Defs
import Gazetteer.Lookup.Distance

/-!
# Edit scripts

An edit inserts, deletes or replaces one character of a text, and a script is a list of edits made
one after the other. The distance of two texts is the least length of a script that turns one into
the other (`distance_isLeast`): the recursion for the distance names such a script, and one edit
moves the distance by at most one, so no script is shorter.

Scripts can be read from either end of the texts, and so can the distance. Hence the distances of
the leading parts of two texts fill a table from its upper left corner (`distance_take_take`).
-/

namespace Gazetteer.Lookup

/-- A change of one character, at a place counted from the start of a text. -/
inductive Edit where
  | insert (place : Nat) (c : Char)
  | delete (place : Nat)
  | substitute (place : Nat) (c : Char)
deriving DecidableEq, Repr

namespace Edit

/-- The text after an edit, if the text has the place. -/
def perform? : Edit → List Char → Option (List Char)
  | .insert i c, cs => if i ≤ cs.length then some (cs.take i ++ c :: cs.drop i) else none
  | .delete i, cs => if i < cs.length then some (cs.take i ++ cs.drop (i + 1)) else none
  | .substitute i c, cs => if i < cs.length then some (cs.take i ++ c :: cs.drop (i + 1)) else none

/-- The text after the edits of a script, made in order. -/
def performAll? (script : List Edit) (cs : List Char) : Option (List Char) :=
  script.foldlM (fun cs e => e.perform? cs) cs

/-- The edit of a text that has one more character in front. -/
def shift : Edit → Edit
  | .insert i c => .insert (i + 1) c
  | .delete i => .delete (i + 1)
  | .substitute i c => .substitute (i + 1) c

theorem perform?_shift (e : Edit) (x : Char) (cs : List Char) :
    e.shift.perform? (x :: cs) = (e.perform? cs).map (x :: ·) := by
  cases e <;> simp [shift, perform?, apply_ite]

/-- An edit puts at most one character in the place of at most one. -/
theorem exists_pieces_of_perform? {e : Edit} {a b : List Char} (h : e.perform? a = some b) :
    ∃ before old new after, a = before ++ (old ++ after) ∧ b = before ++ (new ++ after) ∧
      old.length ≤ 1 ∧ new.length ≤ 1 := by
  cases e with
  | insert i c =>
    simp only [perform?, Option.ite_none_right_eq_some, Option.some.injEq] at h
    obtain ⟨hi, rfl⟩ := h
    exact ⟨a.take i, [], [c], a.drop i, by simp, by simp, by simp, by simp⟩
  | delete i =>
    simp only [perform?, Option.ite_none_right_eq_some, Option.some.injEq] at h
    obtain ⟨hi, rfl⟩ := h
    exact ⟨a.take i, [a[i]], [], a.drop (i + 1), by simp, by simp, by simp, by simp⟩
  | substitute i c =>
    simp only [perform?, Option.ite_none_right_eq_some, Option.some.injEq] at h
    obtain ⟨hi, rfl⟩ := h
    exact ⟨a.take i, [a[i]], [c], a.drop (i + 1), by simp, by simp, by simp, by simp⟩

theorem performAll?_cons (e : Edit) (script : List Edit) (cs : List Char) :
    performAll? (e :: script) cs = (e.perform? cs).bind (performAll? script) := rfl

theorem performAll?_append (first second : List Edit) (cs : List Char) :
    performAll? (first ++ second) cs = (performAll? first cs).bind (performAll? second) := by
  simp only [performAll?, List.foldlM_append]
  rfl

theorem performAll?_map_shift (script : List Edit) (x : Char) (cs : List Char) :
    performAll? (script.map shift) (x :: cs) = (performAll? script cs).map (x :: ·) := by
  induction script generalizing cs with
  | nil => rfl
  | cons e script ih =>
    rw [List.map_cons, performAll?_cons, performAll?_cons, perform?_shift]
    cases e.perform? cs with
    | none => rfl
    | some cs => exact ih cs

/-- What falls by at most one with every edit, and ends at zero, is at most the length. -/
theorem le_length_of_performAll? {f : List Char → Nat} {script : List Edit} {a b : List Char}
    (hstep : ∀ {e : Edit} {a a'}, e.perform? a = some a' → f a ≤ f a' + 1) (hend : f b = 0)
    (h : performAll? script a = some b) : f a ≤ script.length := by
  induction script generalizing a with
  | nil =>
    obtain rfl : a = b := Option.some.inj h
    exact Nat.le_of_eq hend
  | cons e script ih =>
    rw [performAll?_cons] at h
    obtain ⟨a', he, hscript⟩ := Option.bind_eq_some_iff.1 h
    calc f a ≤ f a' + 1 := hstep he
      _ ≤ script.length + 1 := Nat.succ_le_succ (ih hscript)

end Edit

/-! ## A script as long as the recursion says -/

/-- Whether some script of so many edits turns one text into another. -/
def Reaches (n : Nat) (a b : List Char) : Prop :=
  ∃ script : List Edit, script.length = n ∧ Edit.performAll? script a = some b

namespace Reaches

variable {m n : Nat} {a b : List Char}

theorem refl (a : List Char) : Reaches 0 a a := ⟨[], rfl, rfl⟩

theorem trans {c : List Char} (hab : Reaches m a b) (hbc : Reaches n b c) :
    Reaches (m + n) a c := by
  obtain ⟨first, rfl, hfirst⟩ := hab
  obtain ⟨second, rfl, hsecond⟩ := hbc
  refine ⟨first ++ second, List.length_append, ?_⟩
  rw [Edit.performAll?_append, hfirst]
  exact hsecond

theorem min (hm : Reaches m a b) (hn : Reaches n a b) : Reaches (min m n) a b := by
  rw [Nat.min_def]
  split
  · exact hm
  · exact hn

theorem cons (x : Char) (h : Reaches n a b) : Reaches n (x :: a) (x :: b) := by
  obtain ⟨script, rfl, hscript⟩ := h
  exact ⟨script.map Edit.shift, List.length_map _, by rw [Edit.performAll?_map_shift, hscript]; rfl⟩

theorem insert (c : Char) (a : List Char) : Reaches 1 a (c :: a) := ⟨[.insert 0 c], rfl, rfl⟩

theorem delete (x : Char) (a : List Char) : Reaches 1 (x :: a) a := ⟨[.delete 0], rfl, rfl⟩

theorem substitute (x c : Char) (a : List Char) : Reaches 1 (x :: a) (c :: a) :=
  ⟨[.substitute 0 c], rfl, rfl⟩

theorem nil_left (b : List Char) : Reaches b.length [] b := by
  induction b with
  | nil => exact .refl []
  | cons c b ih => exact ih.trans (.insert c b)

theorem nil_right (a : List Char) : Reaches a.length a [] := by
  induction a with
  | nil => exact .refl []
  | cons x a ih =>
    rw [List.length_cons, Nat.add_comm]
    exact (Reaches.delete x a).trans ih

end Reaches

/-- The recursion names a script: the least of its three numbers says what becomes of the first
character. -/
theorem reaches_cost (a b : List Char) : Reaches (cost a b) a b := by
  fun_induction cost a b with
  | case1 b => exact .nil_left b
  | case2 a _ => exact .nil_right a
  | case3 x a c b ihInsert ihDelete ihKeep =>
    -- Either `c` is put in front at the end, or `x` is taken off at the start, or both stay in
    -- front, `x` being replaced if it is another character.
    have hinsert : Reaches (cost (x :: a) b + 1) (x :: a) (c :: b) := ihInsert.trans (.insert c b)
    have hdelete : Reaches (cost a (c :: b) + 1) (x :: a) (c :: b) := by
      rw [Nat.add_comm]
      exact (Reaches.delete x a).trans ihDelete
    have hkeep : Reaches (cost a b + if x = c then 0 else 1) (x :: a) (c :: b) := by
      split
      next heq =>
        subst heq
        exact ihKeep.cons x
      next => exact (ihKeep.cons x).trans (.substitute x c b)
    exact (hinsert.min hdelete).min hkeep

/-! ## No script is shorter -/

theorem cost_nil_left (b : List Char) : cost [] b = b.length := by rw [cost]

theorem cost_cons_cons (x c : Char) (a b : List Char) : cost (x :: a) (c :: b) =
    min (min (cost (x :: a) b + 1) (cost a (c :: b) + 1)) (cost a b + if x = c then 0 else 1) := by
  rw [cost]

theorem cost_self (a : List Char) : cost a a = 0 := by
  induction a with
  | nil => exact cost_nil_left []
  | cons x a ih =>
    rw [cost_cons_cons, ih, if_pos rfl]
    exact Nat.min_zero _

/-! That one edit moves the distance by at most one is shown for an edit at the start of the text,
by induction on the other text, and then carried over what stands before the edit. -/

theorem cost_cons_right_le (a : List Char) (c : Char) (b : List Char) :
    cost a (c :: b) ≤ cost a b + 1 := by
  cases a with
  | nil => simp [cost_nil_left]
  | cons x a =>
    rw [cost_cons_cons]
    omega

theorem cost_delete_le (x : Char) (a b : List Char) : cost (x :: a) b ≤ cost a b + 1 := by
  cases b with
  | nil => simp [cost_nil_right]
  | cons c b =>
    rw [cost_cons_cons]
    omega

theorem cost_insert_le (x : Char) (a b : List Char) : cost a b ≤ cost (x :: a) b + 1 := by
  induction b with
  | nil =>
    rw [cost_nil_right, cost_nil_right, List.length_cons]
    omega
  | cons c b ih =>
    have hright : cost a (c :: b) ≤ cost a b + 1 := cost_cons_right_le a c b
    rw [cost_cons_cons]
    omega

theorem cost_substitute_le (x y : Char) (a b : List Char) :
    cost (x :: a) b ≤ cost (y :: a) b + 1 := by
  induction b with
  | nil => simp [cost_nil_right]
  | cons c b ih =>
    rw [cost_cons_cons, cost_cons_cons]
    split <;> split <;> omega

theorem cost_cons_le {a a' : List Char} {n : Nat} (h : ∀ b, cost a b ≤ cost a' b + n) (x : Char)
    (b : List Char) : cost (x :: a) b ≤ cost (x :: a') b + n := by
  induction b with
  | nil => simpa [cost_nil_right, Nat.add_right_comm] using h []
  | cons c b ih =>
    have hdelete := h (c :: b)
    have hkeep := h b
    rw [cost_cons_cons, cost_cons_cons]
    omega

theorem cost_pieces_le {old new : List Char} (hold : old.length ≤ 1) (hnew : new.length ≤ 1)
    (before after b : List Char) :
    cost (before ++ (old ++ after)) b ≤ cost (before ++ (new ++ after)) b + 1 := by
  induction before generalizing b with
  | nil =>
    match old, new with
    | [], [] => exact Nat.le_succ _
    | [], [y] => exact cost_insert_le y after b
    | [x], [] => exact cost_delete_le x after b
    | [x], [y] => exact cost_substitute_le x y after b
    | _ :: _ :: _, _ => simp at hold
    | _, _ :: _ :: _ => simp at hnew
  | cons x before ih => exact cost_cons_le ih x b

/-- One edit moves the distance by at most one. -/
theorem cost_le_of_perform? {e : Edit} {a a' : List Char} (h : e.perform? a = some a')
    (b : List Char) : cost a b ≤ cost a' b + 1 := by
  obtain ⟨before, old, new, after, rfl, rfl, hold, hnew⟩ := Edit.exists_pieces_of_perform? h
  exact cost_pieces_le hold hnew before after b

/-- The distance of two texts is the least number of edits that turn one into the other. -/
theorem distance_isLeast (a b : List Char) :
    IsLeast {n | ∃ script : List Edit, script.length = n ∧ Edit.performAll? script a = some b}
      (distance a b) := by
  rw [distance_eq_cost]
  constructor
  · exact reaches_cost a b
  · rintro n ⟨script, rfl, hscript⟩
    exact Edit.le_length_of_performAll? (f := fun a => cost a b)
      (fun he => cost_le_of_perform? he b) (cost_self b) hscript

example : Edit.performAll? [.substitute 0 's', .substitute 4 'i', .insert 6 'g'] "kitten".toList =
    some "sitting".toList ∧ distance "kitten".toList "sitting".toList = 3 := by decide

theorem distance_eq_zero_iff {a b : List Char} : distance a b = 0 ↔ a = b := by
  rw [distance_eq_cost]
  constructor
  · intro h
    obtain ⟨script, hlength, hscript⟩ := reaches_cost a b
    rw [h, List.length_eq_zero_iff] at hlength
    rw [hlength] at hscript
    exact Option.some.inj hscript
  · rintro rfl
    exact cost_self a

/-! ## The table of the leading parts -/

/-! An edit of a text is an edit of its reverse too, though at another place. So the bound on
scripts holds of the reverses, and by the best script the distance of the reverses is no greater. -/

theorem cost_reverse_le_of_perform? {e : Edit} {a a' : List Char} (h : e.perform? a = some a')
    (b : List Char) : cost a.reverse b ≤ cost a'.reverse b + 1 := by
  obtain ⟨before, old, new, after, rfl, rfl, hold, hnew⟩ := Edit.exists_pieces_of_perform? h
  simp only [List.reverse_append, List.append_assoc]
  exact cost_pieces_le (by simpa using hold) (by simpa using hnew) after.reverse before.reverse b

theorem cost_reverse_le (a b : List Char) : cost a.reverse b.reverse ≤ cost a b := by
  obtain ⟨script, hlength, hscript⟩ := reaches_cost a b
  rw [← hlength]
  exact Edit.le_length_of_performAll? (f := fun a => cost a.reverse b.reverse)
    (fun he => cost_reverse_le_of_perform? he b.reverse) (cost_self b.reverse) hscript

theorem cost_reverse (a b : List Char) : cost a.reverse b.reverse = cost a b := by
  refine Nat.le_antisymm (cost_reverse_le a b) ?_
  have hback := cost_reverse_le a.reverse b.reverse
  rwa [List.reverse_reverse, List.reverse_reverse] at hback

/-- The distance may as well be found from the last characters. -/
theorem distance_concat_concat (a b : List Char) (x c : Char) :
    distance (a ++ [x]) (b ++ [c]) =
      min (min (distance (a ++ [x]) b + 1) (distance a (b ++ [c]) + 1))
        (distance a b + if x = c then 0 else 1) := by
  simp only [distance_eq_cost]
  rw [← cost_reverse (a ++ [x]) (b ++ [c]), ← cost_reverse (a ++ [x]) b,
    ← cost_reverse a (b ++ [c]), ← cost_reverse a b, List.reverse_append, List.reverse_append]
  exact cost_cons_cons x c a.reverse b.reverse

/-- The distances of the leading parts of two texts make a table. Its edges are the lengths, and
every other cell is found from the one above it, the one before it and the one before that above. -/
theorem distance_take_take (a b : List Char) {i j : Nat} (hi : i < b.length) (hj : j < a.length) :
    distance (a.take (j + 1)) [] = j + 1 ∧ distance [] (b.take (i + 1)) = i + 1 ∧
      distance (a.take (j + 1)) (b.take (i + 1)) =
        min (min (distance (a.take (j + 1)) (b.take i) + 1)
          (distance (a.take j) (b.take (i + 1)) + 1))
          (distance (a.take j) (b.take i) + if a[j] = b[i] then 0 else 1) := by
  refine ⟨?_, ?_, ?_⟩
  · rw [distance_eq_cost, cost_nil_right, List.length_take_of_le hj]
  · rw [distance_eq_cost, cost_nil_left, List.length_take_of_le hi]
  · rw [List.take_succ_eq_append_getElem hj, List.take_succ_eq_append_getElem hi]
    exact distance_concat_concat (a.take j) (b.take i) a[j] b[i]

end Gazetteer.Lookup
