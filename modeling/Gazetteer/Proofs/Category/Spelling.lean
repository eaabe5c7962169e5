import Gazetteer.Category.Rule
import Gazetteer.Proofs.Lookup.Normal
import Mathlib.Data.List.Forall2

/-!
# Spellings of a path

One file is written in many ways: in upper or lower case, with slashes of either kind, with `./` in
front and with white space around it. They have one compared form, which is all that rules see, and
so one rule decides them all.
-/

namespace Gazetteer

namespace Lookup

open Text (isBlank)

/-- Whether two characters differ only in the case of an ASCII letter or in the kind of slash. -/
def IsVariant (c d : Char) : Prop := c.toLower = d.toLower ∨ c ∈ ['/', '\\'] ∧ d ∈ ['/', '\\']

instance : DecidableRel IsVariant := fun c d =>
  inferInstanceAs (Decidable (c.toLower = d.toLower ∨ c ∈ ['/', '\\'] ∧ d ∈ ['/', '\\']))

theorem IsVariant.blur_eq {c d : Char} (h : IsVariant c d) : blur c = blur d := by
  obtain hcase | ⟨hc, hd⟩ := h
  · by_cases hslash : c = '\\'
    · subst hslash
      rw [toLower_eq_backslash (hcase.symm.trans (by decide))]
    · have hother : d ≠ '\\' := by
        rintro rfl
        exact hslash (toLower_eq_backslash (hcase.trans (by decide)))
      rw [blur, blur, if_neg hslash, if_neg hother, hcase]
  · simp only [List.mem_cons, List.not_mem_nil, or_false] at hc hd
    obtain rfl | rfl := hc <;> obtain rfl | rfl := hd <;> rfl

theorem IsVariant.isBlank_eq {c d : Char} (h : IsVariant c d) : isBlank c = isBlank d := by
  rw [← isBlank_blur c, h.blur_eq, isBlank_blur]

theorem map_blur_eq {path other : List Char} (h : List.Forall₂ IsVariant path other) :
    path.map blur = other.map blur := by
  induction h with
  | nil => rfl
  | cons hc _ ih => rw [List.map_cons, List.map_cons, hc.blur_eq, ih]

/-- The ways to write a path: the changes below, any number of times and in any order. -/
inductive IsSpelling (path : List Char) : List Char → Prop
  | same : IsSpelling path path
  | vary {cs ds : List Char} : IsSpelling path cs → List.Forall₂ IsVariant cs ds →
      IsSpelling path ds
  | here {cs : List Char} : IsSpelling path cs → (∀ c, cs.head? = some c → isBlank c = false) →
      IsSpelling path ('.' :: '/' :: cs)
  | pad {start cs ending : List Char} : IsSpelling path cs → (∀ c ∈ start, isBlank c = true) →
      (∀ c ∈ ending, isBlank c = true) → IsSpelling path (start ++ cs ++ ending)

variable {path other : List Char}

/-- Each change keeps the compared form. -/
theorem IsSpelling.normalize_eq (h : IsSpelling path other) : normalize other = normalize path := by
  induction h with
  | same => rfl
  | vary _ hvary ih => rw [← ih, ← normalize_map_blur, ← map_blur_eq hvary, normalize_map_blur]
  | here _ hhead ih => rw [← ih, normalize_here hhead]
  | pad _ hstart hending ih => rw [← ih, normalize_pad _ hstart hending]

/-- Any number of `./` in front. -/
theorem IsSpelling.here_many (h : IsSpelling path other)
    (hhead : ∀ c, other.head? = some c → isBlank c = false) (n : Nat) :
    IsSpelling path ((List.replicate n ['.', '/']).flatten ++ other) := by
  induction n with
  | zero => exact h
  | succ n ih =>
    refine ih.here fun c hc => ?_
    cases n with
    | zero => exact hhead c hc
    | succ n =>
      obtain rfl : '.' = c := by simpa [List.replicate_succ] using hc
      decide

/-- The four changes made one after the other. -/
theorem IsSpelling.of_parts (start varied ending : List Char)
    (hvary : List.Forall₂ IsVariant path varied) (n : Nat)
    (hhead : n = 0 ∨ ∀ c, path.head? = some c → isBlank c = false)
    (hstart : ∀ c ∈ start, isBlank c = true) (hending : ∀ c ∈ ending, isBlank c = true) :
    IsSpelling path (start ++ ((List.replicate n ['.', '/']).flatten ++ varied) ++ ending) := by
  have hvaried : IsSpelling path varied := IsSpelling.same.vary hvary
  refine IsSpelling.pad ?_ hstart hending
  obtain rfl | hhead := hhead
  · exact hvaried
  · refine hvaried.here_many (fun d hd => ?_) n
    cases hvary with
    | nil => cases hd
    | cons hc _ =>
      cases hd
      rw [← hc.isBlank_eq]
      exact hhead _ rfl

end Lookup

namespace Category

variable {path other : String}

/-- Rules see nothing of a path but its compared form. -/
theorem Facts.ofPath_congr (h : Lookup.normalize other.toList = Lookup.normalize path.toList) :
    Facts.ofPath other = Facts.ofPath path := by
  simp only [Facts.ofPath, h]

/-- However a path is written, the same rule decides it, or none. -/
theorem rule?_eq_of_isSpelling (h : Lookup.IsSpelling path.toList other.toList) :
    rule? other = rule? path ∧ classify other = classify path := by
  have hfacts : Facts.ofPath other = Facts.ofPath path := Facts.ofPath_congr h.normalize_eq
  have hrule : rule? other = rule? path := by rw [rule?, rule?, hfacts]
  exact ⟨hrule, by rw [classify, classify, hrule]⟩

/-- The last letter before the last slash has two lower-case forms, by what stands behind it. -/
theorem rule?_eq_of_shouted :
    rule? " ././SRC/Hooks\\ΟΔΟΣ/A.TS\t" = rule? "src\\hooks/ΟΔΟΣ\\a.ts" ∧
      classify " ././SRC/Hooks\\ΟΔΟΣ/A.TS\t" = .hook := by
  have hhead : ∀ c, "src\\hooks/ΟΔΟΣ\\a.ts".toList.head? = some c → Text.isBlank c = false := by
    intro c hc
    obtain rfl : 's' = c := by simpa using hc
    decide
  have hspace : ∀ c ∈ [' '], Text.isBlank c = true := by
    intro c hc
    rw [List.mem_singleton.1 hc]
    decide
  have htab : ∀ c ∈ ['\t'], Text.isBlank c = true := by
    intro c hc
    rw [List.mem_singleton.1 hc]
    decide
  have htext : " ././SRC/Hooks\\ΟΔΟΣ/A.TS\t".toList = [' '] ++
      ((List.replicate 2 ['.', '/']).flatten ++ "SRC/Hooks\\ΟΔΟΣ/A.TS".toList) ++ ['\t'] := by
    decide
  have hspelling : Lookup.IsSpelling "src\\hooks/ΟΔΟΣ\\a.ts".toList
      " ././SRC/Hooks\\ΟΔΟΣ/A.TS\t".toList := by
    rw [htext]
    exact .of_parts _ _ _ (by decide) 2 (.inr hhead) hspace htab
  obtain ⟨hrule, hcategory⟩ := rule?_eq_of_isSpelling hspelling
  exact ⟨hrule, hcategory.trans (by decide)⟩

end Category
end Gazetteer
