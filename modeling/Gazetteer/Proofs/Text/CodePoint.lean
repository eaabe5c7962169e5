import Gazetteer.Text.Span
import Mathlib.Data.List.Basic

/-!
# Sets of code points

The tables of characters are searched from the left, and to compare two of them by searching one
for every entry of the other takes long. So a set of code points is also written as the bits of one
number, and that two sets have nothing in common is one equation between numbers
(`Apart.not_within`).
-/

namespace Gazetteer.Text

variable {spans others : List Span} {runs : List CaseRun} {n m : Nat}

/-- Whether a code point lies in one of the spans, in whatever order they stand. -/
def Within (spans : List Span) (n : Nat) : Prop := ∃ s ∈ spans, s.1 ≤ n ∧ n ≤ s.2

theorem within_cons {s : Span} : Within (s :: spans) n ↔ (s.1 ≤ n ∧ n ≤ s.2) ∨ Within spans n :=
  List.exists_mem_cons_iff _ s spans

theorem Within.mono (h : Within spans n) (hsub : spans ⊆ others) : Within others n := by
  obtain ⟨s, hs, hn⟩ := h
  exact ⟨s, hsub hs, hn⟩

theorem within_of_covers (h : covers spans n = true) : Within spans n := by
  induction spans with
  | nil => cases h
  | cons s spans ih =>
    rw [within_cons]
    rw [covers] at h
    split at h
    · cases h
    next hlow =>
      split at h
      next hhigh => exact .inl ⟨Nat.le_of_not_lt hlow, hhigh⟩
      · exact .inr (ih h)

/-- A span for each of the code points. -/
def singles (codes : List Nat) : List Span := codes.map fun n => (n, n)

theorem within_singles {codes : List Nat} : Within (singles codes) n ↔ n ∈ codes := by
  constructor
  · rintro ⟨_, hs, hlow, hhigh⟩
    obtain ⟨m, hm, rfl⟩ := List.mem_map.1 hs
    rwa [Nat.le_antisymm hhigh hlow]
  · exact fun h => ⟨(n, n), List.mem_map_of_mem h, Nat.le_refl n, Nat.le_refl n⟩

/-- The code points of the spans as the bits of a number. -/
def bits (spans : List Span) : Nat :=
  spans.foldr (fun s set => (1 <<< (s.2 + 1 - s.1) - 1) <<< s.1 ||| set) 0

theorem testBit_bits : (bits spans).testBit n = true ↔ Within spans n := by
  induction spans with
  | nil =>
    rw [bits, List.foldr_nil, Nat.zero_testBit]
    exact iff_of_false Bool.false_ne_true nofun
  | cons s spans ih =>
    have hcons : bits (s :: spans) = (1 <<< (s.2 + 1 - s.1) - 1) <<< s.1 ||| bits spans := rfl
    rw [hcons, Nat.testBit_or, Bool.or_eq_true, ih, within_cons, Nat.testBit_shiftLeft,
      Nat.one_shiftLeft, Nat.testBit_two_pow_sub_one, Bool.and_eq_true, decide_eq_true_iff,
      decide_eq_true_iff]
    refine or_congr_left ⟨?_, ?_⟩
    · rintro ⟨hlow, hhigh⟩
      omega
    · rintro ⟨hlow, hhigh⟩
      omega

/-- Whether no code point is in both sets, as one computation shows. -/
def Apart (spans others : List Span) : Prop := bits spans &&& bits others = 0

instance (spans others : List Span) : Decidable (Apart spans others) :=
  inferInstanceAs (Decidable (bits spans &&& bits others = 0))

theorem Apart.not_within (h : Apart spans others) (hn : Within spans n) : ¬ Within others n := by
  intro hother
  have hboth : (bits spans &&& bits others).testBit n = true := by
    rw [Nat.testBit_and, testBit_bits.2 hn, testBit_bits.2 hother]
    rfl
  rw [h, Nat.zero_testBit] at hboth
  cases hboth

/-! ## Case runs -/

/-- The code points that the runs hold, each with its image. -/
def mapped (runs : List CaseRun) : List (Nat × Nat) :=
  runs.flatMap fun r => (List.range ((r.last - r.first) / r.step + 1)).map fun k =>
    (r.first + r.step * k, r.image + r.step * k)

theorem mem_mapped_of_imageOf? (h : imageOf? runs n = some m) : (n, m) ∈ mapped runs := by
  induction runs with
  | nil => cases h
  | cons r rest ih =>
    rw [imageOf?] at h
    split at h
    · cases h
    · split at h
      next hrun =>
        obtain ⟨hlast, hstep⟩ := hrun
        have hsteps : r.step * ((n - r.first) / r.step) = n - r.first :=
          Nat.mul_div_cancel' (Nat.dvd_of_mod_eq_zero hstep)
        refine List.mem_append_left _ (List.mem_map.2 ⟨(n - r.first) / r.step, ?_, ?_⟩)
        · rw [List.mem_range, Nat.lt_succ_iff]
          exact Nat.div_le_div_right (Nat.sub_le_sub_right hlast _)
        · rw [hsteps]
          cases h
          rw [Nat.add_sub_cancel' (by omega)]
      · exact List.mem_append_right _ (ih h)

/-- The code points that the runs hold. -/
def sources (runs : List CaseRun) : List Span := singles ((mapped runs).map Prod.fst)

theorem within_sources (h : imageOf? runs n = some m) : Within (sources runs) n :=
  within_singles.2 (List.mem_map_of_mem (mem_mapped_of_imageOf? h))

theorem imageOf?_eq_none (h : ¬ Within (sources runs) n) : imageOf? runs n = none := by
  cases himage : imageOf? runs n with
  | none => rfl
  | some m => exact absurd (within_sources himage) h

/-- The spans that the runs stretch over, code points that they leave out included. -/
def sourceSpans (runs : List CaseRun) : List Span := runs.map fun r => (r.first, r.last)

/-- The spans that the images of the runs stretch over. -/
def imageSpans (runs : List CaseRun) : List Span :=
  runs.map fun r => (r.image, r.image + (r.last - r.first))

theorem within_spans (h : imageOf? runs n = some m) :
    Within (sourceSpans runs) n ∧ Within (imageSpans runs) m := by
  induction runs with
  | nil => cases h
  | cons r rest ih =>
    rw [imageOf?] at h
    simp only [sourceSpans, imageSpans, List.map_cons, within_cons]
    split at h
    · cases h
    next hfirst =>
      split at h
      next hrun =>
        cases h
        exact ⟨.inl ⟨Nat.le_of_not_lt hfirst, hrun.1⟩,
          .inl ⟨Nat.le_add_right _ _, Nat.add_le_add_left (Nat.sub_le_sub_right hrun.1 _) _⟩⟩
      · exact (ih h).imp .inr .inr

end Gazetteer.Text
