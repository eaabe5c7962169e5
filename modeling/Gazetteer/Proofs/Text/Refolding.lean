import Gazetteer.Proofs.Text.Folding
import Gazetteer.Proofs.Text.Lowering

/-!
# Folding a folded text

Decomposing gives characters that are not decomposed further, and lower-casing brings neither a
character to decompose nor a mark nor a capital back. So folding does nothing to the characters of a
folded text (`isSettled_of_mem_fold`). Only white space can still go: a mark at an end of a text
keeps the white space next to it from being trimmed, and then is dropped (`fold_fold_eq_iff`).
-/

namespace Gazetteer.Text

variable {before after cs : List Char} {c d : Char} {n m : Nat}

/-! ## Decomposing -/

/-- The code points of characters that are decomposed. -/
def composed : List Span := (0xAC00, 0xD7A3) :: singles (canonicalDecompositions.map Prod.fst)

/-- The code points of ASCII characters, of jamo and of all that decompositions are made of. -/
def components : List Span :=
  (0, 0xBF) :: (0x1100, 0x11FF) :: singles (canonicalDecompositions.flatMap Prod.snd)

theorem components_apart_composed : Apart components composed := by
  decide +kernel

/-- Whether decomposing leaves a character as it is. -/
def IsWhole (c : Char) : Prop := ¬ Within composed c.toNat

theorem lookup_eq_none_iff {table : List (Nat × List Nat)} :
    table.lookup n = none ↔ n ∉ table.map Prod.fst := by
  simp only [List.lookup_eq_none_iff, bne_iff_ne, List.mem_map, not_exists, not_and]
  exact forall₂_congr fun e _ => ne_comm

theorem isWhole_iff : IsWhole c ↔ ¬ (0xAC00 ≤ c.toNat ∧ c.toNat ≤ 0xD7A3) ∧
    canonicalDecompositions.lookup c.toNat = none := by
  rw [IsWhole, composed, within_cons, within_singles, not_or, lookup_eq_none_iff]

theorem not_isWhole_dotted : ¬ IsWhole 'İ' := by
  rw [isWhole_iff, not_and]
  exact fun _ => by decide

theorem IsWhole.decompose_eq (h : IsWhole c) : decompose c = [c] := by
  obtain ⟨hsyllable, hlookup⟩ := isWhole_iff.1 h
  simp only [decompose, if_neg hsyllable, hlookup, ite_self]

theorem isWhole_ofNat (h : Within components n) : IsWhole (Char.ofNat n) := by
  by_cases hzero : Char.ofNat n = '\x00'
  · have hfirst : Within components 0 := within_cons.2 (.inl ⟨Nat.le_refl 0, Nat.zero_le _⟩)
    rw [hzero]
    exact components_apart_composed.not_within hfirst
  · rw [IsWhole, toNat_eq_of_ofNat rfl hzero]
    exact components_apart_composed.not_within h

theorem within_of_mem_jamo {place : Nat} (hplace : place < 11172) (h : n ∈ jamo place) :
    0x1100 ≤ n ∧ n ≤ 0x11FF := by
  have hcases : n = 0x1100 + place / 588 ∨ n = 0x1161 + place % 588 / 28 ∨
      n = 0x11A7 + place % 28 := by
    unfold jamo at h
    split at h <;> simp only [List.mem_cons, List.not_mem_nil, or_false] at h <;> omega
  omega

/-- What a character is decomposed into is not decomposed further. -/
theorem isWhole_of_mem_decompose (h : d ∈ decompose c) : IsWhole d := by
  simp only [decompose] at h
  split at h
  next hlow =>
    rw [List.mem_singleton] at h
    subst h
    exact components_apart_composed.not_within
      (within_cons.2 (.inl ⟨Nat.zero_le _, Nat.le_of_lt_succ hlow⟩))
  · split at h
    next hsyllable =>
      obtain ⟨n, hn, rfl⟩ := List.mem_map.1 h
      have hjamo := within_of_mem_jamo (by omega) hn
      exact isWhole_ofNat (within_cons.2 (.inr (within_cons.2 (.inl hjamo))))
    next hsyllable =>
      split at h
      next codes hlookup =>
        obtain ⟨n, hn, rfl⟩ := List.mem_map.1 h
        obtain ⟨front, back, htable, -⟩ := List.lookup_eq_some_iff.1 hlookup
        have hmem : (c.toNat, codes) ∈ canonicalDecompositions := by simp [htable]
        have hcomponent : n ∈ canonicalDecompositions.flatMap Prod.snd :=
          List.mem_flatMap.2 ⟨_, hmem, hn⟩
        exact isWhole_ofNat
          (within_cons.2 (.inr (within_cons.2 (.inr (within_singles.2 hcomponent)))))
      next hlookup =>
        rw [List.mem_singleton] at h
        subst h
        exact isWhole_iff.2 ⟨hsyllable, hlookup⟩

/-! ## Lower-casing -/

/-- The code points of characters that folding does something to. -/
def changing : List Span := composed ++ markSpans ++ sources lowerRuns

/-- The code points of the lower-case forms of characters that are not decomposed. -/
def forms : List Span :=
  singles (((mapped lowerRuns).filter fun e => !(bits composed).testBit e.1).map Prod.snd)

theorem forms_apart_changing :
    Apart (singles (['\x00', 'σ', 'ς'].map Char.toNat) ++ forms) changing := by
  decide +kernel

/-- Whether folding does nothing to a character, wherever it stands. -/
structure IsSettled (c : Char) : Prop where
  whole : IsWhole c
  notMark : isMark c = false
  small : ∀ before after, lowerAt before c after = [c]

/-- A character without a lower-case form of its own is its lower-case form. -/
theorem lowerAt_of_imageOf? (hwhole : IsWhole c) (h : imageOf? lowerRuns c.toNat = none) :
    lowerAt before c after = [c] := by
  have hsigma : c ≠ 'Σ' := by
    rintro rfl
    exact absurd h (by decide)
  have hdotted : c ≠ 'İ' := by
    rintro rfl
    exact not_isWhole_dotted hwhole
  rw [lowerAt, if_neg hsigma, if_neg hdotted, h]
  rfl

theorem isSettled_of_not_within (h : ¬ Within changing c.toNat) : IsSettled c := by
  have hwhole : IsWhole c := fun hc => h (hc.mono fun _ hs => by simp [changing, hs])
  refine ⟨hwhole, ?_, fun before after => lowerAt_of_imageOf? hwhole (imageOf?_eq_none ?_)⟩
  · rw [← Bool.not_eq_true]
    exact fun hmark => h ((within_of_covers hmark).mono fun _ hs => by simp [changing, hs])
  · exact fun hsource => h (hsource.mono fun _ hs => by simp [changing, hs])

theorem isSettled_sigma (c : Char) (h : c ∈ ['\x00', 'σ', 'ς']) : IsSettled c := by
  apply isSettled_of_not_within
  apply forms_apart_changing.not_within
  have hcode : Within (singles (['\x00', 'σ', 'ς'].map Char.toNat)) c.toNat :=
    within_singles.2 (List.mem_map_of_mem h)
  exact hcode.mono (List.subset_append_left _ _)

theorem isSettled_image (hn : ¬ Within composed n) (h : imageOf? lowerRuns n = some m) :
    IsSettled (Char.ofNat m) := by
  by_cases hzero : Char.ofNat m = '\x00'
  · exact isSettled_sigma _ (hzero ▸ List.mem_cons_self)
  · have hform : Within forms m := by
      refine within_singles.2 (List.mem_map.2 ⟨(n, m), ?_, rfl⟩)
      rw [← testBit_bits] at hn
      exact List.mem_filter.2 ⟨mem_mapped_of_imageOf? h, by simpa using hn⟩
    apply isSettled_of_not_within
    rw [toNat_eq_of_ofNat rfl hzero]
    exact forms_apart_changing.not_within (hform.mono (List.subset_append_right _ _))

/-- Folding does nothing to the lower-case form of what it leaves of a character. -/
theorem isSettled_of_mem_lowerAt (hwhole : IsWhole d) (hmark : isMark d = false)
    (h : c ∈ lowerAt before d after) : IsSettled c := by
  cases himage : imageOf? lowerRuns d.toNat with
  | none =>
    rw [lowerAt_of_imageOf? hwhole himage, List.mem_singleton] at h
    subst h
    exact ⟨hwhole, hmark, fun _ _ => lowerAt_of_imageOf? hwhole himage⟩
  | some m =>
    unfold lowerAt at h
    split at h
    · rw [List.mem_singleton] at h
      subst h
      apply isSettled_sigma
      split <;> decide
    · split at h
      next hdotted =>
        subst hdotted
        exact absurd hwhole not_isWhole_dotted
      · rw [himage, List.mem_singleton] at h
        subst h
        exact isSettled_image hwhole himage

theorem mem_lowerAfter (h : c ∈ lowerAfter before cs) :
    ∃ d ∈ cs, ∃ front back, c ∈ lowerAt front d back := by
  induction cs generalizing before with
  | nil => cases h
  | cons d cs ih =>
    rcases List.mem_append.1 h with hhere | honward
    · exact ⟨d, List.mem_cons_self, before, cs, hhere⟩
    · obtain ⟨e, he, hform⟩ := ih honward
      exact ⟨e, List.mem_cons_of_mem _ he, hform⟩

/-! ## Folding -/

/-- A text without its marks. -/
def unmarked (cs : List Char) : List Char := (cs.flatMap decompose).filter fun c => !isMark c

theorem fold_eq (cs : List Char) : fold cs = lower (unmarked (trim cs)) := rfl

/-- Folding does nothing to the characters of a folded text. -/
theorem isSettled_of_mem_fold (h : c ∈ fold cs) : IsSettled c := by
  obtain ⟨d, hd, front, back, hform⟩ := mem_lowerAfter h
  obtain ⟨hparts, hmark⟩ := List.mem_filter.1 hd
  obtain ⟨e, -, hpart⟩ := List.mem_flatMap.1 hparts
  exact isSettled_of_mem_lowerAt (isWhole_of_mem_decompose hpart) (by simpa using hmark) hform

theorem lowerAfter_of_isSettled (h : ∀ c ∈ cs, IsSettled c) (before : List Char) :
    lowerAfter before cs = cs := by
  induction cs generalizing before with
  | nil => rfl
  | cons c cs ih =>
    rw [lowerAfter, (h c List.mem_cons_self).small, ih fun d hd => h d (List.mem_cons_of_mem _ hd)]
    rfl

theorem fold_of_isSettled (h : ∀ c ∈ cs, IsSettled c) : fold cs = trim cs := by
  have htrim : ∀ c ∈ trim cs, IsSettled c := fun c hc => h c (trim_subset cs hc)
  have hdecompose : (trim cs).flatMap decompose = trim cs := by
    rw [List.flatMap_congr fun c hc => (htrim c hc).whole.decompose_eq, List.flatMap_singleton']
  have hmarks : (trim cs).filter (fun c => !isMark c) = trim cs :=
    List.filter_eq_self.2 fun c hc => by rw [(htrim c hc).notMark, Bool.not_false]
  rw [fold, hdecompose, hmarks, lower, lowerAfter_of_isSettled htrim]

/-- To fold a folded text is to trim it. -/
theorem fold_fold (cs : List Char) : fold (fold cs) = trim (fold cs) :=
  fold_of_isSettled fun _ => isSettled_of_mem_fold

/-- Folding again changes nothing exactly if no white space comes to the ends of a text when its
marks are dropped. -/
theorem fold_fold_eq_iff (cs : List Char) :
    fold (fold cs) = fold cs ↔ trim (unmarked (trim cs)) = unmarked (trim cs) := by
  rw [fold_fold, fold_eq, trim_lower_iff]

end Gazetteer.Text
