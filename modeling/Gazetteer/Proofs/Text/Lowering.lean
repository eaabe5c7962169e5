import Gazetteer.Proofs.Text.Ascii
import Gazetteer.Proofs.Text.CodePoint

/-!
# Lower case in its context

How a character is lower-cased hangs on the letters around it, but never on what stands behind a
slash: a text is lower-cased piece by piece between its slashes (`lower_append_slash`). The case of
its ASCII letters makes no difference, neither to themselves nor to the characters around them
(`lower_map_toLower`). Lower-casing brings in no separator (`eq_of_mem_lowerAt`), and it leaves
white space where it was (`trim_lower_iff`).
-/

namespace Gazetteer.Text

variable {before cs : List Char}

/-! ## Behind a slash -/

theorem meetsLetter_slash (cs : List Char) : meetsLetter ('/' :: cs) = false := by
  have hignored : covers caseIgnorableSpans '/'.toNat = false := by decide
  have hcased : covers casedSpans '/'.toNat = false := by decide
  rw [meetsLetter, hignored, hcased]
  rfl

theorem meetsLetter_append_slash (front rest : List Char) :
    meetsLetter (front ++ '/' :: rest) = meetsLetter front := by
  induction front with
  | nil => exact meetsLetter_slash rest
  | cons c front ih => rw [List.cons_append, meetsLetter, meetsLetter, ih]

/-- Of what stands before a text only whether it ends in a letter counts. -/
theorem lowerAfter_congr {before' : List Char} (h : meetsLetter before = meetsLetter before')
    (cs : List Char) : lowerAfter before cs = lowerAfter before' cs := by
  induction cs generalizing before before' with
  | nil => rfl
  | cons c cs ih =>
    have hhere : lowerAt before c cs = lowerAt before' c cs := by rw [lowerAt, lowerAt, h]
    have honward : meetsLetter (c :: before) = meetsLetter (c :: before') := by
      rw [meetsLetter, meetsLetter, h]
    rw [lowerAfter, lowerAfter, hhere, ih honward]

theorem lowerAfter_append_slash (before front rest : List Char) :
    lowerAfter before (front ++ '/' :: rest) = lowerAfter before front ++ '/' :: lower rest := by
  induction front generalizing before with
  | nil =>
    have hslash : lowerAt before '/' rest = ['/'] := lowerAt_of_isAscii (by decide)
    have honward : lowerAfter ('/' :: before) rest = lower rest :=
      lowerAfter_congr (meetsLetter_slash before) rest
    show lowerAt before '/' rest ++ lowerAfter ('/' :: before) rest = _
    rw [hslash, honward]
    rfl
  | cons c front ih =>
    have hhere : lowerAt before c (front ++ '/' :: rest) = lowerAt before c front := by
      rw [lowerAt, lowerAt, meetsLetter_append_slash]
    rw [List.cons_append, lowerAfter, lowerAfter, hhere, ih, List.append_assoc]

/-- What stands on one side of a slash does not count on the other. -/
theorem lower_append_slash (front rest : List Char) :
    lower (front ++ '/' :: rest) = lower front ++ '/' :: lower rest :=
  lowerAfter_append_slash [] front rest

/-! ## ASCII letters -/

/-- Only letters from `A` to `Z` have another lower-case form in core. -/
theorem toLower_of_not_isAscii {c : Char} (h : 128 ≤ c.toNat) : c.toLower = c := by
  refine dif_neg fun hupper => ?_
  have hlast : c.toNat ≤ 90 := hupper.2
  omega

/-- The case of an ASCII letter counts neither for it nor for its neighbours. -/
theorem toLower_facts {c : Char} (h : c.toNat < 128) : c.toLower.toNat < 128 ∧
    c.toLower.toLower = c.toLower ∧
    covers caseIgnorableSpans c.toLower.toNat = covers caseIgnorableSpans c.toNat ∧
    covers casedSpans c.toLower.toNat = covers casedSpans c.toNat :=
  forall_isAscii h (by decide)

theorem meetsLetter_map_toLower (cs : List Char) :
    meetsLetter (cs.map Char.toLower) = meetsLetter cs := by
  induction cs with
  | nil => rfl
  | cons c cs ih =>
    rw [List.map_cons, meetsLetter, meetsLetter, ih]
    by_cases hc : c.toNat < 128
    · obtain ⟨-, -, hignored, hcased⟩ := toLower_facts hc
      rw [hignored, hcased]
    · rw [toLower_of_not_isAscii (Nat.le_of_not_lt hc)]

theorem lowerAt_map_toLower (before : List Char) (c : Char) (after : List Char) :
    lowerAt (before.map Char.toLower) c.toLower (after.map Char.toLower) =
      lowerAt before c after := by
  by_cases hc : c.toNat < 128
  · obtain ⟨hascii, hagain, -, -⟩ := toLower_facts hc
    rw [lowerAt_of_isAscii hascii, lowerAt_of_isAscii hc, hagain]
  · rw [toLower_of_not_isAscii (Nat.le_of_not_lt hc), lowerAt, lowerAt, meetsLetter_map_toLower,
      meetsLetter_map_toLower]

theorem lowerAfter_map_toLower (before cs : List Char) :
    lowerAfter (before.map Char.toLower) (cs.map Char.toLower) = lowerAfter before cs := by
  induction cs generalizing before with
  | nil => rfl
  | cons c cs ih =>
    rw [List.map_cons, lowerAfter, lowerAfter, lowerAt_map_toLower, ← List.map_cons, ih]

/-- The case of ASCII letters makes no difference to a lower-case form. -/
theorem lower_map_toLower (cs : List Char) : lower (cs.map Char.toLower) = lower cs :=
  lowerAfter_map_toLower [] cs

/-! ## Separators -/

/-- White space has no case, and no character is sent to white space or to one before `a`. -/
theorem lowerRuns_apart : Apart (sourceSpans lowerRuns) blankSpans ∧
    Apart (imageSpans lowerRuns) ((0, 96) :: blankSpans) := by
  decide +kernel

theorem toNat_eq_of_ofNat {c : Char} {n : Nat} (h : Char.ofNat n = c) (hc : c ≠ '\x00') :
    c.toNat = n := by
  by_cases hn : n.isValidChar
  · rw [← h, Char.ofNat, dif_pos hn]
    rfl
  · rw [Char.ofNat, dif_neg hn] at h
    exact absurd h.symm hc

/-- A dot or a slash comes from a dot or a slash. -/
theorem eq_of_mem_lowerAt {before after : List Char} {c sep : Char} (hsep : sep = '/' ∨ sep = '.')
    (h : sep ∈ lowerAt before c after) : c = sep := by
  by_cases hc : c.toNat < 128
  · rw [lowerAt_of_isAscii hc, List.mem_singleton] at h
    obtain ⟨hslash, hdot, -, -⟩ := toLower_keeps hc
    rcases hsep with rfl | rfl
    · exact hslash.1 h.symm
    · exact hdot.1 h.symm
  · rw [lowerAt] at h
    split at h
    · split at h <;> rcases hsep with rfl | rfl <;> simp at h
    · split at h
      · rcases hsep with rfl | rfl <;> simp at h
      · have hform := List.mem_singleton.1 h
        cases himage : imageOf? lowerRuns c.toNat with
        | none =>
          rw [himage] at hform
          exact hform.symm
        | some m =>
          -- What characters are sent to stands behind all separators.
          have hleast : ¬ m ≤ 96 := fun hm => lowerRuns_apart.2.not_within (within_spans himage).2
            (within_cons.2 (.inl ⟨Nat.zero_le m, hm⟩))
          rw [himage] at hform
          rcases hsep with rfl | rfl
          · have hcode : 47 = m := toNat_eq_of_ofNat hform.symm (by decide)
            omega
          · have hcode : 46 = m := toNat_eq_of_ofNat hform.symm (by decide)
            omega

theorem mem_of_mem_lowerAfter {sep : Char} (hsep : sep = '/' ∨ sep = '.')
    (h : sep ∈ lowerAfter before cs) : sep ∈ cs := by
  induction cs generalizing before with
  | nil => exact h
  | cons c cs ih =>
    rw [lowerAfter, List.mem_append] at h
    rcases h with hhere | honward
    · exact eq_of_mem_lowerAt hsep hhere ▸ List.mem_cons_self
    · exact List.mem_cons_of_mem _ (ih honward)

/-! ## White space -/

/-- White space has no case. -/
theorem lowerAt_of_isBlank {before after : List Char} {c : Char} (h : isBlank c = true) :
    lowerAt before c after = [c] := by
  have himage : imageOf? lowerRuns c.toNat = none := by
    rw [Option.eq_none_iff_forall_ne_some]
    exact fun m hm => lowerRuns_apart.1.not_within (within_spans hm).1 (within_of_covers h)
  have hsigma : c ≠ 'Σ' := by
    rintro rfl
    exact absurd h (by decide)
  have hdotted : c ≠ 'İ' := by
    rintro rfl
    exact absurd h (by decide)
  rw [lowerAt, if_neg hsigma, if_neg hdotted, himage]
  rfl

theorem isBlank_image {n m : Nat} (h : imageOf? lowerRuns n = some m) :
    isBlank (Char.ofNat m) = false := by
  by_cases hzero : Char.ofNat m = '\x00'
  · rw [hzero]
    decide
  · rw [← Bool.not_eq_true, isBlank, toNat_eq_of_ofNat rfl hzero]
    exact fun hblank => lowerRuns_apart.2.not_within (within_spans h).2
      (within_cons.2 (.inr (within_of_covers hblank)))

/-- White space stays, and no other character becomes white space. -/
theorem isBlank_of_mem_lowerAt {before after : List Char} {c d : Char}
    (h : d ∈ lowerAt before c after) : isBlank d = isBlank c := by
  by_cases hc : isBlank c = true
  · rw [lowerAt_of_isBlank hc, List.mem_singleton] at h
    rw [h]
  · rw [Bool.not_eq_true] at hc
    rw [hc]
    unfold lowerAt at h
    split at h
    · rw [List.mem_singleton] at h
      subst h
      split <;> decide
    · split at h
      · rcases List.mem_pair.1 h with rfl | rfl <;> decide
      · rw [List.mem_singleton] at h
        subst h
        cases himage : imageOf? lowerRuns c.toNat with
        | none => exact hc
        | some m => exact isBlank_image himage

theorem lowerAt_ne_nil (before : List Char) (c : Char) (after : List Char) :
    lowerAt before c after ≠ [] := by
  unfold lowerAt
  split
  · exact List.cons_ne_nil _ _
  · split <;> exact List.cons_ne_nil _ _

theorem lowerAfter_concat (before cs : List Char) (c : Char) :
    ∃ front, lowerAfter before (cs ++ [c]) = front ++ lowerAt (cs.reverse ++ before) c [] := by
  induction cs generalizing before with
  | nil => exact ⟨[], List.append_nil _⟩
  | cons d cs ih =>
    obtain ⟨front, hfront⟩ := ih (d :: before)
    refine ⟨lowerAt before d (cs ++ [c]) ++ front, ?_⟩
    rw [List.cons_append, lowerAfter, hfront, List.append_assoc, List.reverse_cons,
      List.append_assoc, List.singleton_append]

theorem getLast?_lowerAfter {c : Char} (h : isBlank c = true) :
    (lowerAfter before (cs ++ [c])).getLast? = some c := by
  obtain ⟨front, hfront⟩ := lowerAfter_concat before cs c
  rw [hfront, lowerAt_of_isBlank h, List.getLast?_append]
  rfl

theorem isBlank_head?_lower (cs : List Char) :
    (lower cs).head?.map isBlank = cs.head?.map isBlank := by
  cases cs with
  | nil => rfl
  | cons c cs =>
    rw [lower, lowerAfter, List.head?_append, List.head?_cons, Option.map_some]
    cases hform : lowerAt [] c cs with
    | nil => exact absurd hform (lowerAt_ne_nil [] c cs)
    | cons d form =>
      exact congrArg some (isBlank_of_mem_lowerAt (hform ▸ List.mem_cons_self))

theorem isBlank_getLast?_lower (cs : List Char) :
    (lower cs).getLast?.map isBlank = cs.getLast?.map isBlank := by
  rcases List.eq_nil_or_concat' cs with rfl | ⟨cs, c, rfl⟩
  · rfl
  · obtain ⟨front, hfront⟩ := lowerAfter_concat [] cs c
    rw [lower, hfront, List.getLast?_append, List.getLast?_concat, Option.map_some]
    cases hlast : (lowerAt (cs.reverse ++ []) c []).getLast? with
    | none => exact absurd (List.getLast?_eq_none_iff.1 hlast) (lowerAt_ne_nil _ c [])
    | some d => exact congrArg some (isBlank_of_mem_lowerAt (List.mem_of_getLast? hlast))

/-- A text has white space at its ends exactly if its lower-case form has. -/
theorem trim_lower_iff (cs : List Char) : trim (lower cs) = lower cs ↔ trim cs = cs := by
  rw [trim_eq_self_iff, trim_eq_self_iff, isBlank_head?_lower, isBlank_getLast?_lower]

end Gazetteer.Text
