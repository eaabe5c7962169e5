import Mathlib.Data.List.TakeWhile
import Gazetteer.Text.Blank
import Gazetteer.Text.Pieces

/-!
# Cutting and trimming

Cutting at a separator undoes writing pieces with the separator between them, and trimming leaves a
text alone whose ends are not white space. What stands after the last separator is the same, up to
white space around it, whether the text is trimmed before or not (`trim_afterLast_trim`).
-/

namespace Gazetteer.Text

theorem splitOn_of_not_mem {sep : Char} {cs : List Char} (h : sep ∉ cs) :
    splitOn sep cs = [cs] := by
  induction cs with
  | nil => rfl
  | cons c cs ih =>
    have hc : c ≠ sep := fun heq => h (heq ▸ List.mem_cons_self)
    rw [splitOn, if_neg hc, ih fun hcs => h (List.mem_cons_of_mem _ hcs)]

theorem splitOn_append_cons {sep : Char} {piece : List Char} (h : sep ∉ piece) (cs : List Char) :
    splitOn sep (piece ++ sep :: cs) = piece :: splitOn sep cs := by
  induction piece with
  | nil => rw [List.nil_append, splitOn, if_pos rfl]
  | cons c piece ih =>
    have hc : c ≠ sep := fun heq => h (heq ▸ List.mem_cons_self)
    rw [List.cons_append, splitOn, if_neg hc, ih fun hcs => h (List.mem_cons_of_mem _ hcs)]

theorem splitOn_ne_nil (sep : Char) (cs : List Char) : splitOn sep cs ≠ [] := by
  cases cs with
  | nil => exact List.cons_ne_nil _ _
  | cons c cs =>
    rw [splitOn]
    split
    · exact List.cons_ne_nil _ _
    · split <;> exact List.cons_ne_nil _ _

/-- One piece is the whole text, without a separator. -/
theorem splitOn_eq_singleton_iff {sep : Char} {cs piece : List Char} :
    splitOn sep cs = [piece] ↔ cs = piece ∧ sep ∉ piece := by
  constructor
  · intro h
    by_cases hmem : sep ∈ cs
    · obtain ⟨front, rest, rfl, hfront⟩ := List.eq_append_cons_of_mem hmem
      rw [splitOn_append_cons hfront] at h
      exact absurd (List.cons.inj h).2 (splitOn_ne_nil sep rest)
    · rw [splitOn_of_not_mem hmem] at h
      obtain ⟨rfl, -⟩ := List.cons.inj h
      exact ⟨rfl, hmem⟩
  · rintro ⟨rfl, hpiece⟩
    exact splitOn_of_not_mem hpiece

/-- The first of several pieces ends at the first separator. -/
theorem splitOn_eq_cons_cons_iff {sep : Char} {cs piece next : List Char}
    {pieces : List (List Char)} : splitOn sep cs = piece :: next :: pieces ↔
      ∃ rest, cs = piece ++ sep :: rest ∧ sep ∉ piece ∧ splitOn sep rest = next :: pieces := by
  constructor
  · intro h
    by_cases hmem : sep ∈ cs
    · obtain ⟨front, rest, rfl, hfront⟩ := List.eq_append_cons_of_mem hmem
      rw [splitOn_append_cons hfront] at h
      obtain ⟨rfl, hrest⟩ := List.cons.inj h
      exact ⟨rest, rfl, hfront, hrest⟩
    · rw [splitOn_of_not_mem hmem] at h
      exact absurd (List.cons.inj h).2.symm (List.cons_ne_nil _ _)
  · rintro ⟨rest, rfl, hpiece, hrest⟩
    rw [splitOn_append_cons hpiece, hrest]

theorem splitOn_subset {sep : Char} {cs piece : List Char} (h : piece ∈ splitOn sep cs) :
    piece ⊆ cs := by
  induction cs generalizing piece with
  | nil =>
    obtain rfl := List.mem_singleton.1 h
    exact List.Subset.refl []
  | cons c cs ih =>
    rw [splitOn] at h
    split at h
    · rcases List.mem_cons.1 h with rfl | h
      · exact List.nil_subset _
      · exact List.subset_cons_of_subset c (ih h)
    · split at h
      next hnone => exact absurd hnone (splitOn_ne_nil sep cs)
      next first pieces hpieces =>
        rw [hpieces] at ih
        rcases List.mem_cons.1 h with rfl | h
        · exact List.cons_subset_cons c (ih List.mem_cons_self)
        · exact List.subset_cons_of_subset c (ih (List.mem_cons_of_mem _ h))

/-! ## Parts at the ends -/

theorem dropStart?_eq_some_iff {start cs rest : List Char} :
    dropStart? start cs = some rest ↔ cs = start ++ rest := by
  unfold dropStart?
  constructor
  · intro h
    split at h
    next hstart =>
      obtain ⟨back, rfl⟩ := List.isPrefixOf_iff_prefix.1 hstart
      rw [← Option.some.inj h, List.drop_left]
    · cases h
  · rintro rfl
    have hstart : start.isPrefixOf (start ++ rest) = true :=
      List.isPrefixOf_iff_prefix.2 (List.prefix_append start rest)
    rw [if_pos hstart, List.drop_left]

theorem dropEnd?_eq_some_iff {ending cs front : List Char} :
    dropEnd? ending cs = some front ↔ cs = front ++ ending := by
  unfold dropEnd?
  constructor
  · intro h
    split at h
    next hending =>
      obtain ⟨start, rfl⟩ := List.isSuffixOf_iff_suffix.1 hending
      rw [← Option.some.inj h, List.length_append, Nat.add_sub_cancel, List.take_left]
    · cases h
  · rintro rfl
    have hending : ending.isSuffixOf (front ++ ending) = true :=
      List.isSuffixOf_iff_suffix.2 (List.suffix_append front ending)
    rw [if_pos hending, List.length_append, Nat.add_sub_cancel, List.take_left]

/-- What a text with something behind it ends in. -/
theorem suffix_append_iff {ending front back : List Char} : ending <:+ front ++ back ↔
    ending <:+ back ∨ ∃ start, ending = start ++ back ∧ start <:+ front := by
  constructor
  · rintro ⟨rest, hrest⟩
    rcases List.append_eq_append_iff.1 hrest with ⟨start, hfront, hending⟩ | ⟨lead, -, hback⟩
    · right
      exact ⟨start, hending, rest, hfront.symm⟩
    · left
      exact ⟨lead, hback.symm⟩
  · rintro (hback | ⟨start, rfl, hstart⟩)
    · exact hback.trans (List.suffix_append front back)
    · obtain ⟨rest, rfl⟩ := hstart
      exact ⟨rest, (List.append_assoc ..).symm⟩

theorem trimStart_of_head? {cs : List Char} (h : ∀ c, cs.head? = some c → isBlank c = false) :
    trimStart cs = cs := by
  cases cs with
  | nil => rfl
  | cons c cs => rw [trimStart, List.dropWhile_cons_of_neg (by simp [h c rfl])]

theorem trimEnd_of_getLast? {cs : List Char} (h : ∀ c, cs.getLast? = some c → isBlank c = false) :
    trimEnd cs = cs := by
  have hrev : trimStart cs.reverse = cs.reverse :=
    trimStart_of_head? fun c hc => h c (by rwa [List.head?_reverse] at hc)
  rw [trimEnd, ← trimStart, hrev, List.reverse_reverse]

theorem trim_of_ends {cs : List Char} (hhead : ∀ c, cs.head? = some c → isBlank c = false)
    (hlast : ∀ c, cs.getLast? = some c → isBlank c = false) : trim cs = cs := by
  rw [trim, trimStart_of_head? hhead, trimEnd_of_getLast? hlast]

theorem head?_trimStart {cs : List Char} {c : Char} (h : (trimStart cs).head? = some c) :
    isBlank c = false := by
  have hfirst := List.head?_dropWhile_not isBlank cs
  rw [trimStart] at h
  rw [h] at hfirst
  simpa using hfirst

theorem getLast?_trimEnd {cs : List Char} {c : Char} (h : (trimEnd cs).getLast? = some c) :
    isBlank c = false := by
  rw [trimEnd, List.getLast?_reverse] at h
  exact head?_trimStart h

theorem trimEnd_prefix (cs : List Char) : trimEnd cs <+: cs := by
  rw [trimEnd, ← List.reverse_suffix, List.reverse_reverse]
  exact List.dropWhile_suffix _

theorem head?_trim {cs : List Char} {c : Char} (h : (trim cs).head? = some c) :
    isBlank c = false := by
  obtain ⟨rest, hrest⟩ := trimEnd_prefix (trimStart cs)
  have hhead : (trimStart cs).head? = some c := by
    rw [trim] at h
    rw [← hrest, List.head?_append, h]
    rfl
  exact head?_trimStart hhead

theorem trim_trim (cs : List Char) : trim (trim cs) = trim cs :=
  trim_of_ends (fun _ => head?_trim) fun _ => getLast?_trimEnd

/-- Trimming leaves alone the texts that neither begin nor end in white space. -/
theorem trim_eq_self_iff {cs : List Char} : trim cs = cs ↔
    cs.head?.map isBlank ≠ some true ∧ cs.getLast?.map isBlank ≠ some true := by
  have hend : ∀ {border? : Option Char},
      border?.map isBlank ≠ some true ↔ ∀ c, border? = some c → isBlank c = false := by
    intro border?
    cases border? <;> simp
  rw [hend, hend]
  constructor
  · intro h
    refine ⟨fun c hc => ?_, fun c hc => ?_⟩
    · rw [← h] at hc
      exact head?_trim hc
    · rw [← h] at hc
      exact getLast?_trimEnd hc
  · rintro ⟨hhead, hlast⟩
    exact trim_of_ends hhead hlast

theorem isBlank_eq_false_of_isDigit {c : Char} (h : c.isDigit = true) : isBlank c = false := by
  have hrange : 48 ≤ c.toNat ∧ c.toNat ≤ 57 := by
    simpa [Char.isDigit, UInt32.le_iff_toNat_le] using h
  have all : ∀ n, n < 58 → 48 ≤ n → covers blankSpans n = false := by decide
  exact all c.toNat (by omega) hrange.1

/-! ## Cutting at the first separator -/

section FirstSeparator

variable {sep : Char} {cs before after : List Char}

theorem cutFirst?_of_not_mem (h : sep ∉ cs) : cutFirst? sep cs = none := by
  induction cs with
  | nil => rfl
  | cons c cs ih =>
    have hc : c ≠ sep := fun heq => h (heq ▸ List.mem_cons_self)
    rw [cutFirst?, if_neg hc, ih fun hcs => h (List.mem_cons_of_mem _ hcs)]
    rfl

theorem cutFirst?_append_cons (h : sep ∉ before) :
    cutFirst? sep (before ++ sep :: after) = some (before, after) := by
  induction before with
  | nil => rw [List.nil_append, cutFirst?, if_pos rfl]
  | cons c before ih =>
    have hc : c ≠ sep := fun heq => h (heq ▸ List.mem_cons_self)
    rw [List.cons_append, cutFirst?, if_neg hc, ih fun hcs => h (List.mem_cons_of_mem _ hcs)]
    rfl

/-- A text is cut at its first separator. -/
theorem cutFirst?_eq_some_iff :
    cutFirst? sep cs = some (before, after) ↔ cs = before ++ sep :: after ∧ sep ∉ before := by
  constructor
  · intro h
    by_cases hmem : sep ∈ cs
    · obtain ⟨front, rest, rfl, hfront⟩ := List.eq_append_cons_of_mem hmem
      rw [cutFirst?_append_cons hfront] at h
      cases h
      exact ⟨rfl, hfront⟩
    · rw [cutFirst?_of_not_mem hmem] at h
      cases h
  · rintro ⟨rfl, hbefore⟩
    exact cutFirst?_append_cons hbefore

theorem cutFirst?_eq_none_iff : cutFirst? sep cs = none ↔ sep ∉ cs := by
  refine ⟨fun h hmem => ?_, cutFirst?_of_not_mem⟩
  obtain ⟨front, rest, rfl, hfront⟩ := List.eq_append_cons_of_mem hmem
  rw [cutFirst?_append_cons hfront] at h
  cases h

end FirstSeparator

/-! ## Cutting at the last separator -/

section LastSeparator

variable {sep : Char} {cs before after : List Char}

theorem cutLast?_of_not_mem (h : sep ∉ cs) : cutLast? sep cs = none := by
  induction cs with
  | nil => rfl
  | cons c cs ih =>
    have hc : c ≠ sep := fun heq => h (heq ▸ List.mem_cons_self)
    rw [cutLast?, ih fun hcs => h (List.mem_cons_of_mem _ hcs)]
    exact if_neg hc

theorem cutLast?_append_cons (h : sep ∉ after) :
    cutLast? sep (before ++ sep :: after) = some (before, after) := by
  induction before with
  | nil =>
    rw [List.nil_append, cutLast?, cutLast?_of_not_mem h]
    exact if_pos rfl
  | cons c before ih => rw [List.cons_append, cutLast?, ih]

/-- A text has no separator, or it is cut at the last one. -/
theorem not_mem_or_exists_cut (sep : Char) (cs : List Char) :
    sep ∉ cs ∨ ∃ before after, cs = before ++ sep :: after ∧ sep ∉ after := by
  induction cs with
  | nil => exact .inl List.not_mem_nil
  | cons c cs ih =>
    rcases ih with hcs | ⟨before, after, rfl, hafter⟩
    · by_cases hc : c = sep
      · exact .inr ⟨[], cs, by rw [hc, List.nil_append], hcs⟩
      · exact .inl fun hmem => (List.mem_cons.1 hmem).elim (fun heq => hc heq.symm) hcs
    · exact .inr ⟨c :: before, after, rfl, hafter⟩

theorem afterLast_of_not_mem (h : sep ∉ cs) : afterLast sep cs = cs := by
  rw [afterLast, cutLast?_of_not_mem h]
  rfl

theorem afterLast_of_cut (h : sep ∉ after) : afterLast sep (before ++ sep :: after) = after := by
  rw [afterLast, cutLast?_append_cons h]
  rfl

/-- What stands before a separator does not count. -/
theorem afterLast_append_cons (sep : Char) (before after : List Char) :
    afterLast sep (before ++ sep :: after) = afterLast sep after := by
  rcases not_mem_or_exists_cut sep after with hafter | ⟨front, back, rfl, hback⟩
  · rw [afterLast_of_cut hafter, afterLast_of_not_mem hafter]
  · rw [← List.cons_append, ← List.append_assoc, afterLast_of_cut hback, afterLast_of_cut hback]

theorem afterLast_append (cs : List Char) {ending : List Char} (h : sep ∉ ending) :
    afterLast sep (cs ++ ending) = afterLast sep cs ++ ending := by
  rcases not_mem_or_exists_cut sep cs with hcs | ⟨front, back, rfl, hback⟩
  · rw [afterLast_of_not_mem hcs, afterLast_of_not_mem]
    exact fun hmem => (List.mem_append.1 hmem).elim hcs h
  · rw [afterLast_of_cut hback, List.append_assoc, List.cons_append, afterLast_of_cut]
    exact fun hmem => (List.mem_append.1 hmem).elim hback h

/-- Characters may be exchanged before or after the cut if they stay as good as the separator. -/
theorem cutLast?_map {g : Char → Char} (h : ∀ c ∈ cs, g c = sep ↔ c = sep) :
    cutLast? sep (cs.map g) = (cutLast? sep cs).map (Prod.map (List.map g) (List.map g)) := by
  have hmem : ∀ part : List Char, (∀ c ∈ part, c ∈ cs) → sep ∉ part → sep ∉ part.map g := by
    intro part hpart hsep hmap
    obtain ⟨c, hc, hg⟩ := List.mem_map.1 hmap
    exact hsep ((h c (hpart c hc)).1 hg ▸ hc)
  rcases not_mem_or_exists_cut sep cs with hcs | ⟨front, back, rfl, hback⟩
  · rw [cutLast?_of_not_mem hcs, cutLast?_of_not_mem (hmem cs (fun _ hc => hc) hcs)]
    rfl
  · have hsep : g sep = sep := (h sep (by simp)).2 rfl
    have hback' : sep ∉ back.map g := hmem back (fun c hc => by simp [hc]) hback
    rw [cutLast?_append_cons hback, List.map_append, List.map_cons, hsep,
      cutLast?_append_cons hback']
    rfl

theorem afterLast_map {g : Char → Char} (h : ∀ c ∈ cs, g c = sep ↔ c = sep) :
    afterLast sep (cs.map g) = (afterLast sep cs).map g := by
  unfold afterLast
  rw [cutLast?_map h]
  cases cutLast? sep cs <;> rfl

/-- What stands after the last separator ends the text. -/
theorem afterLast_suffix (sep : Char) (cs : List Char) : afterLast sep cs <:+ cs := by
  rcases not_mem_or_exists_cut sep cs with hcs | ⟨front, back, rfl, hback⟩
  · refine ⟨[], ?_⟩
    rw [List.nil_append, afterLast_of_not_mem hcs]
  · rw [afterLast_of_cut hback]
    exact (List.suffix_cons sep back).trans (List.suffix_append front _)

theorem afterLast_subset (sep : Char) (cs : List Char) : afterLast sep cs ⊆ cs :=
  (afterLast_suffix sep cs).subset

/-! ## White space at the ends -/

theorem trim_subset (cs : List Char) : trim cs ⊆ cs := by
  have hend : trim cs <+: trimStart cs := trimEnd_prefix _
  exact List.Subset.trans hend.subset (List.dropWhile_suffix _).subset

theorem trimStart_append {front : List Char} (h : ∀ c ∈ front, isBlank c = true)
    (cs : List Char) : trimStart (front ++ cs) = trimStart cs := List.dropWhile_append_of_pos h

theorem trimEnd_append {ending : List Char} (cs : List Char)
    (h : ∀ c ∈ ending, isBlank c = true) : trimEnd (cs ++ ending) = trimEnd cs := by
  rw [trimEnd, List.reverse_append, List.dropWhile_append_of_pos]
  · rfl
  · exact fun c hc => h c (List.mem_reverse.1 hc)

/-- White space is taken off one end and then the other, in either order. -/
theorem trim_append {ending : List Char} (cs : List Char) (h : ∀ c ∈ ending, isBlank c = true) :
    trim (cs ++ ending) = trim cs := by
  unfold trim trimStart
  rw [List.dropWhile_append]
  split
  next hcs =>
    have hnil : cs.dropWhile isBlank = [] := List.isEmpty_iff.1 hcs
    have hending : ending.dropWhile isBlank = [] := List.dropWhile_eq_nil_iff.2 h
    rw [hnil, hending]
  · exact trimEnd_append _ h

theorem exists_trimStart (cs : List Char) :
    ∃ front, cs = front ++ trimStart cs ∧ ∀ c ∈ front, isBlank c = true :=
  ⟨cs.takeWhile isBlank, List.takeWhile_append_dropWhile.symm, fun _ => List.mem_takeWhile_imp⟩

theorem exists_trimEnd (cs : List Char) :
    ∃ ending, cs = trimEnd cs ++ ending ∧ ∀ c ∈ ending, isBlank c = true := by
  refine ⟨(cs.reverse.takeWhile isBlank).reverse, ?_, fun c hc =>
    List.mem_takeWhile_imp (List.mem_reverse.1 hc)⟩
  rw [trimEnd, ← List.reverse_append, List.takeWhile_append_dropWhile, List.reverse_reverse]

/-- White space around a text is white space around what stands after its last separator. -/
theorem trim_afterLast_trim (hsep : isBlank sep = false) (cs : List Char) :
    trim (afterLast sep (trim cs)) = trim (afterLast sep cs) := by
  have hblank : ∀ part : List Char, (∀ c ∈ part, isBlank c = true) → sep ∉ part :=
    fun part hpart hmem => Bool.false_ne_true (hsep.symm.trans (hpart sep hmem))
  obtain ⟨front, hfront, hfrontBlank⟩ := exists_trimStart cs
  obtain ⟨ending, hending, hendingBlank⟩ := exists_trimEnd (trimStart cs)
  have hleft : trim (afterLast sep (trimStart cs)) = trim (afterLast sep (trim cs)) := by
    conv => lhs; rw [hending, afterLast_append _ (hblank ending hendingBlank)]
    exact trim_append _ hendingBlank
  rw [← hleft]
  conv => rhs; rw [hfront]
  rcases not_mem_or_exists_cut sep (trimStart cs) with hcs | ⟨before, after, hcut, hafter⟩
  · have hwhole : sep ∉ front ++ trimStart cs := fun hmem =>
      (List.mem_append.1 hmem).elim (hblank front hfrontBlank) hcs
    rw [afterLast_of_not_mem hcs, afterLast_of_not_mem hwhole, trim, trim,
      trimStart_append hfrontBlank]
  · rw [hcut, ← List.append_assoc, afterLast_of_cut hafter, afterLast_of_cut hafter]

theorem trim_map {g : Char → Char} (h : ∀ c ∈ cs, isBlank (g c) = isBlank c) :
    trim (cs.map g) = (trim cs).map g := by
  have hdrop : ∀ part : List Char, (∀ c ∈ part, isBlank (g c) = isBlank c) →
      (part.map g).dropWhile isBlank = (part.dropWhile isBlank).map g := by
    intro part hpart
    induction part with
    | nil => rfl
    | cons c part ih =>
      have hrest := ih fun d hd => hpart d (List.mem_cons_of_mem _ hd)
      rw [List.map_cons, List.dropWhile_cons, List.dropWhile_cons, hpart c List.mem_cons_self,
        hrest]
      split <;> rfl
  have hstart : trimStart (cs.map g) = (trimStart cs).map g := hdrop cs h
  have hrest : ∀ c ∈ (trimStart cs).reverse, isBlank (g c) = isBlank c := fun c hc =>
    h c ((List.dropWhile_suffix _).subset (List.mem_reverse.1 hc))
  rw [trim, hstart, trimEnd, ← List.map_reverse, hdrop _ hrest, ← List.map_reverse]
  rfl

end LastSeparator

end Gazetteer.Text
