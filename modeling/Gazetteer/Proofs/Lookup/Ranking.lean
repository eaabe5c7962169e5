import Mathlib.Data.List.Sort
import Gazetteer.Lookup.Similar
import Gazetteer.Proofs.Lookup.Editing

/-!
# Ranking by closeness

The candidates near a query are ranked by score, and by their place where the scores are the same.
A search answers with the first of this ranking (`similarBy_selects_nearest`). Neither the cut-off
nor the limit goes into the order, so a stricter search finds the first part of what a wider one
finds, and the candidate that is suggested alone leads both.

Scores do not tell an exact name from one that only contains the query or is contained in it. Where
there are such names the first of them is suggested (`bestMatch?_of_exact_name`).
-/

namespace Gazetteer.Lookup

/-! ## Sorting by a key -/

section Stable

variable {α β : Type} [LinearOrder β] (key : α → β)

/-- Sorting by a key keeps the order of those that have the same key. -/
theorem filter_mergeSort_key (l : List α) (b : β) :
    (l.mergeSort fun x y => key x ≤ key y).filter (fun x => key x = b) =
      l.filter fun x => key x = b := by
  have hsame : (l.filter fun x => key x = b).Pairwise
      fun x y => decide (key x ≤ key y) = true := by
    refine List.pairwise_of_forall_mem_list fun x hx y hy => ?_
    have hx' : key x = b := by simpa using (List.mem_filter.1 hx).2
    have hy' : key y = b := by simpa using (List.mem_filter.1 hy).2
    simp [hx', hy']
  have hsub : (l.filter fun x => key x = b).Sublist (l.mergeSort fun x y => key x ≤ key y) :=
    List.sublist_mergeSort (fun _ _ _ hxy hyz => by simp at *; exact hxy.trans hyz)
      (fun x y => by simpa using le_total (key x) (key y)) hsame List.filter_sublist
  have hfiltered := hsub.filter fun x => decide (key x = b)
  simp only [List.filter_filter, Bool.and_self] at hfiltered
  exact (hfiltered.eq_of_length ((List.mergeSort_perm _ _).filter _).length_eq.symm).symm

theorem pairwise_mergeSort_key (l : List α) :
    (l.mergeSort fun x y => key x ≤ key y).Pairwise fun x y => key x ≤ key y := by
  have hsorted : (l.mergeSort fun x y => key x ≤ key y).Pairwise
      fun x y => decide (key x ≤ key y) = true :=
    List.pairwise_mergeSort (fun _ _ _ hxy hyz => by simp at *; exact hxy.trans hyz)
      (fun x y => by simpa using le_total (key x) (key y)) l
  simpa using hsorted

/-- Sorted by a key, a list is ordered by the key first and then as it was before. -/
theorem pairwise_mergeSort_of_pairwise {l : List α} {r : α → α → Prop} (h : l.Pairwise r) :
    (l.mergeSort fun x y => key x ≤ key y).Pairwise
      fun x y => key x < key y ∨ key x = key y ∧ r x y := by
  refine List.pairwise_of_forall_sublist fun {x y} hxy => ?_
  have hle : key x ≤ key y :=
    List.pairwise_iff_forall_sublist.1 (pairwise_mergeSort_key key l) hxy
  rcases hle.lt_or_eq with hlt | heq
  · exact .inl hlt
  · refine .inr ⟨heq, ?_⟩
    -- tied, both stay in the part with their key, which sorting does not reorder
    have htied := hxy.filter fun z => decide (key z = key y)
    rw [filter_mergeSort_key, List.filter_eq_self.2 (by simp [heq])] at htied
    exact List.pairwise_iff_forall_sublist.1 h (htied.trans List.filter_sublist)

/-- In an ordered list, those among the first so many come before the others. -/
theorem rel_of_mem_take {l : List α} {r : α → α → Prop} {n : Nat} {x y : α} (h : l.Pairwise r)
    (hx : x ∈ l.take n) (hy : y ∈ l) (hrest : y ∉ l.take n) : r x y := by
  rw [← List.take_append_drop n l] at h hy
  exact (List.pairwise_append.1 h).2.2 x hx y ((List.mem_append.1 hy).resolve_left hrest)

end Stable

/-! ## Candidates near a query -/

/-- The score of a name under the options of a search. -/
def scoreOf (query : String) (options : SimilarOptions) (name : String) : Nat :=
  score (queryKey options query) (candidateKey options name)

/-- Whether a name is near a query: both say something, and the score is within the cut-off. -/
def IsNear (query : String) (options : SimilarOptions) (name : String) : Prop :=
  queryKey options query ≠ [] ∧ candidateKey options name ≠ [] ∧
    scoreOf query options name ≤ options.maxDistance

instance (query : String) (options : SimilarOptions) (name : String) :
    Decidable (IsNear query options name) := inferInstanceAs (Decidable (_ ∧ _ ∧ _))

theorem scoreOf_congr {query : String} {options : SimilarOptions} {name other : String}
    (hkey : candidateKey options other = candidateKey options name) :
    scoreOf query options other = scoreOf query options name := by
  rw [scoreOf, scoreOf, hkey]

theorem IsNear.congr {query : String} {options : SimilarOptions} {name other : String}
    (h : IsNear query options name)
    (hkey : candidateKey options other = candidateKey options name) :
    IsNear query options other := by
  obtain ⟨hquery, hname, hscore⟩ := h
  refine ⟨hquery, hkey ▸ hname, ?_⟩
  rw [scoreOf_congr hkey]
  exact hscore

section Ranking

variable {α : Type} (query : String) (candidates : List α) (options : SimilarOptions)
  (name : α → String)

/-- The score of the candidate at a place. -/
def scoreAt (i : Fin candidates.length) : Nat := scoreOf query options (name candidates[i])

/-- The candidate at a place with its score. -/
def scoredAt (i : Fin candidates.length) : Scored α :=
  ⟨candidates[i], scoreAt query candidates options name i⟩

/-- Whether the candidate at one place goes before the one at another: it has a lower score, or the
same score and the earlier place. -/
def Precedes (i j : Fin candidates.length) : Prop :=
  scoreAt query candidates options name i < scoreAt query candidates options name j ∨
    scoreAt query candidates options name i = scoreAt query candidates options name j ∧ i < j

/-- The places of the near candidates, those that go before others first. -/
def ranking : List (Fin candidates.length) :=
  ((List.finRange candidates.length).filter fun i =>
    IsNear query options (name candidates[i])).mergeSort fun i j =>
      scoreAt query candidates options name i ≤ scoreAt query candidates options name j

/-- Whether places are those of near candidates in order, as many as there may be, and every other
near candidate goes after them. -/
structure IsSelection (places : List (Fin candidates.length)) : Prop where
  length_eq : places.length =
    min options.limit (candidates.countP fun item => IsNear query options (name item))
  near : ∀ i ∈ places, IsNear query options (name candidates[i])
  ordered : places.Pairwise (Precedes query candidates options name)
  precedes_rest : ∀ i, IsNear query options (name candidates[i]) → i ∉ places →
    ∀ j ∈ places, Precedes query candidates options name j i

end Ranking

section

variable {α : Type} {query : String} {candidates : List α} {options : SimilarOptions}
  {name : α → String}

namespace Precedes

variable {i j : Fin candidates.length}

theorem score_le (h : Precedes query candidates options name i j) :
    scoreAt query candidates options name i ≤ scoreAt query candidates options name j := by
  rcases h with hlt | ⟨heq, -⟩
  · exact Nat.le_of_lt hlt
  · exact Nat.le_of_eq heq

theorem asymm (hij : Precedes query candidates options name i j) :
    ¬ Precedes query candidates options name j i := by
  intro hji
  rcases hij with hij | ⟨heq, hij⟩ <;> rcases hji with hji | ⟨heq', hji⟩ <;> omega

end Precedes

theorem mem_ranking {i : Fin candidates.length} : i ∈ ranking query candidates options name ↔
    IsNear query options (name candidates[i]) := by
  simp [ranking, List.mem_mergeSort]

theorem length_ranking : (ranking query candidates options name).length =
    candidates.countP fun item => IsNear query options (name item) := by
  conv_rhs => rw [← List.map_get_finRange candidates, List.countP_map]
  rw [ranking, List.length_mergeSort, ← List.countP_eq_length_filter]
  rfl

theorem pairwise_ranking : (ranking query candidates options name).Pairwise
    (Precedes query candidates options name) :=
  pairwise_mergeSort_of_pairwise _ ((List.pairwise_lt_finRange _).filter _)

theorem nodup_ranking : (ranking query candidates options name).Nodup :=
  pairwise_ranking.imp fun {i j} h heq => by
    subst heq
    exact h.asymm h

theorem precedes_of_head? {i j : Fin candidates.length}
    (hi : (ranking query candidates options name).head? = some i)
    (hj : IsNear query options (name candidates[j])) (hne : j ≠ i) :
    Precedes query candidates options name i j := by
  obtain ⟨rest, hrest⟩ := List.head?_eq_some_iff.1 hi
  have hall : (ranking query candidates options name).Pairwise
      (Precedes query candidates options name) := pairwise_ranking
  have hmem : j ∈ ranking query candidates options name := mem_ranking.2 hj
  rw [hrest] at hall hmem
  exact (List.pairwise_cons.1 hall).1 j ((List.mem_cons.1 hmem).resolve_left hne)

/-- The first of a ranking has a lower score than any near candidate before it, and no higher one
than any after it. -/
theorem exists_split_of_head? {i : Fin candidates.length}
    (hi : (ranking query candidates options name).head? = some i) :
    ∃ earlier later, candidates = earlier ++ candidates[i] :: later ∧
      (∀ other ∈ earlier, IsNear query options (name other) →
        scoreOf query options (name candidates[i]) < scoreOf query options (name other)) ∧
      ∀ other ∈ later, IsNear query options (name other) →
        scoreOf query options (name candidates[i]) ≤ scoreOf query options (name other) := by
  refine ⟨candidates.take i, candidates.drop (i + 1), by simp, ?_, ?_⟩
  · intro other hother hnear
    obtain ⟨j, hj, rfl⟩ := List.mem_take_iff_getElem.1 hother
    have hlt : j < i := lt_of_lt_of_le hj (min_le_left _ _)
    rcases precedes_of_head? (j := ⟨j, hlt.trans i.isLt⟩) hi hnear (Fin.ne_of_lt hlt) with
      hscore | ⟨-, hplace⟩
    · exact hscore
    · exact absurd hplace (Nat.not_lt_of_lt hlt)
  · intro other hother hnear
    obtain ⟨j, hj, rfl⟩ := List.mem_drop_iff_getElem.1 hother
    have hlt : i + 1 + j < candidates.length := by omega
    have hne : (⟨i + 1 + j, hlt⟩ : Fin candidates.length) ≠ i :=
      Fin.ne_of_val_ne (show i + 1 + j ≠ (i : Nat) by omega)
    exact (precedes_of_head? (j := ⟨i + 1 + j, hlt⟩) hi hnear hne).score_le

/-- A search answers with the first of the ranking. -/
theorem similarBy_eq (query : String) (candidates : List α) (options : SimilarOptions)
    (name : α → String) : similarBy query candidates options name =
      ((ranking query candidates options name).take options.limit).map
        (scoredAt query candidates options name) := by
  unfold similarBy
  split
  next hquery =>
    have hnone : ranking query candidates options name = [] :=
      List.eq_nil_iff_forall_not_mem.2 fun i hi => (mem_ranking.1 hi).1 hquery
    rw [hnone, List.take_nil, List.map_nil]
  next hquery =>
    have hkept : survivors query candidates options name =
        ((List.finRange candidates.length).filter fun i =>
          IsNear query options (name candidates[i])).map
            (scoredAt query candidates options name) := by
      rw [← List.filterMap_eq_map, List.filterMap_filter]
      conv_lhs => rw [survivors, ← List.map_get_finRange candidates, List.filterMap_map]
      refine List.filterMap_congr fun i _ => ?_
      simp [IsNear, hquery, scoredAt, scoreAt, scoreOf]
    rw [hkept, List.map_take, ranking, List.map_mergeSort]
    exact fun i _ j _ => rfl

theorem isSelection_ranking : IsSelection query candidates options name
    ((ranking query candidates options name).take options.limit) where
  length_eq := by rw [List.length_take, length_ranking]
  near i hi := mem_ranking.1 (List.mem_of_mem_take hi)
  ordered := pairwise_ranking.sublist (List.take_sublist _ _)
  precedes_rest i hi hrest j hj := rel_of_mem_take pairwise_ranking hj (mem_ranking.2 hi) hrest

end

/-! ## Searches with different limits and cut-offs -/

section Passing

variable {β : Type} {xs : List β} {p : β → Bool}

/-- Where what passes a test comes first, the test and a limit are applied in either order. -/
theorem filter_take_of_pairwise (h : xs.Pairwise fun a b => p b = true → p a = true) (n : Nat) :
    (xs.take n).filter p = (xs.filter p).take n := by
  induction xs generalizing n with
  | nil => simp
  | cons a xs ih =>
    obtain ⟨ha, hxs⟩ := List.pairwise_cons.1 h
    cases n with
    | zero => rfl
    | succ n =>
      rw [List.take_succ_cons]
      by_cases hp : p a = true
      · rw [List.filter_cons_of_pos hp, List.filter_cons_of_pos hp, List.take_succ_cons, ih hxs]
      · have hnone : ∀ b ∈ xs, ¬ p b = true := fun b hb hpb => hp (ha b hb hpb)
        rw [List.filter_cons_of_neg hp, List.filter_cons_of_neg hp, List.filter_eq_nil_iff.2 hnone,
          List.filter_eq_nil_iff.2 fun b hb => hnone b (List.mem_of_mem_take hb), List.take_nil]

theorem head?_of_head?_filter {a : β} (h : xs.Pairwise fun a b => p b = true → p a = true)
    (ha : (xs.filter p).head? = some a) : xs.head? = some a := by
  cases xs with
  | nil => exact ha
  | cons b xs =>
    have hb : p b = true := by
      by_contra hb
      rw [List.filter_cons_of_neg hb] at ha
      obtain ⟨hmem, hpa⟩ := List.mem_filter.1 (List.mem_of_mem_head? ha)
      exact hb ((List.pairwise_cons.1 h).1 a hmem hpa)
    rwa [List.filter_cons_of_pos hb] at ha

end Passing

section Cutoffs

variable {α : Type} {query : String} {candidates : List α} {options : SimilarOptions}
  {name : α → String} {normalized : Bool} {m m' l l' : Nat}

theorem pairwise_within (m : Nat) : (ranking query candidates options name).Pairwise fun i j =>
    decide (scoreAt query candidates options name j ≤ m) = true →
      decide (scoreAt query candidates options name i ≤ m) = true :=
  pairwise_ranking.imp fun h hj => decide_eq_true (h.score_le.trans (of_decide_eq_true hj))

/-- A stricter cut-off takes the others out of a ranking and leaves it in order. -/
theorem filter_ranking (hm : m ≤ m') :
    (ranking query candidates ⟨m', l', normalized⟩ name).filter (fun i =>
        scoreAt query candidates ⟨m', l', normalized⟩ name i ≤ m) =
      ranking query candidates ⟨m, l, normalized⟩ name := by
  have hperm : ((ranking query candidates ⟨m', l', normalized⟩ name).filter (fun i =>
        scoreAt query candidates ⟨m', l', normalized⟩ name i ≤ m)).Perm
      (ranking query candidates ⟨m, l, normalized⟩ name) := by
    refine (List.perm_ext_iff_of_nodup (nodup_ranking.filter _) nodup_ranking).2 fun i => ?_
    rw [List.mem_filter, mem_ranking, mem_ranking, decide_eq_true_eq]
    constructor
    · rintro ⟨⟨hquery, hkey, -⟩, hle⟩
      exact ⟨hquery, hkey, hle⟩
    · rintro ⟨hquery, hkey, hle⟩
      exact ⟨⟨hquery, hkey, hle.trans hm⟩, hle⟩
  -- Limit and cut-off do not go into the scores, so both lists are in one order.
  have hordered : (ranking query candidates ⟨m, l, normalized⟩ name).Pairwise
      (Precedes query candidates ⟨m', l', normalized⟩ name) := by
    have h : (ranking query candidates ⟨m, l, normalized⟩ name).Pairwise
      (Precedes query candidates ⟨m, l, normalized⟩ name) := pairwise_ranking
    exact h
  exact List.Perm.eq_of_pairwise (fun i j _ _ hij hji => (hij.asymm hji).elim)
    (pairwise_ranking.filter _) hordered hperm

/-- A search finds what a wider one finds, up to its own cut-off and limit. -/
theorem similarBy_eq_of_wider (hm : m ≤ m') (hl : l ≤ l' ∨ candidates.length ≤ l') :
    similarBy query candidates ⟨m, l, normalized⟩ name =
      ((similarBy query candidates ⟨m', l', normalized⟩ name).filter (·.score ≤ m)).take l := by
  have hfound : ((ranking query candidates ⟨m', l', normalized⟩ name).take l').filter (fun i =>
      scoreAt query candidates ⟨m', l', normalized⟩ name i ≤ m) =
        (ranking query candidates ⟨m, l, normalized⟩ name).take l' := by
    rw [filter_take_of_pairwise (pairwise_within m), filter_ranking (l := l) hm]
  rw [similarBy_eq, similarBy_eq, List.filter_map, ← List.map_take]
  show _ = ((((ranking query candidates ⟨m', l', normalized⟩ name).take l').filter fun i =>
    scoreAt query candidates ⟨m', l', normalized⟩ name i ≤ m).take l).map _
  rw [hfound, List.take_take]
  rcases hl with hl | hl
  · rw [min_eq_left hl]
    rfl
  · have hall : (ranking query candidates ⟨m, l, normalized⟩ name).length ≤ l' := by
      rw [length_ranking]
      exact List.countP_le_length.trans hl
    rw [← List.take_take, List.take_of_length_le hall]
    rfl

theorem bestMatchBy?_eq (query : String) (candidates : List α) (name : α → String) :
    bestMatchBy? query candidates name =
      (ranking query candidates .bestMatch name).head?.map fun i => candidates[i] := by
  rw [bestMatchBy?, similarBy_eq, List.head?_map, List.head?_take, if_neg (by decide),
    Option.map_map]
  rfl

/-- A candidate is suggested alone only if no earlier one has the same key. -/
theorem exists_earlier_of_bestMatchBy? {item : α}
    (h : bestMatchBy? query candidates name = some item) :
    ∃ earlier later, candidates = earlier ++ item :: later ∧
      candidateKey .bestMatch (name item) ≠ [] ∧
      ∀ other ∈ earlier,
        candidateKey .bestMatch (name other) ≠ candidateKey .bestMatch (name item) := by
  rw [bestMatchBy?_eq] at h
  obtain ⟨i, hi, rfl⟩ := Option.map_eq_some_iff.1 h
  have hnear : IsNear query .bestMatch (name candidates[i]) :=
    mem_ranking.1 (List.mem_of_mem_head? hi)
  obtain ⟨earlier, later, hsplit, hearlier, -⟩ := exists_split_of_head? hi
  refine ⟨earlier, later, hsplit, hnear.2.1, fun other hother hkey => ?_⟩
  have hscore := hearlier other hother (hnear.congr hkey)
  rw [scoreOf_congr hkey] at hscore
  exact Nat.lt_irrefl _ hscore

theorem isSome_bestMatchBy?_iff : (bestMatchBy? query candidates name).isSome ↔
    ∃ item ∈ candidates, IsNear query .bestMatch (name item) := by
  rw [bestMatchBy?_eq, Option.isSome_map, List.isSome_head?]
  constructor
  · intro hne
    obtain ⟨i, hi⟩ := List.exists_mem_of_ne_nil _ hne
    exact ⟨candidates[i], List.getElem_mem i.isLt, mem_ranking.1 hi⟩
  · rintro ⟨item, hitem, hnear⟩
    obtain ⟨i, rfl⟩ := List.mem_iff_get.1 hitem
    exact List.ne_nil_of_mem (mem_ranking.2 hnear)

/-- A candidate that is suggested alone is found first by every wider search. -/
theorem head?_similarBy_of_bestMatchBy? {item : α}
    (h : bestMatchBy? query candidates name = some item) (hm : bestMatchMaxDistance ≤ m)
    (hl : 1 ≤ l) :
    (similarBy query candidates ⟨m, l, true⟩ name).head?.map Scored.item = some item := by
  rw [bestMatchBy?_eq] at h
  obtain ⟨i, hi, hitem⟩ := Option.map_eq_some_iff.1 h
  have hstrict : (ranking query candidates ⟨m, l, true⟩ name).filter (fun i =>
      scoreAt query candidates ⟨m, l, true⟩ name i ≤ bestMatchMaxDistance) =
        ranking query candidates .bestMatch name := filter_ranking hm
  have hhead : (ranking query candidates ⟨m, l, true⟩ name).head? = some i :=
    head?_of_head?_filter (pairwise_within bestMatchMaxDistance) (hstrict ▸ hi)
  rw [similarBy_eq, List.head?_map, List.head?_take, if_neg (Nat.ne_of_gt hl), hhead, ← hitem]
  rfl

end Cutoffs

/-- A search answers with the nearest candidates, nearest first and in their order where the scores
are the same. So a stricter search finds the first part of what a wider one finds, and what is
suggested alone, a candidate within distance 2, comes first in both. -/
theorem similarBy_selects_nearest {α : Type} (query : String) (candidates : List α)
    (name : α → String) :
    (∀ options, ∃ places, IsSelection query candidates options name places ∧
      similarBy query candidates options name =
        places.map (scoredAt query candidates options name)) ∧
    (∀ normalized m m' l l', m ≤ m' → l ≤ l' ∨ candidates.length ≤ l' →
      similarBy query candidates ⟨m, l, normalized⟩ name =
        ((similarBy query candidates ⟨m', l', normalized⟩ name).filter (·.score ≤ m)).take l) ∧
    ((bestMatchBy? query candidates name).isSome ↔
      ∃ item ∈ candidates, IsNear query ⟨2, 1, true⟩ (name item)) ∧
    (∀ item, bestMatchBy? query candidates name = some item → ∀ m l, 2 ≤ m → 1 ≤ l →
      (similarBy query candidates ⟨m, l, true⟩ name).head?.map Scored.item = some item) ∧
    ∀ texts text, bestMatch? query texts = some text → ∀ m l, 2 ≤ m → 1 ≤ l →
      (similar query texts ⟨m, l, true⟩).head? = some text := by
  refine ⟨fun options => ⟨_, isSelection_ranking, similarBy_eq query candidates options name⟩,
    fun _ _ _ _ _ hm hl => similarBy_eq_of_wider hm hl, isSome_bestMatchBy?_iff,
    fun _ hitem _ _ hm hl => head?_similarBy_of_bestMatchBy? hitem hm hl, ?_⟩
  intro texts text htext m l hm hl
  rw [similar, List.head?_map]
  exact head?_similarBy_of_bestMatchBy? htext hm hl

def Sample.typos : List String := ["abcd", "abce", "abcf", "zzzz"]

theorem first_of_typos_lead :
    similarBy "abcx" Sample.typos ⟨1, 2, true⟩ id =
      ((similarBy "abcx" Sample.typos ⟨3, 4, true⟩ id).filter (·.score ≤ 1)).take 2 ∧
    bestMatch? "abcx" Sample.typos = some "abcd" ∧
    (similar "abcx" Sample.typos ⟨3, 5, true⟩).head? = some "abcd" := by
  obtain ⟨-, hwider, -, -, hhead⟩ := similarBy_selects_nearest "abcx" Sample.typos id
  have hnear : survivors "abcx" Sample.typos .bestMatch id =
      [⟨"abcd", 1⟩, ⟨"abce", 1⟩, ⟨"abcf", 1⟩] := by decide
  have hasked : queryKey .bestMatch "abcx" ≠ [] := by decide
  have hmeant : bestMatch? "abcx" Sample.typos = some "abcd" := by
    unfold bestMatch? bestMatchBy? similarBy
    rw [if_neg hasked, hnear, List.mergeSort_of_pairwise (by decide)]
    rfl
  exact ⟨hwider true 1 3 2 4 (by decide) (.inl (by decide)), hmeant,
    hhead Sample.typos "abcd" hmeant 3 5 (by decide) (by decide)⟩

/-- Every name contains the empty text, and yet a search for it finds nothing. -/
theorem exists_within_but_not_found : ∃ (query : String) (candidates : List String)
    (options : SimilarOptions), 1 ≤ options.limit ∧
      (similarBy query candidates options id).length ≠ min options.limit
        (candidates.countP fun name => candidateKey options name ≠ [] ∧
          scoreOf query options name ≤ options.maxDistance) ∧
      bestMatch? query candidates = none ∧
      ∃ name ∈ candidates, candidateKey .bestMatch name ≠ [] ∧ scoreOf query .bestMatch name ≤ 2 :=
  ⟨"", ["auth"], .default, by decide, by decide, by decide, by decide⟩

/-! ## Names that stand inside one another -/

/-- Whether a name and a query stand one inside the other, once they are made comparable. -/
def Nested (query name : String) : Prop :=
  candidateKey .bestMatch name ≠ [] ∧
    (Text.occursIn (queryKey .bestMatch query) (candidateKey .bestMatch name) ∨
      Text.occursIn (candidateKey .bestMatch name) (queryKey .bestMatch query))

instance (query name : String) : Decidable (Nested query name) :=
  inferInstanceAs (Decidable (_ ∧ (_ ∨ _)))

/-- Whether a name is exactly what a query asks for, once they are made comparable. -/
def IsExact (query name : String) : Prop :=
  candidateKey .bestMatch name = queryKey .bestMatch query

instance (query name : String) : Decidable (IsExact query name) :=
  inferInstanceAs (Decidable (_ = _))

section Nested

variable {α : Type} {query : String} {candidates : List α} {name : α → String}

theorem score_eq_zero_iff {query key : List Char} :
    score query key = 0 ↔ Text.occursIn query key ∨ Text.occursIn key query := by
  unfold score
  rw [← Bool.or_eq_true]
  split
  next h => simp [h]
  next h =>
    refine ⟨fun hzero => ?_, fun hinside => absurd hinside h⟩
    obtain rfl : query = key := distance_eq_zero_iff.1 hzero
    exact absurd (by rw [Text.occursIn_iff.2 (List.infix_refl query)]; rfl) h

theorem nested_iff {text : String} (hquery : queryKey .bestMatch query ≠ []) :
    Nested query text ↔ IsNear query .bestMatch text ∧ scoreOf query .bestMatch text = 0 := by
  unfold Nested
  rw [← score_eq_zero_iff]
  constructor
  · rintro ⟨hkey, hzero⟩
    exact ⟨⟨hquery, hkey, by rw [scoreOf, hzero]; exact Nat.zero_le _⟩, hzero⟩
  · rintro ⟨⟨-, hkey, -⟩, hzero⟩
    exact ⟨hkey, hzero⟩

theorem IsExact.nested {text : String} (hquery : queryKey .bestMatch query ≠ [])
    (h : IsExact query text) : Nested query text := by
  unfold Nested
  rw [h]
  exact ⟨hquery, .inl (Text.occursIn_iff.2 (List.infix_refl _))⟩

/-- The first of a ranking is nested with the query if any candidate is, and it is the earliest
that is. -/
theorem nested_of_head? (hquery : queryKey .bestMatch query ≠ []) {i k : Fin candidates.length}
    (hi : (ranking query candidates .bestMatch name).head? = some i)
    (hk : Nested query (name candidates[k])) :
    Nested query (name candidates[i]) ∧ ∀ j < i, ¬ Nested query (name candidates[j]) := by
  have hnear : IsNear query .bestMatch (name candidates[i]) :=
    mem_ranking.1 (List.mem_of_mem_head? hi)
  have hzero : scoreAt query candidates .bestMatch name i = 0 := by
    obtain ⟨hnear', hzero'⟩ := (nested_iff hquery).1 hk
    by_cases heq : k = i
    · exact heq ▸ hzero'
    · exact Nat.eq_zero_of_le_zero (hzero' ▸ (precedes_of_head? hi hnear' heq).score_le)
  refine ⟨(nested_iff hquery).2 ⟨hnear, hzero⟩, fun j hj hnested => ?_⟩
  obtain ⟨hnear', hzero'⟩ := (nested_iff hquery).1 hnested
  rcases precedes_of_head? hi hnear' hj.ne with hlt | ⟨-, hlt⟩
  · have hpos : 0 < scoreAt query candidates .bestMatch name j := Nat.zero_lt_of_lt hlt
    exact hpos.ne' hzero'
  · exact absurd hlt hj.not_gt

theorem bestMatchBy?_eq_find? (hquery : queryKey .bestMatch query ≠ [])
    (h : ∃ item ∈ candidates, Nested query (name item)) :
    bestMatchBy? query candidates name = candidates.find? fun item => Nested query (name item) := by
  obtain ⟨item, hitem, hnested⟩ := h
  obtain ⟨k, rfl⟩ := List.mem_iff_get.1 hitem
  have hne : ranking query candidates .bestMatch name ≠ [] :=
    List.ne_nil_of_mem (mem_ranking.2 ((nested_iff hquery).1 hnested).1)
  obtain ⟨i, rest, hrest⟩ := List.exists_cons_of_ne_nil hne
  have hi : (ranking query candidates .bestMatch name).head? = some i := by rw [hrest]; rfl
  obtain ⟨hfirst, hearlier⟩ := nested_of_head? hquery hi hnested
  rw [bestMatchBy?_eq, hi, Option.map_some]
  symm
  refine List.find?_eq_some_iff_getElem.2 ⟨decide_eq_true hfirst, i, i.isLt, rfl, fun j hj => ?_⟩
  have hnot := hearlier ⟨j, hj.trans i.isLt⟩ hj
  simpa using hnot

theorem exists_first {p : α → Prop} [DecidablePred p] (h : ∃ item ∈ candidates, p item) :
    ∃ earlier first later, candidates = earlier ++ first :: later ∧ p first ∧
      ∀ item ∈ earlier, ¬ p item := by
  have hsome : (candidates.find? fun item => p item).isSome :=
    List.find?_isSome.2 (h.imp fun _ hitem => ⟨hitem.1, decide_eq_true hitem.2⟩)
  obtain ⟨first, hfind⟩ := Option.isSome_iff_exists.1 hsome
  obtain ⟨hfirst, earlier, later, hsplit, hearlier⟩ := List.find?_eq_some_iff_append.1 hfind
  exact ⟨earlier, first, later, hsplit, by simpa using hfirst, fun item hitem => by
    simpa using hearlier item hitem⟩

end Nested

/-- Where some candidate has exactly the name that is asked for, the first one is suggested whose
name contains the query or is contained in it. That one has the exact name if no other such
candidate stands before the first that has it. -/
theorem bestMatch?_of_exact_name {query : String} {candidates : List String}
    (hquery : Text.trim query.toList ≠ []) (hexact : ∃ name ∈ candidates, IsExact query name) :
    ∃ found, bestMatch? query candidates = some found ∧
      candidates.find? (fun name => Nested query name) = some found ∧
      (IsExact query found ↔
        ∀ name ∈ candidates.takeWhile (fun name => ¬ IsExact query name), ¬ Nested query name) := by
  have hkey : queryKey .bestMatch query ≠ [] := fun hnil => hquery (Text.lower_eq_nil_iff.1 hnil)
  obtain ⟨earlier, first, later, rfl, hfirst, hearlier⟩ := exists_first hexact
  have hnested : Nested query first := hfirst.nested hkey
  have hfind : bestMatch? query (earlier ++ first :: later) =
      (earlier ++ first :: later).find? fun name => Nested query name :=
    bestMatchBy?_eq_find? hkey ⟨first, by simp, hnested⟩
  have hbefore : (earlier ++ first :: later).takeWhile (fun name => ¬ IsExact query name) =
      earlier := by
    rw [List.takeWhile_append_of_pos fun name hname => decide_eq_true (hearlier name hname),
      List.takeWhile_cons_of_neg (by simpa using hfirst), List.append_nil]
  rw [hfind, hbefore, List.find?_append]
  cases hbest : earlier.find? (fun name => Nested query name) with
  | none =>
    have hnone : ∀ name ∈ earlier, ¬ Nested query name := fun name hname => by
      simpa using List.find?_eq_none.1 hbest name hname
    have hhead : ((first :: later).find? fun name => Nested query name) = some first := by
      simp [hnested]
    exact ⟨first, hhead, hhead, iff_of_true hfirst hnone⟩
  | some found =>
    have hfound : found ∈ earlier := List.mem_of_find?_eq_some hbest
    have hinside : Nested query found := by simpa using List.find?_some hbest
    exact ⟨found, rfl, rfl, iff_of_false (hearlier found hfound) fun hnone =>
      hnone found hfound hinside⟩

theorem exact_name_is_suggested : Text.trim " Billing ".toList ≠ [] ∧
    (∃ name ∈ ["settings", "billing.ts", "bill"], IsExact " Billing " name) ∧
    bestMatch? " Billing " ["settings", "billing.ts", "bill"] = some "billing.ts" := by
  have hquery : Text.trim " Billing ".toList ≠ [] := by decide
  have hexact : ∃ name ∈ ["settings", "billing.ts", "bill"], IsExact " Billing " name := by
    decide
  obtain ⟨found, hfound, hfind, -⟩ := bestMatch?_of_exact_name hquery hexact
  have hfirst : ["settings", "billing.ts", "bill"].find? (fun name => Nested " Billing " name) =
      some "billing.ts" := by decide
  exact ⟨hquery, hexact, hfound.trans (hfind.symm.trans hfirst)⟩

/-- A name that the query contains is suggested in place of the one that it asks for exactly. -/
theorem exists_exact_name_passed_over : ∃ (query : String) (candidates : List String),
    Text.trim query.toList ≠ [] ∧ (∃ name ∈ candidates, IsExact query name) ∧
      ∃ found, bestMatch? query candidates = some found ∧ ¬ IsExact query found := by
  refine ⟨"loginform", ["Form.tsx", "LoginForm.tsx"], by decide, by decide,
    "Form.tsx", ?_, by decide⟩
  have hnested : ["Form.tsx", "LoginForm.tsx"].find? (fun name => Nested "loginform" name) =
      some "Form.tsx" := by decide
  exact (bestMatchBy?_eq_find? (by decide) (by decide)).trans hnested

end Gazetteer.Lookup
