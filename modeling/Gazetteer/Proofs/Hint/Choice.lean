import Mathlib.Order.OrderDual
import Gazetteer.Hint.Recovery
import Gazetteer.Proofs.Lookup.Ranking

/-!
# What a hint suggests

A hint searches twice. The strict search is for the one candidate that was probably meant, the wide
one for several to choose from, and it is made only if the strict one finds nothing. So what the
wide search finds has one and the same distance, and stays in the order of the input. For areas,
those with most files are named if nothing is near (`suggestions_are_nearest`).
-/

namespace Gazetteer

/-! ## The first of the nearest -/

namespace Lookup

section Nearest

variable {α : Type} {query : String} {candidates : List α} {name : α → String} {item : α}

/-- Whether a candidate is near a query and no other near one has a lower score, or the same score
and an earlier place. -/
def IsFirstNearest (query : String) (candidates : List α) (name : α → String) (item : α) :
    Prop :=
  IsNear query .default (name item) ∧
    ∃ earlier later, candidates = earlier ++ item :: later ∧
      (∀ other ∈ earlier, IsNear query .default (name other) →
        scoreOf query .default (name item) < scoreOf query .default (name other)) ∧
      ∀ other ∈ later, IsNear query .default (name other) →
        scoreOf query .default (name item) ≤ scoreOf query .default (name other)

/-- Whether a candidate is near enough to be suggested alone. -/
def IsClose (query name : String) : Prop :=
  IsNear query .default name ∧ scoreOf query .default name ≤ 2

instance (query name : String) : Decidable (IsClose query name) :=
  inferInstanceAs (Decidable (_ ∧ _))

/-- The candidates that are near a query, in their order. -/
def nearOnes (query : String) (candidates : List α) (name : α → String) : List α :=
  candidates.filter fun item => IsNear query .default (name item)

/-- The strict search looks for close candidates. -/
theorem isNear_bestMatch_iff {text : String} :
    IsNear query .bestMatch text ↔ IsClose query text := by
  constructor
  · rintro ⟨hquery, htext, hscore⟩
    exact ⟨⟨hquery, htext, hscore.trans (by decide)⟩, hscore⟩
  · rintro ⟨⟨hquery, htext, -⟩, hscore⟩
    exact ⟨hquery, htext, hscore⟩

theorem exists_bestMatchBy?_iff : (∃ item, bestMatchBy? query candidates name = some item) ↔
    ∃ item ∈ candidates, IsClose query (name item) := by
  rw [← Option.isSome_iff_exists, isSome_bestMatchBy?_iff]
  simp only [isNear_bestMatch_iff]

theorem isFirstNearest_of_bestMatchBy? (h : bestMatchBy? query candidates name = some item) :
    IsFirstNearest query candidates name item := by
  rw [bestMatchBy?_eq] at h
  obtain ⟨i, hi, rfl⟩ := Option.map_eq_some_iff.1 h
  obtain ⟨hnear, hclose⟩ := isNear_bestMatch_iff.1 (mem_ranking.1 (List.mem_of_mem_head? hi))
  obtain ⟨earlier, later, hsplit, hearlier, hlater⟩ := exists_split_of_head? hi
  -- The strict search does not see a candidate that is near and not close, but it is farther.
  have hfarther : ∀ other, IsNear query .default (name other) → ¬ IsClose query (name other) →
      scoreOf query .default (name candidates[i]) < scoreOf query .default (name other) := by
    intro other hother hnot
    exact hclose.trans_lt (Nat.lt_of_not_le fun hle => hnot ⟨hother, hle⟩)
  refine ⟨hnear, earlier, later, hsplit, ?_, ?_⟩
  · intro other hmem hother
    by_cases hbest : IsClose query (name other)
    · exact hearlier other hmem (isNear_bestMatch_iff.2 hbest)
    · exact hfarther other hother hbest
  · intro other hmem hother
    by_cases hbest : IsClose query (name other)
    · exact hlater other hmem (isNear_bestMatch_iff.2 hbest)
    · exact (hfarther other hother hbest).le

/-! ## Candidates that are near and not close -/

theorem distance_eq_of_not_close {text : String} (hnear : IsNear query .default text)
    (hclose : ¬ IsClose query text) :
    scoreOf query .default text = 3 ∧
      distance (queryKey .default query) (candidateKey .default text) = 3 := by
  have hscore : scoreOf query .default text = 3 := by
    have hle : scoreOf query .default text ≤ 3 := hnear.2.2
    have hgt : ¬ scoreOf query .default text ≤ 2 := fun hle => hclose ⟨hnear, hle⟩
    omega
  refine ⟨hscore, ?_⟩
  unfold scoreOf score at hscore
  split at hscore
  · cases hscore
  · exact hscore

/-- Where all scores are the same, a search finds near candidates in the order of the input. -/
theorem map_item_similarBy {limit : Nat}
    (h : ∀ item ∈ candidates, ¬ IsClose query (name item)) :
    (similarBy query candidates ⟨3, limit, true⟩ name).map Scored.item =
      (nearOnes query candidates name).take limit := by
  have hsorted : ranking query candidates .default name =
      (List.finRange candidates.length).filter fun i =>
        IsNear query .default (name candidates[i]) := by
    apply List.mergeSort_of_pairwise
    refine List.pairwise_of_forall_mem_list fun i hi j hj => decide_eq_true ?_
    have hscore : ∀ k ∈ (List.finRange candidates.length).filter fun i =>
        IsNear query .default (name candidates[i]),
        scoreAt query candidates .default name k = 3 := by
      intro k hk
      have hnear : IsNear query .default (name candidates[k]) := by
        simpa using (List.mem_filter.1 hk).2
      exact (distance_eq_of_not_close hnear (h _ (List.getElem_mem k.isLt))).1
    rw [hscore i hi, hscore j hj]
  have hranking : (ranking query candidates ⟨3, limit, true⟩ name).map
      (fun i => candidates[i]) = nearOnes query candidates name := by
    calc (ranking query candidates ⟨3, limit, true⟩ name).map (fun i => candidates[i])
        = (ranking query candidates .default name).map (fun i => candidates[i]) := rfl
      _ = nearOnes query candidates name := by
        rw [hsorted, nearOnes]
        conv_rhs => rw [← List.map_get_finRange candidates, List.filter_map]
        rfl
  rw [similarBy_eq, List.map_map, ← hranking, ← List.map_take]
  rfl

end Nearest
end Lookup

/-! ## The largest areas -/

namespace Hint

section Largest

variable (areas : List (String × Nat))

/-- Whether the area at one place goes before the one at another: it has more files, or as many and
the earlier place. -/
def Outnumbers (i j : Fin areas.length) : Prop :=
  areas[j].2 < areas[i].2 ∨ areas[i].2 = areas[j].2 ∧ i < j

/-- Whether places are those of the areas with most files, in order and as many as there may be. -/
structure AreLargest (limit : Nat) (places : List (Fin areas.length)) : Prop where
  length_eq : places.length = min limit areas.length
  ordered : places.Pairwise (Outnumbers areas)
  precedes_rest : ∀ i, i ∉ places → ∀ j ∈ places, Outnumbers areas j i

/-- The places of all areas, those with most files first. -/
def byCount : List (Fin areas.length) :=
  (List.finRange areas.length).mergeSort fun i j => areas[j].2 ≤ areas[i].2

theorem pairwise_byCount : (byCount areas).Pairwise (Outnumbers areas) := by
  have hsorted : (byCount areas).Pairwise fun i j =>
      OrderDual.toDual areas[i].2 < OrderDual.toDual areas[j].2 ∨
        OrderDual.toDual areas[i].2 = OrderDual.toDual areas[j].2 ∧ i < j :=
    Lookup.pairwise_mergeSort_of_pairwise _ (List.pairwise_lt_finRange _)
  -- Counts fall where their duals rise.
  refine hsorted.imp fun {i j} h => ?_
  rw [Outnumbers]
  simpa using h

theorem areLargest_byCount (limit : Nat) : AreLargest areas limit ((byCount areas).take limit) where
  length_eq := by rw [List.length_take, byCount, List.length_mergeSort, List.length_finRange]
  ordered := (pairwise_byCount areas).sublist (List.take_sublist _ _)
  precedes_rest i hi j hj := by
    have hmem : i ∈ byCount areas := List.mem_mergeSort.2 (List.mem_finRange i)
    exact Lookup.rel_of_mem_take (pairwise_byCount areas) hj hmem hi

theorem map_byCount : (byCount areas).map (fun i => areas[i]) =
    areas.mergeSort fun a b => b.2 ≤ a.2 := by
  conv_rhs => rw [← List.map_get_finRange areas]
  exact List.map_mergeSort fun i _ j _ => rfl

end Largest

/-! ## What a hint says -/

open Lookup (IsClose IsFirstNearest nearOnes bestMatchBy? candidateKey queryKey)

section Suggests

variable {α : Type}

/-- Whether candidates are suggested as they should be: the first of the nearest alone if one is
close, and else those that are listed. -/
structure Suggests (query : String) (candidates : List α) (name : α → String) (listed : List α)
    (meant : Option α) (others : List α) : Prop where
  close : (∃ item ∈ candidates, IsClose query (name item)) →
    ∃ item, meant = some item ∧ IsFirstNearest query candidates name item ∧ others = []
  distant : (∀ item ∈ candidates, ¬ IsClose query (name item)) →
    meant = none ∧ others = listed ∧ ∀ item ∈ nearOnes query candidates name,
      Lookup.distance (queryKey .default query) (candidateKey .default (name item)) = 3
  drawn : ∀ item ∈ meant.toList ++ others, item ∈ candidates
  few : (meant.toList ++ others).length ≤ 15

variable {query : String} {candidates : List α} {name : α → String} {found listed : List α}

/-- The strict search decides whether what the wide search found is suggested. -/
theorem suggests_of_searches
    (hfound : (∀ item ∈ candidates, ¬ IsClose query (name item)) → found = listed)
    (hdrawn : ∀ item ∈ listed, item ∈ candidates) (hfew : listed.length ≤ 15) :
    Suggests query candidates name listed (bestMatchBy? query candidates name)
      (if (bestMatchBy? query candidates name).isSome then [] else found) := by
  cases hbest : bestMatchBy? query candidates name with
  | some item =>
    have hclose : ∃ item ∈ candidates, IsClose query (name item) :=
      Lookup.exists_bestMatchBy?_iff.1 ⟨item, hbest⟩
    have hfirst : IsFirstNearest query candidates name item :=
      Lookup.isFirstNearest_of_bestMatchBy? hbest
    constructor
    case close => exact fun _ => ⟨item, rfl, hfirst, rfl⟩
    case distant =>
      intro hnone
      obtain ⟨other, hother, hclose⟩ := hclose
      exact absurd hclose (hnone other hother)
    case drawn =>
      obtain ⟨-, earlier, later, rfl, -⟩ := hfirst
      simp
    case few => simp
  | none =>
    have hnone : ∀ item ∈ candidates, ¬ IsClose query (name item) := by
      intro item hitem hclose
      obtain ⟨best, hsome⟩ := Lookup.exists_bestMatchBy?_iff.2 ⟨item, hitem, hclose⟩
      rw [hbest] at hsome
      cases hsome
    obtain rfl : found = listed := hfound hnone
    constructor
    case close =>
      rintro ⟨item, hitem, hclose⟩
      exact absurd hclose (hnone item hitem)
    case distant =>
      intro _
      refine ⟨rfl, rfl, fun item hitem => ?_⟩
      obtain ⟨hmem, hnear⟩ := List.mem_filter.1 hitem
      exact (Lookup.distance_eq_of_not_close (by simpa using hnear) (hnone item hmem)).2
    case drawn => simpa using hdrawn
    case few => simpa using hfew

theorem mem_of_mem_take_nearOnes {limit : Nat} :
    ∀ item ∈ (nearOnes query candidates name).take limit, item ∈ candidates := by
  intro item hitem
  exact (List.mem_filter.1 (List.mem_of_mem_take hitem)).1

end Suggests

/-- Whether areas are those to choose from: the first so many of those near the query, or those with
most files if none is near. -/
structure AreListed (query : String) (areas : List (String × Nat)) (limit : Nat)
    (listed : List (String × Nat)) : Prop where
  near : nearOnes query areas Prod.fst ≠ [] →
    listed = (nearOnes query areas Prod.fst).take limit
  largest : nearOnes query areas Prod.fst = [] →
    ∃ places, AreLargest areas limit places ∧ listed = places.map fun i => areas[i]

namespace Formatter

/-- The formatters there are: with the default limit, or with a limit that was set. -/
inductive IsMade : Formatter → Prop where
  | ofDialect (dialect : Dialect) : IsMade (ofDialect dialect)
  | withLimit (f : Formatter) (limit : Nat) : IsMade (f.withLimit limit)

variable {f : Formatter}

theorem IsMade.limit (h : f.IsMade) : 1 ≤ f.limit ∧ f.limit ≤ 15 := by
  cases h with
  | ofDialect dialect =>
    show 1 ≤ defaultHintLimit ∧ defaultHintLimit ≤ 15
    decide
  | withLimit f limit =>
    exact ⟨le_min (le_max_right _ _) (by decide), min_le_right _ _⟩

theorem suggests_missingFile (h : f.IsMade) (query : String) (files : List String) :
    Suggests (needle query) files fileKey ((nearOnes (needle query) files fileKey).take f.limit)
      (f.missingFile query files).didYouMean (f.missingFile query files).alternatives := by
  have hfound : (∀ path ∈ files, ¬ IsClose (needle query) (fileKey path)) →
      (Lookup.similarBy (needle query) files f.similarOptions fileKey).map Lookup.Scored.item =
        (nearOnes (needle query) files fileKey).take f.limit := Lookup.map_item_similarBy
  have hfew : ((nearOnes (needle query) files fileKey).take f.limit).length ≤ 15 :=
    (List.length_take_le _ _).trans h.limit.2
  unfold missingFile
  simp only
  exact suggests_of_searches hfound mem_of_mem_take_nearOnes hfew

/-- The areas to choose from where none is close. -/
def listedAreas (f : Formatter) (query : String) (areas : List (String × Nat)) :
    List (String × Nat) :=
  if nearOnes query areas Prod.fst = [] then
    ((byCount areas).take f.limit).map fun i => areas[i]
  else (nearOnes query areas Prod.fst).take f.limit

variable {query : String} {areas : List (String × Nat)}

theorem areListed_listedAreas : AreListed query areas f.limit (f.listedAreas query areas) where
  near h := if_neg h
  largest h := ⟨_, areLargest_byCount areas f.limit, if_pos h⟩

theorem nearAreas_eq (h : f.IsMade) (hdistant : ∀ area ∈ areas, ¬ IsClose query area.1) :
    f.nearAreas query areas = f.listedAreas query areas := by
  have hnear : (Lookup.similarBy query areas f.similarOptions Prod.fst).map Lookup.Scored.item =
      (nearOnes query areas Prod.fst).take f.limit := Lookup.map_item_similarBy hdistant
  have hempty : (nearOnes query areas Prod.fst).take f.limit = [] ↔
      nearOnes query areas Prod.fst = [] := by
    rw [List.take_eq_nil_iff]
    exact or_iff_right (Nat.ne_of_gt h.limit.1)
  unfold nearAreas listedAreas
  simp only [hnear, List.isEmpty_iff, hempty, ← map_byCount, List.map_take]

theorem mem_of_mem_listedAreas : ∀ area ∈ f.listedAreas query areas, area ∈ areas := by
  intro area harea
  unfold listedAreas at harea
  split at harea
  · obtain ⟨i, -, rfl⟩ := List.mem_map.1 harea
    exact List.getElem_mem i.isLt
  · exact mem_of_mem_take_nearOnes area harea

theorem length_listedAreas_le : (f.listedAreas query areas).length ≤ f.limit := by
  unfold listedAreas
  split
  · rw [List.length_map]
    exact List.length_take_le _ _
  · exact List.length_take_le _ _

theorem suggests_missingArea (h : f.IsMade) (query : String) (areas : List (String × Nat)) :
    ∃ meant others, (f.missingArea query areas).didYouMean = meant.map Prod.fst ∧
      (f.missingArea query areas).alternatives =
        others.map (fun (id, count) => id ++ " (" ++ toString count ++ " files)") ∧
      Suggests query areas Prod.fst (f.listedAreas query areas) meant others := by
  have hsuggests : Suggests query areas Prod.fst (f.listedAreas query areas) _ _ :=
    suggests_of_searches (nearAreas_eq h) mem_of_mem_listedAreas
      (length_listedAreas_le.trans h.limit.2)
  refine ⟨_, _, rfl, ?_, hsuggests⟩
  unfold missingArea
  simp only [Option.isSome_map]
  split <;> rfl

/-- A hint suggests the first of the nearest candidates if it is close, and else lists the first of
those that are near, all of which are at distance 3, or the largest areas if no area is near. It
suggests nothing but candidates as they are spelled, and at most fifteen of them. -/
theorem suggestions_are_nearest (h : f.IsMade) (query : String) :
    (1 ≤ f.limit ∧ f.limit ≤ 15) ∧
    (∀ files, Suggests (needle query) files fileKey
      ((nearOnes (needle query) files fileKey).take f.limit)
      (f.missingFile query files).didYouMean (f.missingFile query files).alternatives) ∧
    ∀ areas, ∃ listed meant others, AreListed query areas f.limit listed ∧
      Suggests query areas Prod.fst listed meant others ∧
      (f.missingArea query areas).didYouMean = meant.map Prod.fst ∧
      (f.missingArea query areas).alternatives =
        others.map fun (id, count) => id ++ " (" ++ toString count ++ " files)" := by
  refine ⟨h.limit, suggests_missingFile h query, fun areas => ?_⟩
  obtain ⟨meant, others, hmeant, hothers, hsuggests⟩ := suggests_missingArea h query areas
  exact ⟨_, meant, others, areListed_listedAreas, hsuggests, hmeant, hothers⟩

def Sample.pages : List String := ["src/pages/Login.tsx", "src/hooks/useAuth.ts"]

def Sample.counted : List (String × Nat) := [("auth", 4), ("billing", 9), ("search", 9)]

theorem near_pages_and_largest_areas_are_named : (ofDialect .terminal).IsMade ∧
    (∃ path, ((ofDialect .terminal).missingFile "Logn" Sample.pages).didYouMean = some path ∧
      IsFirstNearest (needle "Logn") Sample.pages fileKey path) ∧
    ((ofDialect .terminal).missingFile "uzeAth2" Sample.pages).alternatives =
      ["src/hooks/useAuth.ts"] ∧
    ∃ places, AreLargest Sample.counted 10 places ∧
      ((ofDialect .terminal).missingArea "warehouse" Sample.counted).alternatives =
        places.map fun i =>
          Sample.counted[i].1 ++ " (" ++ toString Sample.counted[i].2 ++ " files)" := by
  have hmade : (ofDialect .terminal).IsMade := .ofDialect .terminal
  obtain ⟨-, hfiles, -⟩ := suggestions_are_nearest hmade "Logn"
  obtain ⟨-, hfiles', -⟩ := suggestions_are_nearest hmade "uzeAth2"
  obtain ⟨-, -, hareas⟩ := suggestions_are_nearest hmade "warehouse"
  refine ⟨hmade, ?_, ?_, ?_⟩
  · obtain ⟨path, hpath, hfirst, -⟩ := (hfiles Sample.pages).close (by decide)
    exact ⟨path, hpath, hfirst⟩
  · obtain ⟨-, hlisted, -⟩ := (hfiles' Sample.pages).distant (by decide)
    have hnear : (nearOnes (needle "uzeAth2") Sample.pages fileKey).take 10 =
      ["src/hooks/useAuth.ts"] := by decide
    exact hlisted.trans hnear
  · obtain ⟨listed, meant, others, hlisted, hsuggests, -, hothers⟩ := hareas Sample.counted
    obtain ⟨-, rfl, -⟩ := hsuggests.distant (by decide)
    obtain ⟨places, hlargest, rfl⟩ := hlisted.largest (by decide)
    refine ⟨places, hlargest, ?_⟩
    rw [hothers, List.map_map]
    rfl

end Formatter
end Hint
end Gazetteer
