import Gazetteer.Proofs.Lookup.Resolution
import Gazetteer.Proofs.Text.Ascii

/-!
# When a reference resolves

The bare name of a path stands inside the path. So a candidate that matches a query in any tier
contains the bare name of the query, and a candidate that contains it matches, in the last tier if
in no other. A reference therefore resolves exactly if some candidate contains its bare name
(`rankTargets_finds_bare_name`).
-/

namespace Gazetteer.Lookup

/-! ## The bare name inside a path -/

theorem bareName_infix (path : List Char) : bareName path <:+: path := by
  have hname : Path.fileName path <:+ path := Text.afterLast_suffix '/' path
  have hstem := withoutExtension_prefix (Path.fileName path)
  exact hstem.isInfix.trans hname.isInfix

/-- Whatever makes a candidate match, it contains the bare name of the query. -/
theorem bareName_infix_of_primaryTier? {query candidate : List Char} {tier : Tier}
    (h : primaryTier? query candidate = some tier) : bareName query <:+: candidate := by
  unfold primaryTier? at h
  split at h
  next hsame =>
    rw [hsame]
    exact bareName_infix query
  split at h
  next hname =>
    -- The three tiers of equal names differ in the directories alone.
    rw [← hname]
    exact bareName_infix candidate
  split at h
  next hinside =>
    have hquery := bareName_infix query
    exact hquery.trans (Text.occursIn_iff.1 hinside)
  · cases h

theorem primaryTier?_ne_none_of_infix {query candidate : List Char} (h : query <:+: candidate) :
    primaryTier? query candidate ≠ none := by
  unfold primaryTier?
  split
  · exact Option.some_ne_none _
  split
  · split
    · exact Option.some_ne_none _
    split <;> exact Option.some_ne_none _
  · rw [if_pos (Text.occursIn_iff.2 h)]
    exact Option.some_ne_none _

/-! ## Candidates with a tier -/

variable {query path : String} {candidates : List String}

theorem normalize_ne_nil_of_bareName (hname : bareName (normalize query.toList) ≠ []) :
    normalize query.toList ≠ [] := by
  intro hnil
  rw [hnil] at hname
  exact hname rfl

/-- A candidate has a tier exactly if it contains the bare name of the query. -/
theorem ownTier?_ne_none_iff (hname : bareName (normalize query.toList) ≠ []) :
    ownTier? query path ≠ none ↔
      bareName (normalize query.toList) <:+: normalize path.toList := by
  cases hprimary : primaryTier? (normalize query.toList) (normalize path.toList) with
  | some tier =>
    rw [ownTier?_of_some hprimary]
    exact iff_of_true (Option.some_ne_none _) (bareName_infix_of_primaryTier? hprimary)
  | none =>
    rw [ownTier?_of_none hprimary, ← Text.occursIn_iff]
    simp [hname]

theorem ownMatches_ne_nil_iff (hname : bareName (normalize query.toList) ≠ []) :
    ownMatches query candidates ≠ [] ↔
      ∃ path ∈ candidates, bareName (normalize query.toList) <:+: normalize path.toList := by
  rw [Ne, ← best?_eq_none_iff, best?_ownMatches_eq_none_iff]
  push Not
  simp only [ownTier?_ne_none_iff hname]

theorem map_path_ownMatches_sublist (query : String) (candidates : List String) :
    ((ownMatches query candidates).map Match.path).Sublist candidates := by
  induction candidates with
  | nil => exact List.Sublist.refl _
  | cons path candidates ih =>
    cases htier : ownTier? query path with
    | none =>
      rw [ownMatches_cons_of_none htier]
      exact ih.cons path
    | some tier =>
      rw [ownMatches_cons_of_some htier]
      exact ih.cons_cons path

/-! ## What is ranked -/

theorem rankTargets_eq_nil_iff (hquery : normalize query.toList ≠ []) :
    rankTargets query candidates = [] ↔ ownMatches query candidates = [] := by
  rw [rankTargets_eq hquery]
  split
  · exact Iff.rfl
  next hne =>
    refine iff_of_false hne fun hnil => ?_
    rw [hnil] at hne
    exact hne rfl

theorem rankTargets_sublist (hquery : normalize query.toList ≠ []) :
    (rankTargets query candidates).Sublist (ownMatches query candidates) := by
  rw [rankTargets_eq hquery]
  split
  · exact List.Sublist.refl _
  · exact List.filter_sublist

/-- The last tier does not stand beside another. -/
theorem tiers_rankTargets (hquery : normalize query.toList ≠ []) (candidates : List String) :
    (∀ m ∈ rankTargets query candidates, m.tier ≠ .pathContainsName) ∨
      ∀ m ∈ rankTargets query candidates, m.tier = .pathContainsName := by
  rw [rankTargets_eq hquery]
  split
  next hnone =>
    right
    intro m hm
    simpa using List.filter_eq_nil_iff.1 hnone m hm
  next =>
    left
    intro m hm
    simpa using (List.mem_filter.1 hm).2

theorem rank_bounds_of_ne {tier : Tier} (h : tier ≠ .pathContainsName) :
    1 ≤ tier.rank ∧ tier.rank ≤ 5 := by
  cases tier <;> simp_all [Tier.rank]

/-- Where a query is nothing but a bare name, a candidate that contains it contains the query. -/
theorem tier_ne_of_eq_bareName (hwhole : normalize query.toList = bareName (normalize query.toList))
    {m : Match} (hm : m ∈ ownMatches query candidates) : m.tier ≠ .pathContainsName := by
  obtain ⟨-, htier⟩ := mem_ownMatches_iff.1 hm
  cases hprimary : primaryTier? (normalize query.toList) (normalize m.path.toList) with
  | some tier =>
    obtain rfl : tier = m.tier := by simpa [ownTier?_of_some hprimary] using htier
    intro hlast
    exact primaryTier?_ne (hlast ▸ hprimary)
  | none =>
    rw [ownTier?_of_none hprimary, ← hwhole] at htier
    obtain ⟨⟨-, hinside⟩, -⟩ := Option.ite_none_right_eq_some.1 htier
    have hsome := primaryTier?_ne_none_of_infix (Text.occursIn_iff.1 hinside)
    exact absurd hprimary hsome

/-- A reference resolves exactly if some candidate contains its bare name. The candidates that match
stand as they are written and in their order, either all in the first five tiers or all in the last,
and the last is not reached if the reference is nothing but a bare name. -/
theorem rankTargets_finds_bare_name (hname : bareName (normalize query.toList) ≠ [])
    (candidates : List String) :
    (rankTargets query candidates ≠ [] ↔
      ∃ path ∈ candidates, bareName (normalize query.toList) <:+: normalize path.toList) ∧
    ((findTarget? query candidates).isSome ↔ rankTargets query candidates ≠ []) ∧
    ((∀ m ∈ rankTargets query candidates, 1 ≤ m.tier.rank ∧ m.tier.rank ≤ 5) ∨
      ∀ m ∈ rankTargets query candidates, m.tier.rank = 6) ∧
    ((rankTargets query candidates).map Match.path).Sublist candidates ∧
    (normalize query.toList = bareName (normalize query.toList) →
      ∀ m ∈ rankTargets query candidates, m.tier.rank ≠ 6) := by
  have hquery : normalize query.toList ≠ [] := normalize_ne_nil_of_bareName hname
  refine ⟨?_, ?_, ?_, ?_, ?_⟩
  · rw [Ne, rankTargets_eq_nil_iff hquery]
    exact ownMatches_ne_nil_iff hname
  · rw [findTarget?, bestTarget?, Option.isSome_map, Option.isSome_iff_ne_none, Ne,
      best?_eq_none_iff]
  · rcases tiers_rankTargets hquery candidates with hprimary | hlast
    · exact .inl fun m hm => rank_bounds_of_ne (hprimary m hm)
    · exact .inr fun m hm => by rw [hlast m hm]; rfl
  · apply List.Sublist.trans _ (map_path_ownMatches_sublist query candidates)
    exact (rankTargets_sublist hquery).map Match.path
  · intro hwhole m hm
    have hne := tier_ne_of_eq_bareName hwhole ((rankTargets_sublist hquery).subset hm)
    have hrank := rank_bounds_of_ne hne
    omega

theorem session_is_reached_by_its_name :
    bareName (normalize "Session".toList) ≠ [] ∧
    normalize "Session".toList = bareName (normalize "Session".toList) ∧
    rankTargets "Session" Sample.sessions ≠ [] ∧
    ∀ m ∈ rankTargets "Session" Sample.sessions, m.tier.rank ≠ 6 := by
  have hname : bareName (normalize "Session".toList) ≠ [] := by decide
  have hwhole : normalize "Session".toList = bareName (normalize "Session".toList) := by
    decide
  obtain ⟨hfound, -, -, -, hlast⟩ := rankTargets_finds_bare_name hname Sample.sessions
  exact ⟨hname, hwhole, hfound.2 (by simp only [← Text.occursIn_iff]; decide),
    hlast hwhole⟩

end Gazetteer.Lookup
