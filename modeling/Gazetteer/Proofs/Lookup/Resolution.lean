import Mathlib.Data.List.Basic
import Gazetteer.Lookup.Target

/-!
# What a reference resolves to

Candidates are ranked in two rounds: the last tier is tried only if nothing matches in another. It
is also the worst tier, so one round that gives each candidate a tier of its own picks the same
candidate, the earliest of the best tier (`findTarget?_is_earliest_best`).
-/

namespace Gazetteer.Lookup

/-! ## The earliest of the best tier -/

section Best

/-- The better of the bests of two lists that stand one after the other. -/
def better? : Option Match → Option Match → Option Match
  | none, second => second
  | first, none => first
  | some first, some second =>
    if second.tier.rank < first.tier.rank then some second else some first

variable {m : Match} {ms : List Match}

theorem best?_cons (m : Match) (rest : List Match) :
    best? (m :: rest) = better? (some m) (best? rest) := by
  rw [best?]
  cases best? rest <;> rfl

theorem better?_assoc (a b c : Option Match) :
    better? (better? a b) c = better? a (better? b c) := by
  cases a <;> cases b <;> cases c <;> grind [better?]

theorem best?_append (earlier later : List Match) :
    best? (earlier ++ later) = better? (best? earlier) (best? later) := by
  induction earlier with
  | nil => rfl
  | cons first earlier ih => rw [List.cons_append, best?_cons, best?_cons, ih, better?_assoc]

theorem best?_eq_none_iff : best? ms = none ↔ ms = [] := by
  cases ms with
  | nil => simp [best?]
  | cons first rest =>
    rw [best?_cons]
    cases best? rest with
    | none => simp [better?]
    | some b =>
      simp only [better?]
      split <;> simp

theorem mem_of_best? (h : best? ms = some m) : m ∈ ms := by
  induction ms with
  | nil => cases h
  | cons first rest ih =>
    rw [best?] at h
    split at h
    · cases h
      exact List.mem_cons_self
    next b hbest =>
      split at h
      · cases h
        exact List.mem_cons_of_mem _ (ih hbest)
      · cases h
        exact List.mem_cons_self

theorem best?_append_cons {earlier later : List Match}
    (hearlier : ∀ other ∈ earlier, m.tier.rank < other.tier.rank)
    (hlater : ∀ other ∈ later, m.tier.rank ≤ other.tier.rank) :
    best? (earlier ++ m :: later) = some m := by
  have hrest : best? (m :: later) = some m := by
    rw [best?_cons]
    cases hbest : best? later with
    | none => rfl
    | some b => exact if_neg (Nat.not_lt_of_le (hlater b (mem_of_best? hbest)))
  rw [best?_append, hrest]
  cases hbest : best? earlier with
  | none => rfl
  | some b => exact if_pos (hearlier b (mem_of_best? hbest))

theorem rank_le_of_mem {earlier later : List Match} {other : Match}
    (hearlier : ∀ other ∈ earlier, m.tier.rank < other.tier.rank)
    (hlater : ∀ other ∈ later, m.tier.rank ≤ other.tier.rank)
    (h : other ∈ earlier ++ m :: later) : m.tier.rank ≤ other.tier.rank := by
  rcases List.mem_append.1 h with h | h
  · exact Nat.le_of_lt (hearlier other h)
  · rcases List.mem_cons.1 h with rfl | h
    · exact Nat.le_refl _
    · exact hlater other h

/-- The best match is the earliest of those with the lowest rank. -/
theorem best?_eq_some_iff : best? ms = some m ↔ ∃ earlier later, ms = earlier ++ m :: later ∧
    (∀ other ∈ earlier, m.tier.rank < other.tier.rank) ∧
      ∀ other ∈ later, m.tier.rank ≤ other.tier.rank := by
  constructor
  · intro h
    induction ms generalizing m with
    | nil => cases h
    | cons first rest ih =>
      rw [best?_cons] at h
      cases hbest : best? rest with
      | none =>
        rw [hbest] at h
        obtain rfl : first = m := Option.some.inj h
        rw [best?_eq_none_iff.1 hbest]
        exact ⟨[], [], rfl, by simp, by simp⟩
      | some b =>
        obtain ⟨earlier, later, rfl, hearlier, hlater⟩ := ih hbest
        rw [hbest, better?] at h
        split at h
        next hlt =>
          obtain rfl : b = m := Option.some.inj h
          exact ⟨first :: earlier, later, rfl, List.forall_mem_cons.2 ⟨hlt, hearlier⟩, hlater⟩
        next hle =>
          obtain rfl : first = m := Option.some.inj h
          refine ⟨[], _, rfl, by simp, fun other hother => ?_⟩
          exact Nat.le_trans (Nat.le_of_not_lt hle) (rank_le_of_mem hearlier hlater hother)
  · rintro ⟨earlier, later, rfl, hearlier, hlater⟩
    exact best?_append_cons hearlier hlater

/-- Matches that are worse than one that stays can be left out. -/
theorem best?_filter {p : Match → Bool} (hne : ms.filter p ≠ [])
    (hworse : ∀ a ∈ ms, ∀ b ∈ ms, p a = true → p b = false → a.tier.rank < b.tier.rank) :
    best? (ms.filter p) = best? ms := by
  cases hbest : best? ms with
  | none =>
    rw [best?_eq_none_iff.1 hbest] at hne
    exact absurd rfl hne
  | some m =>
    obtain ⟨earlier, later, rfl, hearlier, hlater⟩ := best?_eq_some_iff.1 hbest
    obtain ⟨x, hx⟩ := List.exists_mem_of_ne_nil _ hne
    obtain ⟨hmem, hstays⟩ := List.mem_filter.1 hx
    have hm : p m = true := by
      by_contra hm
      have hlt := hworse x hmem m (by simp) hstays (by simpa using hm)
      exact Nat.not_lt_of_le (rank_le_of_mem hearlier hlater hmem) hlt
    rw [List.filter_append, List.filter_cons_of_pos hm]
    exact best?_append_cons (fun other hother => hearlier other (List.mem_filter.1 hother).1)
      fun other hother => hlater other (List.mem_filter.1 hother).1

/-- One more match leaves the best as it is or becomes the best. -/
theorem best?_insert (earlier later : List Match) (m : Match) :
    best? (earlier ++ m :: later) = best? (earlier ++ later) ∨
      best? (earlier ++ m :: later) = some m := by
  rw [best?_append, best?_append, best?_cons]
  cases best? earlier <;> cases best? later <;> grind [better?]

end Best

section Candidates

variable {query : String} {candidates : List String}

/-- What matches a query is one of the candidates. -/
theorem path_mem_of_mem_rankTargets {m : Match} (h : m ∈ rankTargets query candidates) :
    m.path ∈ candidates := by
  unfold rankTargets at h
  simp only at h
  split at h
  · cases h
  split at h
  · unfold fallbackTargets at h
    split at h
    · cases h
    · obtain ⟨path, hpath, rfl⟩ := List.mem_map.1 h
      exact (List.mem_filter.1 hpath).1
  · obtain ⟨path, hpath, htier⟩ := List.mem_filterMap.1 h
    obtain ⟨tier, -, rfl⟩ := Option.map_eq_some_iff.1 htier
    exact hpath

theorem path_mem_of_bestTarget? {m : Match} (h : bestTarget? query candidates = some m) :
    m.path ∈ candidates := path_mem_of_mem_rankTargets (mem_of_best? h)

end Candidates

/-! ## A tier for each candidate -/

/-- The tier of a candidate when no other candidate is looked at. -/
def ownTier? (query path : String) : Option Tier :=
  let query := normalize query.toList
  let candidate := normalize path.toList
  (primaryTier? query candidate).or
    (if bareName query ≠ [] ∧ Text.occursIn (bareName query) candidate then some .pathContainsName
      else none)

/-- The candidates that have a tier of their own, in order. -/
def ownMatches (query : String) (candidates : List String) : List Match :=
  candidates.filterMap fun path => (ownTier? query path).map (Match.mk path)

/-- Whether a path is the earliest candidate of the best tier that any has. -/
def IsEarliestBest (query : String) (candidates : List String) (path : String) : Prop :=
  ∃ earlier later tier, candidates = earlier ++ path :: later ∧ ownTier? query path = some tier ∧
    (∀ other ∈ earlier, ∀ t, ownTier? query other = some t → tier.rank < t.rank) ∧
      ∀ other ∈ later, ∀ t, ownTier? query other = some t → tier.rank ≤ t.rank

variable {query path : String} {candidates : List String}

theorem ownTier?_of_some {tier : Tier}
    (h : primaryTier? (normalize query.toList) (normalize path.toList) = some tier) :
    ownTier? query path = some tier := by
  rw [ownTier?]
  simp only [h, Option.some_or]

theorem ownTier?_of_none
    (h : primaryTier? (normalize query.toList) (normalize path.toList) = none) :
    ownTier? query path = if bareName (normalize query.toList) ≠ [] ∧
      Text.occursIn (bareName (normalize query.toList)) (normalize path.toList) then
        some .pathContainsName else none := by
  rw [ownTier?]
  simp only [h, Option.none_or]

theorem primaryTier?_ne {query candidate : List Char} :
    primaryTier? query candidate ≠ some .pathContainsName := by
  unfold primaryTier?
  split
  · simp
  split
  · split
    · simp
    split <;> simp
  split <;> simp

theorem rank_lt_of_ne {tier : Tier} (h : tier ≠ .pathContainsName) :
    tier.rank < Tier.rank .pathContainsName := by
  cases tier <;> simp_all [Tier.rank]

theorem ownMatches_append (earlier later : List String) :
    ownMatches query (earlier ++ later) = ownMatches query earlier ++ ownMatches query later :=
  List.filterMap_append

theorem ownMatches_cons_of_some {tier : Tier} (h : ownTier? query path = some tier)
    (later : List String) :
    ownMatches query (path :: later) = ⟨path, tier⟩ :: ownMatches query later :=
  List.filterMap_cons_some (by rw [h]; rfl)

theorem ownMatches_cons_of_none (h : ownTier? query path = none) (later : List String) :
    ownMatches query (path :: later) = ownMatches query later :=
  List.filterMap_cons_none (by rw [h]; rfl)

theorem mem_ownMatches_iff {m : Match} : m ∈ ownMatches query candidates ↔
    m.path ∈ candidates ∧ ownTier? query m.path = some m.tier := by
  rw [ownMatches, List.mem_filterMap]
  constructor
  · rintro ⟨path, hpath, hown⟩
    obtain ⟨tier, htier, rfl⟩ := Option.map_eq_some_iff.1 hown
    exact ⟨hpath, htier⟩
  · rintro ⟨hpath, htier⟩
    exact ⟨m.path, hpath, by rw [htier]; rfl⟩

/-- The first round finds the matches that are not in the last tier. -/
theorem filter_ownMatches (query : String) (candidates : List String) :
    (ownMatches query candidates).filter (·.tier ≠ .pathContainsName) =
      candidates.filterMap fun path =>
        (primaryTier? (normalize query.toList) (normalize path.toList)).map (Match.mk path) := by
  rw [ownMatches, List.filter_filterMap]
  refine List.filterMap_congr fun path _ => ?_
  cases htier : primaryTier? (normalize query.toList) (normalize path.toList) with
  | some tier =>
    have hne : tier ≠ .pathContainsName := fun h => primaryTier?_ne (h ▸ htier)
    rw [ownTier?_of_some htier]
    simp [hne]
  | none =>
    rw [ownTier?_of_none htier]
    split <;> simp

/-- The second round finds all matches if the first finds none. -/
theorem fallbackTargets_eq (h : ∀ path ∈ candidates,
      primaryTier? (normalize query.toList) (normalize path.toList) = none) :
    fallbackTargets (normalize query.toList) candidates = ownMatches query candidates := by
  have hown : ownMatches query candidates = candidates.filterMap fun path =>
      if bareName (normalize query.toList) ≠ [] ∧
          Text.occursIn (bareName (normalize query.toList)) (normalize path.toList) then
        some ⟨path, .pathContainsName⟩ else none := by
    refine List.filterMap_congr fun path hpath => ?_
    rw [ownTier?_of_none (h path hpath)]
    split <;> rfl
  unfold fallbackTargets
  rw [hown]
  split
  next hname => simp [hname]
  next hname =>
    rw [← List.filterMap_eq_map, List.filterMap_filter]
    refine List.filterMap_congr fun path _ => ?_
    simp [hname]

/-- The two rounds of ranking take the matches of the last tier only if there are no others. -/
theorem rankTargets_eq (hquery : normalize query.toList ≠ []) (candidates : List String) :
    rankTargets query candidates =
      if (ownMatches query candidates).filter (·.tier ≠ .pathContainsName) = [] then
        ownMatches query candidates
      else (ownMatches query candidates).filter (·.tier ≠ .pathContainsName) := by
  unfold rankTargets
  simp only [hquery, if_false]
  rw [← filter_ownMatches]
  simp only [List.isEmpty_iff]
  split
  next hempty =>
    rw [filter_ownMatches] at hempty
    refine fallbackTargets_eq fun path hpath => ?_
    simpa using List.filterMap_eq_nil_iff.1 hempty path hpath
  · rfl

/-- The two rounds of ranking pick the match that a single one picks. -/
theorem best?_rankTargets (hquery : normalize query.toList ≠ []) :
    best? (rankTargets query candidates) = best? (ownMatches query candidates) := by
  rw [rankTargets_eq hquery]
  split
  · rfl
  next hne =>
    refine best?_filter hne fun a _ b _ ha hb => ?_
    have hlast : b.tier = .pathContainsName := by simpa using hb
    rw [hlast]
    exact rank_lt_of_ne (by simpa using ha)

theorem map_best?_ownMatches_iff :
    (best? (ownMatches query candidates)).map Match.path = some path ↔
      IsEarliestBest query candidates path := by
  constructor
  · intro h
    obtain ⟨m, hm, rfl⟩ := Option.map_eq_some_iff.1 h
    obtain ⟨better, worse, hsplit, hbetter, hworse⟩ := best?_eq_some_iff.1 hm
    obtain ⟨before, rest, rfl, rfl, hrest⟩ := List.filterMap_eq_append_iff.1 hsplit
    obtain ⟨between, path, later, rfl, hbetween, hpath, rfl⟩ := List.filterMap_eq_cons_iff.1 hrest
    obtain ⟨tier, htier, rfl⟩ := Option.map_eq_some_iff.1 hpath
    refine ⟨before ++ between, later, tier, by simp, htier, fun other hother t ht => ?_, ?_⟩
    · rcases List.mem_append.1 hother with hother | hother
      · exact hbetter ⟨other, t⟩ (mem_ownMatches_iff.2 ⟨hother, ht⟩)
      · have hnone := hbetween other hother
        rw [ht] at hnone
        cases hnone
    · intro other hother t ht
      exact hworse ⟨other, t⟩ (mem_ownMatches_iff.2 ⟨hother, ht⟩)
  · rintro ⟨earlier, later, tier, rfl, htier, hearlier, hlater⟩
    have hbest : best? (ownMatches query (earlier ++ path :: later)) = some ⟨path, tier⟩ := by
      rw [ownMatches_append, ownMatches_cons_of_some htier]
      refine best?_append_cons (fun m hm => ?_) fun m hm => ?_
      · obtain ⟨hother, ht⟩ := mem_ownMatches_iff.1 hm
        exact hearlier m.path hother m.tier ht
      · obtain ⟨hother, ht⟩ := mem_ownMatches_iff.1 hm
        exact hlater m.path hother m.tier ht
    rw [hbest]
    rfl

theorem best?_ownMatches_eq_none_iff : best? (ownMatches query candidates) = none ↔
    ∀ path ∈ candidates, ownTier? query path = none := by
  rw [best?_eq_none_iff, ownMatches, List.filterMap_eq_nil_iff]
  simp

theorem findTarget?_eq (hquery : normalize query.toList ≠ []) (candidates : List String) :
    findTarget? query candidates = (best? (ownMatches query candidates)).map Match.path := by
  rw [findTarget?, bestTarget?, best?_rankTargets hquery]

theorem findTarget?_eq_some_iff (hquery : normalize query.toList ≠ []) :
    findTarget? query candidates = some path ↔ IsEarliestBest query candidates path := by
  rw [findTarget?_eq hquery]
  exact map_best?_ownMatches_iff

theorem findTarget?_insert (hquery : normalize query.toList ≠ []) (earlier later : List String)
    (inserted : String) :
    findTarget? query (earlier ++ inserted :: later) = findTarget? query (earlier ++ later) ∨
      findTarget? query (earlier ++ inserted :: later) = some inserted := by
  rw [findTarget?_eq hquery, findTarget?_eq hquery, ownMatches_append, ownMatches_append]
  cases htier : ownTier? query inserted with
  | none =>
    rw [ownMatches_cons_of_none htier]
    exact .inl rfl
  | some tier =>
    rw [ownMatches_cons_of_some htier]
    rcases best?_insert (ownMatches query earlier) (ownMatches query later) ⟨inserted, tier⟩ with
      h | h
    · exact .inl (congrArg (Option.map Match.path) h)
    · exact .inr (congrArg (Option.map Match.path) h)

/-- A reference resolves to the earliest candidate of the best tier, each candidate being given its
tier by itself, and to nothing if no candidate has one. So a further candidate is what the reference
resolves to, or leaves that as it was. -/
theorem findTarget?_is_earliest_best (hquery : normalize query.toList ≠ [])
    (candidates : List String) :
    (∀ path, findTarget? query candidates = some path ↔ IsEarliestBest query candidates path) ∧
    (findTarget? query candidates = none ↔ ∀ path ∈ candidates, ownTier? query path = none) ∧
    findTarget? query candidates = (best? (ownMatches query candidates)).map Match.path ∧
    ∀ earlier later inserted, candidates = earlier ++ later →
      findTarget? query (earlier ++ inserted :: later) = findTarget? query candidates ∨
        findTarget? query (earlier ++ inserted :: later) = some inserted := by
  refine ⟨fun path => findTarget?_eq_some_iff hquery, ?_, findTarget?_eq hquery candidates, ?_⟩
  · rw [findTarget?_eq hquery, Option.map_eq_none_iff]
    exact best?_ownMatches_eq_none_iff
  · rintro earlier later inserted rfl
    exact findTarget?_insert hquery earlier later inserted

def Sample.sessions : List String := ["src/hooks/useSession.ts", "src/api/session-client.ts"]

theorem session_is_found_by_its_name : normalize "lib/session.js".toList ≠ [] ∧
    IsEarliestBest "lib/session.js" Sample.sessions "src/hooks/useSession.ts" ∧
    (findTarget? "lib/session.js" ("src/session.ts" :: Sample.sessions) =
        findTarget? "lib/session.js" Sample.sessions ∨
      findTarget? "lib/session.js" ("src/session.ts" :: Sample.sessions) =
        some "src/session.ts") := by
  have hquery : normalize "lib/session.js".toList ≠ [] := by decide
  obtain ⟨hbest, -, -, hinsert⟩ := findTarget?_is_earliest_best hquery Sample.sessions
  exact ⟨hquery, (hbest _).1 (by decide), hinsert [] Sample.sessions "src/session.ts" rfl⟩

/-! ## Paths that refer to themselves -/

theorem findTarget?_congr {other : String}
    (h : normalize query.toList = normalize other.toList) (candidates : List String) :
    findTarget? query candidates = findTarget? other candidates := by
  unfold findTarget? bestTarget? rankTargets
  rw [h]

theorem rank_pos (t : Tier) : t = .exactPath ∨ 1 < t.rank := by cases t <;> simp [Tier.rank]

theorem ownTier?_self (path : String) : ownTier? path path = some .exactPath :=
  ownTier?_of_some (if_pos rfl)

theorem eq_of_ownTier?_exactPath (h : ownTier? query path = some .exactPath) :
    normalize path.toList = normalize query.toList := by
  cases hprimary : primaryTier? (normalize query.toList) (normalize path.toList) with
  | some tier =>
    obtain rfl : tier = .exactPath := by simpa [ownTier?_of_some hprimary] using h
    by_contra hne
    simp only [primaryTier?, hne, if_false] at hprimary
    split at hprimary
    · split at hprimary
      · cases hprimary
      · split at hprimary <;> cases hprimary
    · split at hprimary <;> cases hprimary
  | none =>
    rw [ownTier?_of_none hprimary] at h
    split at h <;> cases h

/-- A path refers to itself if no earlier one is the same once both are normalised. -/
theorem findTarget?_self {earlier later : List String}
    (hne : normalize path.toList ≠ [])
    (hearlier : ∀ other ∈ earlier, normalize other.toList ≠ normalize path.toList) :
    findTarget? path (earlier ++ path :: later) = some path := by
  refine (findTarget?_eq_some_iff hne).2
    ⟨earlier, later, .exactPath, rfl, ownTier?_self path, ?_, ?_⟩
  · intro other hother t ht
    refine (rank_pos t).resolve_left fun hexact => hearlier other hother ?_
    exact eq_of_ownTier?_exactPath (hexact ▸ ht)
  · intro other _ t _
    rcases rank_pos t with rfl | hlt
    · exact Nat.le_refl _
    · exact Nat.le_of_lt hlt

end Gazetteer.Lookup
