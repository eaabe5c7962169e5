import Gazetteer.Lookup.Name

/-!
# Target resolution

A loose file reference is matched against candidate paths in tiers. The best tier wins, and within a
tier the earliest candidate.
-/

namespace Gazetteer.Lookup

inductive Tier where
  /-- The paths are the same. -/
  | exactPath
  /-- The bare names are the same, and the candidate's directory contains the query's. -/
  | nameInQueryDirectory
  /-- The bare names are the same, and the query contains the candidate's directory. -/
  | nameInCandidateDirectory
  /-- The bare names are the same. -/
  | nameOnly
  /-- The candidate contains the query. -/
  | pathContainsQuery
  /-- The candidate contains the query's bare name. -/
  | pathContainsName
deriving DecidableEq, Repr

def Tier.rank : Tier → Nat
  | .exactPath => 1
  | .nameInQueryDirectory => 2
  | .nameInCandidateDirectory => 3
  | .nameOnly => 4
  | .pathContainsQuery => 5
  | .pathContainsName => 6

structure Match where
  path : String
  tier : Tier
deriving DecidableEq, Repr

/-- The tier of a candidate among the first five; both sides are normalized. -/
def primaryTier? (query candidate : List Char) : Option Tier :=
  if candidate = query then some .exactPath
  else if bareName candidate = bareName query then
    if Text.occursIn (Path.directory query) (Path.directory candidate) then
      some .nameInQueryDirectory
    else if Text.occursIn (Path.directory candidate) query then some .nameInCandidateDirectory
    else some .nameOnly
  else if Text.occursIn query candidate then some .pathContainsQuery
  else none

/-- Candidates that contain the bare name of the query, unless that name is empty. -/
def fallbackTargets (query : List Char) (candidates : List String) : List Match :=
  if bareName query = [] then []
  else
    (candidates.filter fun path => Text.occursIn (bareName query) (normalize path.toList)).map
      (⟨·, .pathContainsName⟩)

/-- The candidates that match a query, in order, with their tiers. The last tier is tried only if
nothing matches in another. -/
def rankTargets (query : String) (candidates : List String) : List Match :=
  let query := normalize query.toList
  if query = [] then []
  else
    let primary := candidates.filterMap fun path =>
      (primaryTier? query (normalize path.toList)).map (⟨path, ·⟩)
    if primary.isEmpty then fallbackTargets query candidates else primary

/-- The earliest match of the best tier. -/
def best? : List Match → Option Match
  | [] => none
  | m :: rest =>
    match best? rest with
    | none => some m
    | some b => if b.tier.rank < m.tier.rank then some b else some m

def bestTarget? (query : String) (candidates : List String) : Option Match :=
  best? (rankTargets query candidates)

/-- The candidate that a query refers to. -/
def findTarget? (query : String) (candidates : List String) : Option String :=
  (bestTarget? query candidates).map Match.path

example : findTarget? "quota/index.ts" ["src/index.ts", "src/services/quota/index.ts"] =
    some "src/services/quota/index.ts" := by
  decide

end Gazetteer.Lookup
