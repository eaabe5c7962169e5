import Gazetteer.Lookup.Distance
import Gazetteer.Lookup.Name

/-!
# Similar names

Candidates ranked by closeness to a query. A candidate that contains the query, or that the query
contains, has score 0; any other has its edit distance. Equal scores keep the order of the input.
-/

namespace Gazetteer.Lookup

structure SimilarOptions where
  maxDistance : Nat
  limit : Nat
  /-- Whether case, white space around the names and extensions count for nothing. -/
  normalized : Bool
deriving DecidableEq, Repr

def defaultMaxDistance : Nat := 3

def defaultSimilarLimit : Nat := 5

/-- The cut-off for a single suggestion made with confidence. -/
def bestMatchMaxDistance : Nat := 2

def SimilarOptions.default : SimilarOptions := ⟨defaultMaxDistance, defaultSimilarLimit, true⟩

def SimilarOptions.bestMatch : SimilarOptions := ⟨bestMatchMaxDistance, 1, true⟩

structure Scored (α : Type) where
  item : α
  score : Nat
deriving DecidableEq, Repr

def queryKey (options : SimilarOptions) (query : String) : List Char :=
  if options.normalized then Text.lower (Text.trim query.toList) else query.toList

def candidateKey (options : SimilarOptions) (name : String) : List Char :=
  if options.normalized then Text.lower (withoutExtension (Text.trim name.toList)) else name.toList

def score (query key : List Char) : Nat :=
  if Text.occursIn query key || Text.occursIn key query then 0 else distance query key

/-- The candidates with a name and near enough to the query, in the order of the input. -/
def survivors (query : String) (candidates : List α) (options : SimilarOptions)
    (name : α → String) : List (Scored α) :=
  candidates.filterMap fun item =>
    let key := candidateKey options (name item)
    let s := score (queryKey options query) key
    if key ≠ [] ∧ s ≤ options.maxDistance then some ⟨item, s⟩ else none

/-- The nearest candidates, nearest first, at most `options.limit` of them. -/
def similarBy (query : String) (candidates : List α) (options : SimilarOptions)
    (name : α → String) : List (Scored α) :=
  if queryKey options query = [] then []
  else
    ((survivors query candidates options name).mergeSort fun a b => a.score ≤ b.score).take
      options.limit

def similar (query : String) (candidates : List String) (options : SimilarOptions) : List String :=
  (similarBy query candidates options id).map Scored.item

/-- The nearest candidate, if one is near enough to suggest it alone. -/
def bestMatchBy? (query : String) (candidates : List α) (name : α → String) : Option α :=
  (similarBy query candidates .bestMatch name).head?.map Scored.item

def bestMatch? (query : String) (candidates : List String) : Option String :=
  bestMatchBy? query candidates id

example : similar "buton" ["Modal.tsx", "Button.tsx"] .default = ["Button.tsx"] := by decide +kernel

end Gazetteer.Lookup
