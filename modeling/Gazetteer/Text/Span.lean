/-!
# Classes and mappings of characters by code point

A class of characters is an increasing list of disjoint spans of code points, a case mapping an
increasing list of runs. Both are searched from the left, and the search ends at the first span or
run that starts beyond the code point, so plain letters are settled at once.
-/

namespace Gazetteer.Text

/-- A closed interval of code points. -/
abbrev Span := Nat × Nat

/-- Whether a code point lies in one of the spans. -/
def covers : List Span → Nat → Bool
  | [], _ => false
  | (lo, hi) :: rest, n => if n < lo then false else if n ≤ hi then true else covers rest n

/-- The code points `first`, `first + step`, …, `last`, sent in order to those from `image` on. -/
structure CaseRun where
  first : Nat
  last : Nat
  step : Nat
  image : Nat

/-- The code point that the runs send `n` to, if one of them holds it. -/
def imageOf? : List CaseRun → Nat → Option Nat
  | [], _ => none
  | r :: rest, n =>
    if n < r.first then none
    else if n ≤ r.last ∧ (n - r.first) % r.step = 0 then some (r.image + (n - r.first))
    else imageOf? rest n

end Gazetteer.Text
