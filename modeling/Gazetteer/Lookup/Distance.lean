/-!
# Edit distance

The number of insertions, deletions and substitutions of single characters that turn one text into
another, computed a row at a time. `distances_eq` ties the rows to the plain recursion `cost`.
-/

namespace Gazetteer.Lookup

/-- The distances of the suffixes of `a`, longest first, to a text with `c` put in front, from their
distances to the text itself. -/
def nextRow (c : Char) : (a : List Char) → (row : List Nat) → List Nat
  | x :: a, here :: after =>
    match nextRow c a after with
    | [] => []
    | below :: rest =>
      let kept := after.headD 0 + if x = c then 0 else 1
      min (min (here + 1) (below + 1)) kept :: below :: rest
  | _, row => row.map (· + 1)

/-- The distances of the suffixes of `a`, longest first, to `b`. -/
def distances (a : List Char) : (b : List Char) → List Nat
  | [] => (List.range (a.length + 1)).reverse
  | c :: b => nextRow c a (distances a b)

/-- The least number of edits that turn `a` into `b`. -/
def distance (a b : List Char) : Nat := (distances a b).headD 0

/-- The plain recursion for the least number of edits. -/
def cost : (a b : List Char) → Nat
  | [], b => b.length
  | a, [] => a.length
  | x :: a, c :: b =>
    min (min (cost (x :: a) b + 1) (cost a (c :: b) + 1)) (cost a b + if x = c then 0 else 1)

/-- A list and its suffixes, longest first. -/
def suffixes : List Char → List (List Char)
  | [] => [[]]
  | x :: a => (x :: a) :: suffixes a

theorem suffixes_eq_cons (a : List Char) : ∃ rest, suffixes a = a :: rest := by
  cases a <;> exact ⟨_, rfl⟩

theorem cost_nil_right (a : List Char) : cost a [] = a.length := by
  cases a <;> simp [cost]

theorem nextRow_costs (c : Char) (a b : List Char) :
    nextRow c a ((suffixes a).map fun s => cost s b) =
      (suffixes a).map fun s => cost s (c :: b) := by
  induction a with
  | nil => simp [suffixes, nextRow, cost]
  | cons x a ih =>
    obtain ⟨rest, hrest⟩ := suffixes_eq_cons a
    rw [suffixes, List.map_cons, nextRow, ih, hrest]
    simp [cost]

theorem distances_eq (a b : List Char) : distances a b = (suffixes a).map fun s => cost s b := by
  induction b with
  | nil =>
    rw [distances]
    induction a with
    | nil => simp [suffixes, cost]
    | cons x a ih =>
      rw [suffixes, List.map_cons, ← ih, List.length_cons, List.range_succ (n := a.length + 1)]
      simp [cost]
  | cons c b ih => rw [distances, ih, nextRow_costs]

theorem distance_eq_cost (a b : List Char) : distance a b = cost a b := by
  obtain ⟨rest, hrest⟩ := suffixes_eq_cons a
  rw [distance, distances_eq, hrest]
  rfl

end Gazetteer.Lookup
