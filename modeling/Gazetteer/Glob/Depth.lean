import Gazetteer.Glob.Match

/-!
# Depth of patterns

A pattern stands for a regular expression, and an expression that nests too deeply is not matched at
all. Each group, choice, repetition and class is a level, and so are several parts in sequence.
-/

namespace Gazetteer.Glob

/-- How many parts a piece of an expression has in sequence, and how many levels its deepest part
has. -/
structure Shape where
  parts : Nat
  depth : Nat
deriving DecidableEq, Repr

namespace Shape

def nothing : Shape := ⟨0, 0⟩

/-- A single part with so many levels. -/
def single (depth : Nat) : Shape := ⟨1, depth⟩

def append (a b : Shape) : Shape := ⟨a.parts + b.parts, max a.depth b.depth⟩

/-- The levels of the whole piece. -/
def levels (s : Shape) : Nat := if 2 ≤ s.parts then s.depth + 1 else s.depth

/-- A group around a choice between pieces; one that has nothing to choose from is left out. -/
def group : List Shape → Shape
  | [] => nothing
  | [s] => single (s.levels + 1)
  | s :: others => single (others.foldl (fun n o => max n o.levels) s.levels + 2)

end Shape

mutual

def tokenShape (rules : Rules) : Token → Shape
  | .literal c => ⟨(String.utf8EncodeChar c).length, 0⟩
  | .any => .single (if rules.wildSlash then 0 else 1)
  | .star => .single (if rules.wildSlash then 1 else 2)
  | .leading | .between => .single 4
  | .beneath => ⟨2, 1⟩
  | .oneOf _ ranges =>
    .single (if 2 ≤ (ranges.flatMap fun (lo, hi) => byteRanges lo hi).length then 2 else 1)
  | .alternates branches => .group (branchShapes rules branches)

/-- The shapes of the branches that say something. -/
def branchShapes (rules : Rules) : List (List Token) → List Shape
  | [] => []
  | branch :: branches =>
    let s := tokensShape rules branch
    if s.parts = 0 then branchShapes rules branches else s :: branchShapes rules branches

def tokensShape (rules : Rules) : List Token → Shape
  | [] => .nothing
  | t :: ts => (tokenShape rules t).append (tokensShape rules ts)

end

/-- More levels than these are too many. -/
def maxLevels : Nat := 250

/-- Whether a pattern nests too deeply to be matched. The whole is a level of its own. -/
def isTooDeep (rules : Rules) (glob : Glob) : Bool :=
  maxLevels < (tokensShape rules glob.tokens).depth + 1

/-- What turns patterns into machines that match them. It compiles no pattern that nests too deeply,
and may refuse others, such as those that need too large a machine. -/
structure Engine (rules : Rules) where
  compiles : Glob → Bool
  shallow : ∀ g, compiles g = true → g.isTooDeep rules = false

theorem Engine.compiles_of_isTooDeep {rules : Rules} (engine : Engine rules) {g : Glob}
    (h : g.isTooDeep rules = true) : engine.compiles g = false := by
  rw [Bool.eq_false_iff]
  intro hcompiled
  rw [engine.shallow g hcompiled] at h
  cases h

/-- The engine that refuses no others. -/
def Engine.ofDepth (rules : Rules) : Engine rules where
  compiles g := !g.isTooDeep rules
  shallow g h := by simpa using h

example :
    (read "a/\x7b\x7bb\x7d,c*\x7d").toOption.map (fun g => tokensShape ⟨true, true⟩ g.tokens) =
      some ⟨3, 4⟩ := by
  decide +kernel

end Gazetteer.Glob
