import Gazetteer.Text.CaseTable

/-!
# Letter case

The full case mappings of Unicode. Lower-casing sends each character to its lower-case form with two
exceptions: `İ` gives an `i` and a dot above, and `Σ` gives `ς` at the end of a word and `σ`
elsewhere. Upper-casing a single character may give up to three characters.
-/

namespace Gazetteer.Text

/-- Whether, past characters that do not interrupt a word, there is a letter. -/
def meetsLetter : List Char → Bool
  | [] => false
  | c :: cs =>
    if covers caseIgnorableSpans c.toNat then meetsLetter cs else covers casedSpans c.toNat

/-- The lower-case form of a character between the characters before it, nearest first, and those
after it. -/
def lowerAt (before : List Char) (c : Char) (after : List Char) : List Char :=
  if c = 'Σ' then [if meetsLetter before && !meetsLetter after then 'ς' else 'σ']
  else if c = 'İ' then ['i', '\u0307']
  else [((imageOf? lowerRuns c.toNat).map Char.ofNat).getD c]

/-- The lower-case form of `cs`, which follows the characters of `before`, nearest first. -/
def lowerAfter (before : List Char) : List Char → List Char
  | [] => []
  | c :: cs => lowerAt before c cs ++ lowerAfter (c :: before) cs

def lower (cs : List Char) : List Char := lowerAfter [] cs

theorem lower_eq_nil_iff {cs : List Char} : lower cs = [] ↔ cs = [] := by
  cases cs with
  | nil => simp [lower, lowerAfter]
  | cons c cs =>
    have hne : lowerAt [] c cs ≠ [] := by
      unfold lowerAt
      split
      · simp
      · split <;> simp
    simp [lower, lowerAfter, hne]

/-- The upper-case form of one character. -/
def upperChar (c : Char) : List Char :=
  match upperWide.lookup c.toNat with
  | some codes => codes.map Char.ofNat
  | none => [((imageOf? upperRuns c.toNat).map Char.ofNat).getD c]

/-- On a text of ASCII characters the full mapping is core's `Char.toLower`. -/
theorem lowerAt_of_isAscii {before after : List Char} {c : Char} (h : c.toNat < 128) :
    lowerAt before c after = [c.toLower] := by
  have all : ∀ n, n < 128 →
      Char.ofNat n ≠ 'Σ' ∧ Char.ofNat n ≠ 'İ' ∧
        ((imageOf? lowerRuns n).map Char.ofNat).getD (Char.ofNat n) = (Char.ofNat n).toLower := by
    decide
  have := all c.toNat h
  rw [Char.ofNat_toNat] at this
  simp [lowerAt, this.1, this.2.1, this.2.2]

end Gazetteer.Text
