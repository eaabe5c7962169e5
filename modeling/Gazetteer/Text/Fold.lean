import Gazetteer.Text.Blank
import Gazetteer.Text.CanonicalTable
import Gazetteer.Text.Case
import Gazetteer.Text.MarkTable

/-!
# Folding

Two spellings that differ in case, in diacritics or in white space around them fold to the same
text. Folding trims, decomposes every character canonically, drops marks and lower-cases. It does
not recompose, so a Hangul syllable stays a sequence of jamo. The canonical order of marks does not
matter, because only marks are ever reordered and none survives.
-/

namespace Gazetteer.Text

/-- The conjoining jamo of a Hangul syllable, given by its place among the 11172 syllables: leading
consonant, vowel and, unless the place is a multiple of 28, trailing consonant. -/
def jamo (place : Nat) : List Nat :=
  let consonant := 0x1100 + place / 588
  let vowel := 0x1161 + place % 588 / 28
  if place % 28 = 0 then [consonant, vowel] else [consonant, vowel, 0x11A7 + place % 28]

/-- The full canonical decomposition of a character. -/
def decompose (c : Char) : List Char :=
  let n := c.toNat
  if n < 0xC0 then [c]
  else if 0xAC00 ≤ n ∧ n ≤ 0xD7A3 then (jamo (n - 0xAC00)).map Char.ofNat
  else
    match canonicalDecompositions.lookup n with
    | some codes => codes.map Char.ofNat
    | none => [c]

def isMark (c : Char) : Bool := covers markSpans c.toNat

/-- The case- and diacritic-insensitive form of a text. -/
def fold (cs : List Char) : List Char :=
  lower (((trim cs).flatMap decompose).filter fun c => !isMark c)

example : fold " Éclair ".toList = "eclair".toList := by decide

example : fold "ΟΔΟΣ".toList = "οδος".toList := by decide +kernel

end Gazetteer.Text
