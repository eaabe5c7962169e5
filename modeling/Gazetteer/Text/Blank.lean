import Gazetteer.Text.Span

/-!
# White space

The characters of the Unicode property White_Space, and texts without white space at their ends.
Neither the zero width space U+200B nor the byte order mark U+FEFF is white space.
-/

namespace Gazetteer.Text

/-- Characters of the property White_Space. -/
def blankSpans : List Span :=
  [(0x0009, 0x000D), (0x0020, 0x0020), (0x0085, 0x0085), (0x00A0, 0x00A0), (0x1680, 0x1680),
   (0x2000, 0x200A), (0x2028, 0x2029), (0x202F, 0x202F), (0x205F, 0x205F), (0x3000, 0x3000)]

def isBlank (c : Char) : Bool := covers blankSpans c.toNat

def trimStart (cs : List Char) : List Char := cs.dropWhile isBlank

def trimEnd (cs : List Char) : List Char := (cs.reverse.dropWhile isBlank).reverse

/-- The text without the white space at its two ends. -/
def trim (cs : List Char) : List Char := trimEnd (trimStart cs)

end Gazetteer.Text
