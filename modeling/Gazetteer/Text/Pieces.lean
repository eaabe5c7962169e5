/-!
# Pieces of a text

Cutting texts at a separator and looking for one text inside another. `occursIn_iff` ties the
search to the relation that one list stands inside another.
-/

namespace Gazetteer.Text

/-- The pieces between separators; there is one more piece than there are separators. -/
def splitOn (sep : Char) : List Char → List (List Char)
  | [] => [[]]
  | c :: cs =>
    if c = sep then [] :: splitOn sep cs
    else
      match splitOn sep cs with
      | [] => [[c]]
      | piece :: pieces => (c :: piece) :: pieces

/-- The pieces written one after the other with the separator between them. -/
def joinWith (sep : List Char) : List (List Char) → List Char
  | [] => []
  | [piece] => piece
  | piece :: pieces => piece ++ sep ++ joinWith sep pieces

/-- What stands before the first occurrence of a separator, and what stands after it. -/
def cutFirst? (sep : Char) : List Char → Option (List Char × List Char)
  | [] => none
  | c :: cs =>
    if c = sep then some ([], cs)
    else (cutFirst? sep cs).map fun (before, after) => (c :: before, after)

/-- What stands before the last occurrence of a separator, and what stands after it. -/
def cutLast? (sep : Char) : List Char → Option (List Char × List Char)
  | [] => none
  | c :: cs =>
    match cutLast? sep cs with
    | some (before, after) => some (c :: before, after)
    | none => if c = sep then some ([], cs) else none

/-- What stands after the last separator; the whole text if there is none. -/
def afterLast (sep : Char) (cs : List Char) : List Char :=
  ((cutLast? sep cs).map Prod.snd).getD cs

/-- The text with a leading part taken off, if it starts with that part. -/
def dropStart? (start cs : List Char) : Option (List Char) :=
  if start.isPrefixOf cs then some (cs.drop start.length) else none

/-- The text with a trailing part taken off, if it ends with that part. -/
def dropEnd? (ending cs : List Char) : Option (List Char) :=
  if ending.isSuffixOf cs then some (cs.take (cs.length - ending.length)) else none

/-- Whether a text stands somewhere inside another. -/
def occursIn (needle : List Char) : List Char → Bool
  | [] => needle.isEmpty
  | c :: cs => needle.isPrefixOf (c :: cs) || occursIn needle cs

theorem occursIn_iff {needle hay : List Char} : occursIn needle hay = true ↔ needle <:+: hay := by
  induction hay with
  | nil => simp [occursIn]
  | cons c cs ih =>
    rw [occursIn, Bool.or_eq_true, ih, List.infix_cons_iff, List.isPrefixOf_iff_prefix]

/-- The text with every occurrence of one character replaced by another. -/
def exchange (old new : Char) (cs : List Char) : List Char :=
  cs.map fun c => if c = old then new else c

/-- The lines of a text without their ends, `\n` or `\r\n`. What follows the last line end is a
line of its own unless it is empty. -/
def lines (cs : List Char) : List (List Char) :=
  let pieces := splitOn '\n' cs
  let ended := pieces.dropLast.map fun piece => (dropEnd? ['\r'] piece).getD piece
  ended ++ (pieces.getLast?.toList.filter fun last => !last.isEmpty)

example : lines "a\r\n\nb\r".toList = ["a".toList, [], "b\r".toList] := by decide

end Gazetteer.Text
