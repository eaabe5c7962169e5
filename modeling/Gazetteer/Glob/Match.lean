import Gazetteer.Glob.Pattern

/-!
# Matching globs

A pattern must match a whole path, byte by byte. The positions of a path from which the rest of a
pattern matches form a row, one flag for each suffix of the path, and each token turns the row of
what follows it into its own. So matching takes time proportional to pattern and path.
-/

namespace Gazetteer

/-- How a pattern is matched: whether the case of ASCII letters counts, and whether `*` and `?`
match a slash. -/
structure Glob.Rules where
  ignoresCase : Bool
  wildSlash : Bool
deriving DecidableEq, Repr

/-- A pattern that has been read. -/
structure Glob where
  tokens : List Glob.Token
deriving Repr

namespace Glob

/-- Reads a pattern whose classes have to be closed. -/
def read (pattern : String) : Except Error Glob :=
  match tokensOf .strict pattern.toList with
  | .ok tokens => .ok ⟨tokens⟩
  | .error flaw => .error ⟨pattern, flaw⟩

/-- Reads a pattern in which the bracket of a class that is never closed stands for itself. -/
def readTolerant (pattern : String) : Except Error Glob :=
  match tokensOf .tolerant pattern.toList with
  | .ok tokens => .ok ⟨tokens⟩
  | .error flaw => .error ⟨pattern, flaw⟩

/-- For each suffix of a text, longest first, whether something matches it. -/
abbrev Row := List Bool

/-- The row of the end of the text alone. -/
def endRow (text : List UInt8) : Row := text.map (fun _ => false) ++ [true]

/-- One byte of a class, then `row`. -/
def byteRow (fits : UInt8 → Bool) : List UInt8 → Row → Row
  | b :: text, _ :: row => (fits b && row.headD false) :: byteRow fits text row
  | _, _ => [false]

/-- Any number of bytes of a class, then `row`. -/
def starRow (fits : UInt8 → Bool) : List UInt8 → Row → Row
  | b :: text, here :: row =>
    let after := starRow fits text row
    (here || (fits b && after.headD false)) :: after
  | _, row => row

def orRow (a b : Row) : Row := List.zipWith (· || ·) a b

def slash : UInt8 := 47

def isWild (rules : Rules) (b : UInt8) : Bool := rules.wildSlash || b != slash

def lowerByte (b : UInt8) : UInt8 := if 65 ≤ b && b ≤ 90 then b + 32 else b

def upperByte (b : UInt8) : UInt8 := if 97 ≤ b && b ≤ 122 then b - 32 else b

def sameByte (rules : Rules) (a b : UInt8) : Bool :=
  if rules.ignoresCase then lowerByte a = lowerByte b else a = b

/-- The ranges of bytes that a range of characters stands for. Beyond ASCII these are the bytes of
both ends, with a range from the last byte of the one to the first of the other. -/
def byteRanges (lo hi : Char) : List (UInt8 × UInt8) :=
  let ls := String.utf8EncodeChar lo
  let hs := String.utf8EncodeChar hi
  if lo = hi then ls.map fun b => (b, b)
  else
    ls.dropLast.map (fun b => (b, b)) ++ [(ls.getLastD 0, hs.headD 0)] ++
      hs.tail.map fun b => (b, b)

def inRanges (ranges : List (UInt8 × UInt8)) (b : UInt8) : Bool :=
  ranges.any fun (lo, hi) => lo ≤ b && b ≤ hi

def inClass (rules : Rules) (negated : Bool) (ranges : List (Char × Char)) (b : UInt8) : Bool :=
  let bytes := ranges.flatMap fun (lo, hi) => byteRanges lo hi
  let found :=
    if rules.ignoresCase then inRanges bytes (lowerByte b) || inRanges bytes (upperByte b)
    else inRanges bytes b
  found != negated

mutual

/-- Whether a token stands for nothing at all: a group without a branch that says something. -/
def isVoid : Token → Bool
  | .alternates branches => areVoidBranches branches
  | _ => false

def areVoidBranches : List (List Token) → Bool
  | [] => true
  | branch :: branches => areVoid branch && areVoidBranches branches

def areVoid : List Token → Bool
  | [] => true
  | t :: ts => isVoid t && areVoid ts

end

mutual

/-- The row of a token before `row`. -/
def tokenRow (rules : Rules) (text : List UInt8) (row : Row) : Token → Row
  | .literal c =>
    (String.utf8EncodeChar c).foldr (fun b row => byteRow (sameByte rules b) text row) row
  | .any => byteRow (isWild rules) text row
  | .star => starRow (isWild rules) text row
  | .leading => orRow row (starRow (fun _ => true) text (byteRow (· == slash) text row))
  | .beneath => byteRow (· == slash) text (starRow (fun _ => true) text row)
  | .between =>
    let inner := byteRow (· == slash) text row
    orRow inner (byteRow (· == slash) text (starRow (fun _ => true) text inner))
  | .oneOf negated ranges => byteRow (inClass rules negated ranges) text row
  | .alternates branches =>
    if areVoidBranches branches then row else branchesRow rules text row branches

/-- The row of a choice of branches before `row`; branches that say nothing do not count. -/
def branchesRow (rules : Rules) (text : List UInt8) (row : Row) : List (List Token) → Row
  | [] => row.map fun _ => false
  | branch :: branches =>
    let others := branchesRow rules text row branches
    if areVoid branch then others else orRow (tokensRow rules text row branch) others

/-- The row of tokens in sequence before `row`. -/
def tokensRow (rules : Rules) (text : List UInt8) (row : Row) : List Token → Row
  | [] => row
  | t :: ts => tokenRow rules text (tokensRow rules text row ts) t

end

/-- The bytes of a path. -/
def bytes (path : String) : List UInt8 := path.toList.flatMap String.utf8EncodeChar

/-- Whether a pattern matches a whole path. `**` alone matches every path. -/
def accepts (rules : Rules) (glob : Glob) (path : String) : Bool :=
  match glob.tokens with
  | [.leading] => true
  | tokens =>
    let text := bytes path
    (tokensRow rules text (endRow text) tokens).headD false

example :
    (read "a/**/b?").toOption.map (fun g => g.accepts ⟨true, true⟩ "A/x/y/bc") = some true := by
  decide +kernel

example : (read "a/**").toOption.map (fun g => g.accepts ⟨true, true⟩ "a") = some false := by
  decide

example : (read "?").toOption.map (fun g => g.accepts ⟨true, true⟩ "é") = some false := by
  decide

example : (read "[z-a]").toOption.isNone = true := by decide

example : (read "a[b").toOption.isNone = true := by decide

example :
    (readTolerant "[a]b[").toOption.map (fun g => g.accepts ⟨false, false⟩ "ab[") = some true := by
  decide

end Glob
end Gazetteer
