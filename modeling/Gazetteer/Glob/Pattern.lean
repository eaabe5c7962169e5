/-!
# Glob patterns

A pattern is read from left to right. `**` spans folders only where it stands as a whole segment;
elsewhere it is two stars. Braces hold alternatives and may nest. A class that is never closed is a
mistake, or else its bracket and all that follow stand for themselves.
-/

namespace Gazetteer.Glob

inductive Token where
  | literal (c : Char)
  /-- `?` -/
  | any
  /-- `*` -/
  | star
  /-- `**` and a slash at the start: any folders or none. -/
  | leading
  /-- A slash and `**` at the end: at least one segment more. -/
  | beneath
  /-- `**` between slashes: any folders or none. -/
  | between
  /-- A class of ranges of characters, or what stands in none of them. -/
  | oneOf (negated : Bool) (ranges : List (Char × Char))
  | alternates (branches : List (List Token))
deriving Repr

inductive Flaw where
  | unclosedClass
  | invalidRange (lo hi : Char)
  | unopenedAlternates
  | unclosedAlternates
  | danglingEscape
deriving DecidableEq, Repr

def Flaw.message : Flaw → String
  | .unclosedClass => "unclosed character class; missing ']'"
  | .invalidRange lo hi =>
    "invalid range; '" ++ String.singleton lo ++ "' > '" ++ String.singleton hi ++ "'"
  | .unopenedAlternates =>
    "unopened alternate group; missing '\x7b' (maybe escape '\x7d' with '[\x7d]'?)"
  | .unclosedAlternates =>
    "unclosed alternate group; missing '\x7d' (maybe escape '\x7b' with '[\x7b]'?)"
  | .danglingEscape => "dangling '\\'"

/-- A pattern that cannot be read, and why. -/
structure Error where
  pattern : String
  flaw : Flaw
deriving DecidableEq, Repr

def Error.message (e : Error) : String :=
  "error parsing glob '" ++ e.pattern ++ "': " ++ e.flaw.message

/-- A group of alternatives that is still open: its finished branches and the tokens before it, both
last first. -/
structure Group where
  branches : List (List Token)
  before : List Token

/-- What has been read: the tokens of the current branch, last first, and the open groups around it,
innermost first. -/
structure Reading where
  tokens : List Token
  groups : List Group

namespace Reading

def push (r : Reading) (t : Token) : Reading := ⟨t :: r.tokens, r.groups⟩

def inGroup (r : Reading) : Bool := !r.groups.isEmpty

def openGroup (r : Reading) : Reading := ⟨[], ⟨[], r.tokens⟩ :: r.groups⟩

/-- A comma ends a branch inside a group and is a literal elsewhere. -/
def comma (r : Reading) : Reading :=
  match r.groups with
  | [] => r.push (.literal ',')
  | g :: groups => ⟨[], ⟨r.tokens.reverse :: g.branches, g.before⟩ :: groups⟩

def closeGroup (r : Reading) : Except Flaw Reading :=
  match r.groups with
  | [] => .error .unopenedAlternates
  | g :: groups =>
    .ok ⟨.alternates (r.tokens.reverse :: g.branches).reverse :: g.before, groups⟩

def finish (r : Reading) : Except Flaw (List Token) :=
  if r.inGroup then .error .unclosedAlternates else .ok r.tokens.reverse

/-- Whether `**` after this character begins a segment. -/
def beginsSegment (r : Reading) (previous : Option Char) : Bool :=
  previous = some '/' || (r.inGroup && (previous = some ',' || previous = some '\x7b'))

/-- Whether `**` before this text ends the pattern or the branch. -/
def endsHere (r : Reading) (rest : List Char) : Bool :=
  match rest with
  | [] => true
  | c :: _ => r.inGroup && (c = ',' || c = '\x7d')

def pushStars (r : Reading) : Reading := (r.push .star).push .star

/-- Puts a token for `**` in place of the slash before it. Folders of any depth absorb it. -/
def pushFolders (r : Reading) (t : Token) : Reading :=
  match r.tokens with
  | .leading :: _ | .beneath :: _ => r
  | _ :: tokens => ⟨t :: tokens, r.groups⟩
  | [] => r.push t

end Reading

/-- What becomes of an opening bracket. -/
inductive Brackets where
  /-- It opens a class, which has to be closed. -/
  | strict
  /-- It opens a class, or stands for itself where the class is never closed. -/
  | tolerant
  /-- It stands for itself. -/
  | plain
deriving DecidableEq, Repr

/-- How far a class has been read. -/
inductive ClassStage where
  /-- Nothing yet. -/
  | opening
  /-- At most the sign of negation. -/
  | first
  | inside
  /-- A dash waits for the end of its range. -/
  | dashed
deriving DecidableEq, Repr

mutual

/-- Reads on after the character `previous`. -/
def readFrom (brackets : Brackets) (r : Reading) (previous : Option Char) :
    List Char → Except Flaw (List Token)
  | [] => r.finish
  | '?' :: cs => readFrom brackets (r.push .any) (some '?') cs
  | '*' :: '*' :: '/' :: cs =>
    if r.tokens.isEmpty then readFrom brackets (r.push .leading) (some '/') cs
    else if r.beginsSegment previous then readFrom brackets (r.pushFolders .between) (some '/') cs
    else readFrom brackets (r.pushStars.push (.literal '/')) (some '/') cs
  | '*' :: '*' :: cs =>
    if r.tokens.isEmpty then
      readFrom brackets (if cs.isEmpty then r.push .leading else r.pushStars) (some '*') cs
    else if r.beginsSegment previous && r.endsHere cs then
      readFrom brackets (r.pushFolders .beneath) (some '*') cs
    else readFrom brackets r.pushStars (some '*') cs
  | '*' :: cs => readFrom brackets (r.push .star) (some '*') cs
  | '[' :: cs =>
    match brackets with
    | .strict => readClass .strict r .opening false [] cs
    | .tolerant =>
      match readClass .tolerant r .opening false [] cs with
      | .error .unclosedClass => readFrom .plain (r.push (.literal '[')) (some '[') cs
      | result => result
    | .plain => readFrom .plain (r.push (.literal '[')) (some '[') cs
  | '\x7b' :: cs => readFrom brackets r.openGroup (some '\x7b') cs
  | '\x7d' :: cs =>
    match r.closeGroup with
    | .ok r => readFrom brackets r (some '\x7d') cs
    | .error flaw => .error flaw
  | ',' :: cs => readFrom brackets r.comma (some ',') cs
  | ['\\'] => .error .danglingEscape
  | '\\' :: c :: cs => readFrom brackets (r.push (.literal c)) (some c) cs
  | c :: cs => readFrom brackets (r.push (.literal c)) (some c) cs

/-- Reads on inside a class whose ranges so far are given last first. -/
def readClass (brackets : Brackets) (r : Reading) (stage : ClassStage) (negated : Bool)
    (ranges : List (Char × Char)) : List Char → Except Flaw (List Token)
  | [] => .error .unclosedClass
  | c :: cs =>
    if stage = .opening && (c = '!' || c = '^') then readClass brackets r .first true ranges cs
    else if c = ']' && (stage = .inside || stage = .dashed) then
      let ranges := if stage = .dashed then ('-', '-') :: ranges else ranges
      readFrom brackets (r.push (.oneOf negated ranges.reverse)) (some ']') cs
    else if c = '-' && stage = .inside then readClass brackets r .dashed negated ranges cs
    else
      match stage, ranges with
      | .dashed, (lo, _) :: others =>
        if c < lo then .error (.invalidRange lo c)
        else readClass brackets r .inside negated ((lo, c) :: others) cs
      | _, _ => readClass brackets r .inside negated ((c, c) :: ranges) cs

end

/-- The tokens of a pattern. -/
def tokensOf (brackets : Brackets) (cs : List Char) : Except Flaw (List Token) :=
  readFrom brackets ⟨[], []⟩ none cs

end Gazetteer.Glob
