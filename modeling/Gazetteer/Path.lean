import Gazetteer.Text.Blank
import Gazetteer.Text.Pieces

/-!
# Project paths

Paths inside a project are texts with `/` between their segments. What a user types may have white
space around it, backslashes for slashes and `./` or `/` in front; `Path.relative` takes these off.
-/

namespace Gazetteer.Path

/-- The path without the white space around it and with slashes for backslashes. -/
def unify (cs : List Char) : List Char := Text.exchange '\\' '/' (Text.trim cs)

/-- The path without leading `./`. -/
def dropHere : List Char → List Char
  | '.' :: '/' :: cs => dropHere cs
  | cs => cs

/-- The path without leading `./`, then without leading slashes. -/
def dropLead (cs : List Char) : List Char := (dropHere cs).dropWhile (· = '/')

/-- The path relative to the project that a text denotes. -/
def relative (path : String) : String := .ofList (dropLead (unify path.toList))

/-- The last segment. -/
def fileName (cs : List Char) : List Char := Text.afterLast '/' cs

/-- Everything before the last slash, nothing for a bare file name. -/
def directory (cs : List Char) : List Char := ((Text.cutLast? '/' cs).map Prod.fst).getD []

/-- A file name as its stem and its extension, unless the stem would be empty. -/
def stemAndExtension (name : List Char) : List Char × List Char :=
  match Text.cutLast? '.' name with
  | some (stem, ext) => if stem = [] then (name, []) else (stem, ext)
  | none => (name, [])

/-- What stands before the first dot of a file name. -/
def firstStem (name : List Char) : List Char := ((Text.cutFirst? '.' name).map Prod.fst).getD name

/-- A part of a path of the file system. -/
inductive Component where
  | root
  | here
  | up
  | name (segment : List Char)
deriving DecidableEq, Repr

/-- The components of the segments after the first. Empty segments and dots add nothing. -/
def componentsOf (segments : List (List Char)) : List Component :=
  segments.filterMap fun segment =>
    if segment = [] ∨ segment = ['.'] then none
    else if segment = ['.', '.'] then some .up
    else some (.name segment)

/-- The components of a path. A dot counts only at the very start. -/
def components (path : List Char) : List Component :=
  match Text.splitOn '/' path with
  | [] :: _ :: _ => .root :: componentsOf (Text.splitOn '/' path)
  | ['.'] :: rest => .here :: componentsOf rest
  | segments => componentsOf segments

def Component.name? : Component → Option (List Char)
  | .name segment => some segment
  | _ => none

/-- The names on the way from a root to a path; those of the whole path if it lies elsewhere. -/
def relativeTo (root path : String) : String :=
  let rs := components root.toList
  let ps := components path.toList
  let rest := if rs.isPrefixOf ps then ps.drop rs.length else ps
  .ofList (Text.joinWith ['/'] (rest.filterMap Component.name?))

theorem dropHere_of_not_isPrefix {cs : List Char} (h : ¬ ['.', '/'] <+: cs) : dropHere cs = cs := by
  fun_induction dropHere cs with
  | case1 cs => exact absurd ⟨cs, rfl⟩ h
  | case2 => rfl

theorem head?_dropLead_ne (cs : List Char) : (dropLead cs).head? ≠ some '/' := by
  unfold dropLead
  induction dropHere cs with
  | nil => simp
  | cons c cs ih => by_cases h : c = '/' <;> simp_all

example : relative " .\\.\\src\\a.ts " = "src/a.ts" := by decide

example : relativeTo "/p/q" "/p/q/./r//s.ts" = "r/s.ts" := by decide

end Gazetteer.Path
