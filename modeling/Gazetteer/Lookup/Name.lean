import Gazetteer.Path
import Gazetteer.Text.Case

/-!
# Names in loose references

A loose reference is compared with a candidate in lower case and often without its extension. Only
what looks like an extension is taken off: up to five letters or digits after the last dot.
-/

namespace Gazetteer.Lookup

/-- The form in which paths are compared. -/
def normalize (cs : List Char) : List Char := Path.dropLead (Text.lower (Path.unify cs))

def looksLikeExtension (ext : List Char) : Bool :=
  !ext.isEmpty && ext.length ≤ 5 && ext.all Char.isAlphanum

/-- A file name without its extension. Names like `.env` have none. -/
def withoutExtension (name : List Char) : List Char :=
  match Text.cutLast? '.' name with
  | some (stem, ext) => if !stem.isEmpty && looksLikeExtension ext then stem else name
  | none => name

/-- The file name of a path without its extension. -/
def bareName (path : List Char) : List Char := withoutExtension (Path.fileName path)

/-- The error for a reference that names nothing: `what` says what was asked for. -/
structure EmptyQuery where
  what : String
deriving DecidableEq, Repr

def EmptyQuery.message (e : EmptyQuery) : String := e.what ++ " must not be empty"

/-- A reference without the white space around it, refused if nothing is left. -/
def requireQuery (query what : String) : Except EmptyQuery String :=
  let trimmed := Text.trim query.toList
  if trimmed = [] then .error ⟨what⟩ else .ok (.ofList trimmed)

end Gazetteer.Lookup
