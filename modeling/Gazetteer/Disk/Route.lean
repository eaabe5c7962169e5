import Gazetteer.Text.Pieces

/-!
# Routes

A route leads from the root of the file system to a place, step by step. Whether a name stands for a
file, a folder or a link is known only to a disk. A route keeps what was written: dots and doubled
slashes lead nowhere, but they are part of its text.
-/

namespace Gazetteer.Disk

inductive Step where
  /-- Stay in this folder: a dot. -/
  | here
  /-- Stay in this folder: nothing between two slashes, or after the last one. -/
  | blank
  /-- Go to the folder above. -/
  | up
  /-- Go to what has this name in the folder. -/
  | down (name : String)
deriving DecidableEq, Repr

namespace Step

/-- Whether a step leads nowhere. -/
def isIdle : Step → Bool
  | .here | .blank => true
  | .up | .down _ => false

def text : Step → String
  | .here => "."
  | .blank => ""
  | .up => ".."
  | .down name => name

/-- The step that a text between slashes stands for. -/
def ofText (segment : List Char) : Step :=
  if segment = [] then .blank
  else if segment = ['.'] then .here
  else if segment = ['.', '.'] then .up
  else .down (.ofList segment)

end Step

/-- The steps from the root of the file system. -/
abbrev Route := List Step

namespace Route

def stepsOf (text : List Char) : List Step := (Text.splitOn '/' text).map Step.ofText

/-- A route ready to be continued: one slash at its end is the one before the next step. -/
def opened (r : Route) : Route := if r.getLast? = some .blank then r.dropLast else r

/-- The route that a text denotes for someone who stands at the end of `base`. -/
def join (base : Route) (text : String) : Route :=
  match text.toList with
  | '/' :: rest => stepsOf rest
  | cs => base.opened ++ stepsOf cs

def ofNames (names : List String) : Route := names.map .down

/-- The route to a name below the end of this one. -/
def child (r : Route) (name : String) : Route := r.opened ++ [.down name]

/-- A route without the idle steps at its end. -/
def trimmed (r : Route) : Route := (r.reverse.dropWhile Step.isIdle).reverse

/-- The route to the folder that holds the place. -/
def parent (r : Route) : Route := trimmed r.trimmed.dropLast

def text (r : Route) : String := "/" ++ "/".intercalate (r.map Step.text)

/-- A file name with its extension, if it has one, replaced. -/
def replaceExtension (name extension : String) : String :=
  let stem := match Text.cutLast? '.' name.toList with
    | some (stem, _) => if stem = [] then name.toList else stem
    | none => name.toList
  .ofList stem ++ "." ++ extension

/-- Whether a name is two dots and an extension. -/
def isDotted (name : String) : Bool :=
  match Text.cutLast? '.' name.toList with
  | some (['.'], _ :: _) => true
  | _ => false

/-- The route to the neighbour with another extension. Without its extension a name of two dots is a
step up, and there is nothing to extend. -/
def withExtension (r : Route) (extension : String) : Route :=
  match r.trimmed.getLast? with
  | some (.down name) =>
    let isStepUp := r.trimmed = r && isDotted name
    r.trimmed.dropLast ++ [if isStepUp then .up else .down (replaceExtension name extension)]
  | _ => r

example : (join [] "/a//b/./").text = "/a//b/./" := by decide

example : (join [] "/a/b/./").parent = ofNames ["a"] := by decide

example : (withExtension (join [] "/a/b.json/") "tmp").text = "/a/b.tmp" := by decide

example : (withExtension (join [] "/a/..b") "tmp").text = "/a/.." := by decide

end Route
end Gazetteer.Disk
