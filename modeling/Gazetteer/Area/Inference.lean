import Gazetteer.Area.Builtin
import Gazetteer.Category.Basic
import Gazetteer.Ordered.Set
import Gazetteer.Path

/-!
# Inference from paths

The directories of a file tell which areas it belongs to, and together with its category they give a
one-line description.
-/

namespace Gazetteer.Area

/-- Directories whose children name a feature. -/
def containers : List String :=
  ["features", "modules", "domains", "areas", "pages", "app", "routes", "views", "screens"]

/-- Structural directories, which are never an area. -/
def genericNames : List String :=
  ["src", "app", "lib", "libs", "components", "shared", "common", "utils", "helpers", "hooks",
   "pages", "routes", "views", "screens", "features", "modules", "domains", "areas", "api",
   "server", "client", "services", "store", "stores", "types", "ui", "assets", "styles", "core",
   "internal", "layouts", "context", "providers", "config", "test", "tests", "__tests__"]

/-- The directories of a path in lower case, outermost first. -/
def directories (path : String) : List (List Char) :=
  let segments := Text.splitOn '/' (Text.lower (Path.relative path).toList)
  (segments.filter (· ≠ [])).dropLast

/-- A directory name without the parentheses of a route group. -/
def unwrapped (segment : List Char) : List Char :=
  ((Text.dropStart? ['('] segment).bind (Text.dropEnd? [')'])).getD segment

/-- The folded name of a directory, unless it is dynamic, private or structural. -/
def cleaned? (segment : List Char) : Option (List Char) :=
  let name := unwrapped segment
  match name with
  | [] => none
  | c :: _ =>
    if c ∈ ['[', '_', '@', '.', '+'] then none
    else if genericNames.any fun generic => name = generic.toList then none
    else some (Text.fold name)

/-- The area that a folded name refers to: a built-in one, or the name itself. -/
def idOfFolded (name : List Char) : String :=
  ((Builtin.ofName? (.ofList name)).map Builtin.id).getD (.ofList name)

/-- The area that a directory names wherever it stands. -/
def idByName? (segment : List Char) : Option String :=
  ((cleaned? segment).bind fun name => Builtin.ofName? (.ofList name)).map Builtin.id

/-- The area that a directory names below a container. -/
def idBelow? (segment next : List Char) : Option String :=
  if containers.any fun container => segment = container.toList then
    (cleaned? next).map idOfFolded
  else none

/-- The areas that a chain of directories names, in the order of the directories. -/
def idsAlong : List (List Char) → List String
  | [] => []
  | [segment] => (idByName? segment).toList
  | segment :: next :: rest =>
    (idByName? segment).toList ++ (idBelow? segment next).toList ++ idsAlong (next :: rest)

/-- The areas that the directories of a file name. -/
def infer (path : String) : OrdSet String := .ofList (idsAlong (directories path))

/-- Directories below which the path is a route. -/
def routeRoots : List String := ["app", "pages", "routes"]

/-- File stems that stand for the route of their directory. -/
def reservedStems : List String :=
  ["page", "+page", "layout", "+layout", "route", "+server", "index", "_app", "template"]

def isRouteGroup (segment : List Char) : Bool :=
  ['('].isPrefixOf segment && [')'].isSuffixOf segment

/-- What stands below the first route root. -/
def belowRouteRoot? : List (List Char) → Option (List (List Char))
  | [] => none
  | segment :: rest =>
    if routeRoots.any fun root => Text.lower segment = root.toList then some rest
    else belowRouteRoot? rest

/-- The route that a file serves, if it stands below a route root. -/
def route? (path : List Char) : Option (List Char) :=
  let segments := Text.splitOn '/' path
  (belowRouteRoot? segments.dropLast).map fun below =>
    let stem := Path.firstStem (segments.getLast?.getD [])
    let reserved := reservedStems.any fun name => Text.lower stem = name.toList
    let route := below.filter (fun segment => !isRouteGroup segment) ++
      if reserved then [] else [stem]
    '/' :: Text.joinWith ['/'] route

/-- A one-line description of a file of a category. -/
def inferDescription (path : String) (category : Category) : String :=
  let path := (Path.relative path).toList
  let (directory, file) := (Text.cutLast? '/' path).getD (['.'], path)
  let place := "`" ++ String.ofList (Path.firstStem file) ++ "` in " ++ String.ofList directory
  let plain := category.label ++ " " ++ place
  match category with
  | .page | .layout | .route =>
    match route? (Path.relative (.ofList path)).toList with
    | some route => category.label ++ " for " ++ String.ofList route
    | none => plain
  | .test => "Tests for " ++ place
  | _ => plain

end Gazetteer.Area
