import Gazetteer.Path
import Gazetteer.Scan.IgnoreFile
import Gazetteer.Text.Case

/-!
# Source files of a project

A scan finds the source files below a root, down to a depth. Links are not followed. Hidden entries
are left out, unless an ignore file keeps them, and so are folders of dependencies and build
results.
-/

namespace Gazetteer.Scan

/-- Dependency trees below this depth are not worth the cost. -/
def maxDepth : Nat := 6

def sourceExtensions : List String :=
  ["ts", "tsx", "mts", "cts", "js", "jsx", "mjs", "cjs", "vue", "svelte", "astro"]

/-- Names of dependency, build and output directories, in lower case. -/
def deniedNames : List String :=
  ["node_modules", "bower_components", "jspm_packages", "dist", "build", "out", "coverage",
   "target", "vendor", "storybook-static", "tmp", "temp"]

/-- A source file: the names on the way to it from the root, and its time of modification. -/
structure SourceFile where
  names : List String
  modified : UInt64
deriving DecidableEq, Repr

def SourceFile.path (f : SourceFile) : String := "/".intercalate f.names

def isSourceName (name : String) : Bool :=
  let ext := Text.lower (Path.stemAndExtension name.toList).2
  sourceExtensions.any fun e => ext = e.toList

def isDenied (name : String) : Bool :=
  let lowered := Text.lower name.toList
  deniedNames.any fun denied => lowered = denied.toList

def isHidden (name : String) : Bool := name.toList.head? = some '.'

/-- What the folders on the way to an entry say about it: the rules of each folder, innermost first,
with the path of the entry from there. -/
abbrev Chain := List (FolderRules × String)

/-- Whether an entry is left out, if an ignore file decides about it. General ignore files come
before those of Git, and inner folders before outer ones. -/
def chainVerdict? (chain : Chain) (isFolder : Bool) : Option Bool :=
  let decide (file : FolderRules → IgnoreFile) : Option Bool :=
    chain.findSome? fun (rules, path) => (file rules).verdict? path isFolder
  decide FolderRules.general <|> decide FolderRules.git <|> decide FolderRules.excluded

/-- The rules of the folders on the way from the root of the disk to an entry: `above` holds those
of the folders gone through so far, with the rest of the way left to be added. -/
def chainOf (rulesAt : List String → FolderRules) (above : List String) :
    (rest : List String) → Chain
  | [] => []
  | name :: rest =>
    chainOf rulesAt (above ++ [name]) rest ++ [(rulesAt above, "/".intercalate (name :: rest))]

/-- Whether a scan passes over an entry with these names on the way to it, the last its own. -/
def isSkipped (rulesAt : List String → FolderRules) (entry : List String) (isFolder : Bool) :
    Bool :=
  let name := entry.getLastD ""
  isDenied name ||
    match chainVerdict? (chainOf rulesAt [] entry) isFolder with
    | some ignored => ignored
    | none => isHidden name

/-- Whether a scan from `base` comes to the file at the end of `rest`. -/
def isReached (rulesAt : List String → FolderRules) (base : List String) : List String → Bool
  | [] => true
  | [name] => !isSkipped rulesAt (base ++ [name]) false
  | name :: rest =>
    !isSkipped rulesAt (base ++ [name]) true && isReached rulesAt (base ++ [name]) rest

/-- What stands below a place, with the names on the way from there. -/
def nodesBelow (d : Disk) (base : List String) : List (List String × Disk.Node) :=
  d.nodes.entries.filterMap fun (place, node) =>
    if base.isPrefixOf place && base ≠ place then some (place.drop base.length, node) else none

/-- The source files below a folder in the order of their names. -/
def filesBelow (d : Disk) (base : List String) (depth : Nat) : List SourceFile :=
  let rulesAt := FolderRules.ofTable (FolderRules.table d base)
  (nodesBelow d base).filterMap fun (names, node) =>
    match node with
    | .file _ modified =>
      if names.length ≤ depth && isSourceName (names.getLastD "") &&
          isReached rulesAt base names then
        some ⟨names, Disk.milliseconds modified⟩
      else none
    | _ => none

/-- The source files below the end of a route. A root that is itself a source file is the only
entry, and no names lead to it. -/
def files (d : Disk) (root : Disk.Route) (depth : Nat) : List SourceFile :=
  match d.locate root, d.follow root with
  | .ok own, .ok base =>
    match d.node? base with
    | some .folder => filesBelow d base depth
    | some (.file _ modified) =>
      if own = base && isSourceName (base.getLastD "") then [⟨[], Disk.milliseconds modified⟩]
      else []
    | _ => []
  | _, _ => []

/-- Paths of the files from the root. -/
def paths (files : List SourceFile) : List String := files.map SourceFile.path

end Gazetteer.Scan
