import Gazetteer.Disk.Basic
import Gazetteer.Glob.Depth
import Gazetteer.Text.Blank

/-!
# Ignore files

An ignore file holds a glob on each line. The last line that matches an entry decides about it: to
leave it out, or, after `!`, to keep it. A glob with a slash is anchored at the folder of the file.
-/

namespace Gazetteer.Scan

/-- Case counts, and only `**` matches slashes. -/
def ignoreRules : Glob.Rules := ⟨false, false⟩

structure IgnoreRule where
  glob : Glob
  /-- Whether matching entries are kept. -/
  keeps : Bool
  foldersOnly : Bool
deriving Repr

namespace IgnoreRule

/-- A line without the white space at its end, unless a backslash holds on to a space there. -/
def trimmedLine (line : List Char) : List Char :=
  if ['\\', ' '].isSuffixOf line then line else Text.trimEnd line

/-- The glob of a line: whether its matches are kept, whether it is anchored, and its text. -/
def parts (line : List Char) : Bool × Bool × List Char :=
  match line with
  | '\\' :: '!' :: _ | '\\' :: '#' :: _ => (false, false, line.drop 1)
  | '!' :: '/' :: rest => (true, true, rest)
  | '!' :: rest => (true, false, rest)
  | '/' :: rest => (false, true, rest)
  | _ => (false, false, line)

/-- A glob without the slash at its end, which a backslash may precede. -/
def folderPart? (glob : List Char) : Option (List Char) :=
  (Text.dropEnd? ['/'] glob).map fun rest => (Text.dropEnd? ['\\'] rest).getD rest

/-- A glob that matches at every depth unless it is anchored, and whose `/**` at the end matches
only what is inside the folder. -/
def completed (anchored : Bool) (glob : List Char) : List Char :=
  let floating := !anchored && !('/' ∈ glob) && glob ≠ ['*', '*']
  let glob := if floating then '*' :: '*' :: '/' :: glob else glob
  if ['/', '*', '*'].isSuffixOf glob then glob ++ ['/', '*'] else glob

/-- The rule on a line, if it holds one. -/
def ofLine? (line : List Char) : Option IgnoreRule :=
  if line.head? = some '#' then none
  else
    let line := trimmedLine line
    if line = [] then none
    else
      let (keeps, anchored, glob) := parts line
      let folder? := folderPart? glob
      match Glob.readTolerant (.ofList (completed anchored (folder?.getD glob))) with
      | .ok glob => some ⟨glob, keeps, folder?.isSome⟩
      | .error _ => none

end IgnoreRule

/-- The rules of a file in the order of its lines. -/
abbrev IgnoreFile := List IgnoreRule

namespace IgnoreFile

/-- The lines of a file. Reading stops at a line that is not UTF-8; a locked file has none. -/
def linesOf : Disk.Content → List (List Char)
  | .text s => Text.lines s.toList
  | .bytes bs =>
    let pieces := bs.splitOn 10
    let texts := pieces.map fun piece => (String.fromUTF8? ⟨piece.toArray⟩).map String.toList
    ((texts.takeWhile Option.isSome).filterMap id).map fun line =>
      (Text.dropEnd? ['\r'] line).getD line
  | .locked => []

/-- The rules that a file holds; a byte order mark at its start is no part of them. One glob that
nests too deeply leaves the file without any. -/
def ofContent (content : Disk.Content) : IgnoreFile :=
  match linesOf content with
  | [] => []
  | first :: rest =>
    let rules := (first.dropWhile (· = '\uFEFF') :: rest).filterMap IgnoreRule.ofLine?
    if rules.any fun rule => rule.glob.isTooDeep ignoreRules then [] else rules

/-- Whether the file leaves an entry out, if it decides about it. -/
def verdict? (file : IgnoreFile) (path : String) (isFolder : Bool) : Option Bool :=
  let deciding := file.reverse.find? fun rule =>
    (isFolder || !rule.foldersOnly) && rule.glob.accepts ignoreRules path
  deciding.map fun rule => !rule.keeps

example : (ofContent (.text "*.ts\n!keep.ts\n")).verdict? "src/keep.ts" false = some false := by
  decide +kernel

example : (ofContent (.text "out/\n")).verdict? "src/out" false = none := by decide +kernel

example : (ofContent (.text "[a*")).verdict? "src/[ab" false = some true := by decide +kernel

end IgnoreFile

/-- The ignore files of a folder. -/
structure FolderRules where
  general : IgnoreFile
  git : IgnoreFile
  excluded : IgnoreFile
deriving Repr

namespace FolderRules

def none : FolderRules := ⟨[], [], []⟩

def isEmpty (r : FolderRules) : Bool := r.general.isEmpty && r.git.isEmpty && r.excluded.isEmpty

/-- The rules of the file at the end of a route, none if there is no such file. -/
def rulesAt (d : Disk) (r : Disk.Route) : IgnoreFile :=
  match d.read r with
  | .ok content => .ofContent content
  | .error _ => []

/-- The first line of the file at the end of a route. -/
def firstLine? (d : Disk) (r : Disk.Route) : Option (List Char) :=
  match d.read r with
  | .ok content => (IgnoreFile.linesOf content).head?
  | .error _ => Option.none

/-- What stands for Git's data in a folder. -/
def gitRoute (folder : List String) : Disk.Route := .ofNames (folder ++ [".git"])

/-- The folder of a work tree's data, which `.git` names where it is a file. -/
def workTree? (d : Disk) (folder : List String) : Option Disk.Route := do
  let named ← Text.dropStart? "gitdir: ".toList (← firstLine? d (gitRoute folder))
  return d.resolve (.ofList named)

/-- The folder with Git's data about a folder. The data of a work tree name the data that all work
trees share, from there if the name starts with a dot and else from the working folder. -/
def gitFolder? (d : Disk) (folder : List String) : Option Disk.Route :=
  match d.status (gitRoute folder) with
  | .ok (.file _ _) => do
    let tree ← workTree? d folder
    let shared ← firstLine? d (tree.child "commondir")
    let start := if shared.head? = some '.' then tree else d.workingFolder
    return start.join (.ofList shared)
  | _ => some (gitRoute folder)

/-- The file in a folder of Git's data that tells what to leave out. -/
def excludeRoute (git : Disk.Route) : Disk.Route := (git.child "info").child "exclude"

def read (d : Disk) (folder : List String) : FolderRules :=
  let here : Disk.Route := .ofNames folder
  let excluded := (gitFolder? d folder).map fun git => rulesAt d (excludeRoute git)
  ⟨rulesAt d (here.child ".ignore"), rulesAt d (here.child ".gitignore"), excluded.getD []⟩

/-- The rules of the folders on the way to a place and below it, where they have any. -/
def table (d : Disk) (base : List String) : OrdMap (List String) FolderRules :=
  let below := d.nodes.entries.filterMap fun (place, node) =>
    if node = .folder && (base.isPrefixOf place || place.isPrefixOf base) then some place
    else Option.none
  let read := ([] :: below).map fun folder => (folder, read d folder)
  .ofList (read.filter fun (_, rules) => !rules.isEmpty)

/-- The rules of a folder by the table of all rules. -/
def ofTable (table : OrdMap (List String) FolderRules) (folder : List String) : FolderRules :=
  (table.find? folder).getD none

end FolderRules
end Gazetteer.Scan
