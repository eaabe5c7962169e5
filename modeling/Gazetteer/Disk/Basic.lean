import Gazetteer.Disk.Route
import Gazetteer.Ordered.Map

/-!
# Disks

A disk is a finite map from places to files, folders and symbolic links. A place is the list of
names on the way to it from the root; the root is a folder and is not listed. Following a route
resolves the links on it. One file may have several names, its twins: what is written under one of
them stands under all.
-/

namespace Gazetteer

/-- What a file holds: text, or bytes that are not UTF-8, or what may be neither read nor written.
-/
inductive Disk.Content where
  | text (s : String)
  | bytes (bs : List UInt8)
  | locked
deriving DecidableEq, Repr

inductive Disk.Node where
  /-- A file and the time of its last modification in nanoseconds since 1970. -/
  | file (content : Disk.Content) (modified : Int)
  | folder
  | link (target : String)
deriving DecidableEq, Repr

/-- What will go wrong with an operation: the disk refuses it, or tears a file that is written and
keeps so many of its characters. -/
inductive Disk.Fault where
  | refusal
  | tear (kept : Nat)
deriving DecidableEq, Repr

structure Disk where
  nodes : OrdMap (List String) Disk.Node
  /-- One entry for each change to come; further changes succeed. -/
  faults : List (Option Disk.Fault)
  /-- The folder from which relative paths lead. -/
  workingFolder : Disk.Route
  /-- The files with several names: names of one file have one number. -/
  numbers : OrdMap (List String) Nat := .empty
  /-- When something came to a folder or left it last, in nanoseconds since 1970. -/
  folderTimes : OrdMap (List String) Int := .empty
  /-- The time of each such change to come. The last one is also that of all later ones. -/
  clock : List Int := []
deriving DecidableEq

namespace Disk

def Node.isFile : Node → Bool
  | .file _ _ => true
  | .folder | .link _ => false

inductive IoError where
  | notFound
  | notAFolder
  | isAFolder
  | occupied
  | tooManyLinks
  | notUtf8
  | noSpace
  | nameTooLong
  | nulInName
  | denied
deriving DecidableEq, Repr

def IoError.message : IoError → String
  | .notFound => "No such file or directory (os error 2)"
  | .notAFolder => "Not a directory (os error 20)"
  | .isAFolder => "Is a directory (os error 21)"
  | .occupied => "File exists (os error 17)"
  | .tooManyLinks => "Too many levels of symbolic links (os error 40)"
  | .notUtf8 => "stream did not contain valid UTF-8"
  | .noSpace => "No space left on device (os error 28)"
  | .nameTooLong => "File name too long (os error 36)"
  | .nulInName => "file name contained an unexpected NUL byte"
  | .denied => "Permission denied (os error 13)"

def empty : Disk where
  nodes := .empty
  faults := []
  workingFolder := []

instance : Inhabited Disk := ⟨empty⟩

/-- What stands at a place. -/
def node? (d : Disk) (place : List String) : Option Node :=
  if place = [] then some .folder else d.nodes.find? place

/-- The disk with a node at a place that has no other name. -/
def put (d : Disk) (place : List String) (node : Node) : Disk :=
  { d with nodes := d.nodes.insert place node, numbers := d.numbers.erase place }

def erase (d : Disk) (place : List String) : Disk :=
  { d with nodes := d.nodes.erase place, numbers := d.numbers.erase place }

/-- Whether two places are names of one file. -/
def isTwin (d : Disk) (p q : List String) : Bool :=
  p ≠ q && (d.numbers.find? p).isSome && d.numbers.find? q = d.numbers.find? p &&
    (d.node? p).any Node.isFile && d.node? q = d.node? p

/-- Whether a place has no other name. -/
def IsSole (d : Disk) (place : List String) : Prop :=
  ∀ e ∈ d.numbers.entries, d.isTwin place e.1 = false

instance (d : Disk) (place : List String) : Decidable (d.IsSole place) :=
  inferInstanceAs (Decidable (∀ e ∈ _, _))

/-- When something came to a folder or left it last. -/
def folderTime (d : Disk) (folder : List String) : Int := (d.folderTimes.find? folder).getD 0

/-- The route that a path denotes. -/
def resolve (d : Disk) (path : String) : Route := d.workingFolder.join path

/-- The most bytes that a name may have. -/
def maxNameSize : Nat := 255

/-- The most bytes that the text of a route may have. -/
def maxRouteSize : Nat := 4095

/-- Refuses a route that no operation accepts, whatever stands on the disk. -/
def accept (r : Route) : Except IoError Unit :=
  if '\x00' ∈ r.text.toList then .error .nulInName
  else if maxRouteSize < r.text.utf8ByteSize then .error .nameTooLong
  else .ok ()

/-- Goes along steps from a place. `jump` goes on from a folder after a link. -/
def walkWith (d : Disk) (jump : List String → List Step → Except IoError (List String))
    (here : List String) : List Step → Except IoError (List String)
  | [] => .ok here
  | step :: rest =>
    if d.node? here ≠ some .folder then .error .notAFolder
    else
      match step with
      | .here | .blank => walkWith d jump here rest
      | .up => walkWith d jump here.dropLast rest
      | .down name =>
        if maxNameSize < name.utf8ByteSize then .error .nameTooLong
        else
          match d.node? (here ++ [name]) with
          | none => .error .notFound
          | some (.link target) => jump here (Route.join (.ofNames here) target ++ rest)
          | some _ => walkWith d jump (here ++ [name]) rest

/-- Goes along steps from a place through at most so many links. -/
def walk (d : Disk) : Nat → List String → List Step → Except IoError (List String)
  | 0 => walkWith d fun _ _ => .error .tooManyLinks
  | links + 1 => walkWith d fun _ steps => walk d links [] steps

/-- How many links a route may lead through. -/
def maxLinks : Nat := 40

/-- The place that a route leads to through links; something stands there. -/
def follow (d : Disk) (r : Route) : Except IoError (List String) := do
  accept r
  walk d maxLinks [] r

/-- The place that a route leads to. A link at its end is the place itself, and nothing need stand
there, but the folder above must. -/
def locate (d : Disk) (r : Route) : Except IoError (List String) :=
  match r.getLast? with
  | some (.down name) => do
    accept r
    let above ← d.follow r.parent
    if d.node? above ≠ some .folder then .error .notAFolder
    else if maxNameSize < name.utf8ByteSize then .error .nameTooLong
    else .ok (above ++ [name])
  | _ => d.follow r

/-- The place where a file that is written along a route comes to stand, through at most so many
links at its end. -/
def landing (d : Disk) (r : Route) : Nat → Except IoError (List String)
  | 0 => .error .tooManyLinks
  | links + 1 => do
    let place ← d.locate r
    match d.node? place with
    | some (.link target) => d.landing (Route.join (.ofNames place.dropLast) target) links
    | _ => .ok place

/-- The place where a file can be written along a route. -/
def writable (d : Disk) (r : Route) : Except IoError (List String) := do
  let place ← d.landing r maxLinks
  match d.node? place with
  | some .folder => .error .isAFolder
  | some (.file .locked _) => .error .denied
  | _ => .ok place

/-- The file or folder that a route leads to. -/
def status (d : Disk) (r : Route) : Except IoError Node := do
  match d.node? (← d.follow r) with
  | some node => .ok node
  | none => .error .notFound

def isPresent (d : Disk) (r : Route) : Bool := (d.status r).toBool

def isFolder (d : Disk) (r : Route) : Bool := (d.status r).toOption = some .folder

/-- What the file at the end of a route holds, be it locked. -/
def read (d : Disk) (r : Route) : Except IoError Content := do
  match ← d.status r with
  | .file content _ => .ok content
  | _ => .error .isAFolder

/-- The text of the file at the end of a route. -/
def readText (d : Disk) (r : Route) : Except IoError String := do
  match ← d.read r with
  | .text s => .ok s
  | .bytes _ => .error .notUtf8
  | .locked => .error .denied

/-- Milliseconds since 1970, none for earlier times. -/
def milliseconds (modified : Int) : UInt64 := .ofNat (modified / 1000000).toNat

/-- The time of the last modification of what stands at the end of a route. -/
def modified (d : Disk) (r : Route) : Except IoError UInt64 := do
  match ← d.status r with
  | .file _ modified => .ok (milliseconds modified)
  | _ => .ok (milliseconds (d.folderTime (← d.follow r)))

end Disk
end Gazetteer
