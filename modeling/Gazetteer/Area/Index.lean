import Gazetteer.Area.Resolver

/-!
# The area index

The relation between the files of a scan and their areas, in both directions, with a summary of each
area.
-/

namespace Gazetteer.Area

/-- Summary of an area. -/
structure Info where
  id : String
  name : String
  description : Option String
  /-- Whether only directories, and no declared rule, put files into the area. -/
  autoDetected : Bool
  fileCount : Nat
deriving DecidableEq, Repr

structure Index where
  byFile : OrdMap String (OrdSet String)
  byArea : OrdMap String (List String)
  areas : OrdMap String Info
deriving DecidableEq

namespace Info

def encode (i : Info) : Json :=
  .record [("auto_detected", some (.bool i.autoDetected)),
    ("description", i.description.map .string), ("file_count", some (.ofNat i.fileCount)),
    ("id", some (.string i.id)), ("name", some (.string i.name))]

open Json in
def record : RecordDecoder Info :=
  Info.mk <$> .required "id" .string <*> .required "name" .string
    <*> .optional "description" .string <*> .required "auto_detected" .bool
    <*> .required "file_count" .count

def decoder : Json.Decoder Info := record.decoder "AreaInfo"

/-- The order of falling count, and of rising id where counts are equal. -/
def precedes (a b : Info) : Bool :=
  if a.fileCount = b.fileCount then compare a.id b.id != .gt else b.fileCount < a.fileCount

end Info

namespace Index

def filesIn (index : Index) (area : String) : List String := (index.byArea.find? area).getD []

def areasOf? (index : Index) (file : String) : Option (OrdSet String) := index.byFile.find? file

/-- The areas, those with most files first. -/
def byPopulation (index : Index) : List Info := index.areas.values.mergeSort Info.precedes

def encode (index : Index) : Json :=
  .record [("areas", some (.dict index.areas Info.encode)),
    ("by_area", some (.dict index.byArea .strings)),
    ("by_file", some (.dict index.byFile .stringSet))]

end Index

/-- The words of an id with capital letters: they stand between dashes, underscores and spaces. -/
def titleCase (id : String) : String :=
  let spaced := id.toList.map fun c => if c = '-' || c = '_' then ' ' else c
  let words := (Text.splitOn ' ' spaced).filter (· ≠ [])
  let titled := words.map fun
    | [] => []
    | c :: cs => Text.upperChar c ++ cs
  .ofList (Text.joinWith [' '] titled)

namespace Resolver

variable (r : Resolver)

/-- The files that are not left out, by their normalised paths. -/
def kept (files : List String) : List String :=
  (files.map Path.relative).filter fun path => !r.isIgnored path

/-- The files that are not left out, with their areas. -/
def assignments (files : List String) : OrdMap String Assignment :=
  .ofList ((r.kept files).map fun path => (path, r.assign path))

/-- Takes in the assignment of a file: an area is automatic for as long as it is for every file. -/
def flag (flags : OrdMap String Bool) (a : Assignment) : OrdMap String Bool :=
  a.ids.toList.foldl
    (fun flags id => flags.alter id fun auto? => auto?.getD true && a.autoDetected) flags

/-- Whether areas are automatic, after all files that are not left out. -/
def flags (files : List String) : OrdMap String Bool :=
  (r.kept files).foldl (fun flags path => flag flags (r.assign path)) .empty

/-- A file put under each of its areas. -/
def spread (byArea : OrdMap String (List String)) (file : String) (ids : OrdSet String) :
    OrdMap String (List String) :=
  ids.toList.foldl (fun byArea id => byArea.alter id fun files? => files?.getD [] ++ [file]) byArea

/-- A map from files to areas turned round. -/
def invert (byFile : OrdMap String (OrdSet String)) : OrdMap String (List String) :=
  byFile.entries.foldl (fun byArea (file, ids) => spread byArea file ids) .empty

def info (id : String) (autoDetected : Bool) (fileCount : Nat) : Info :=
  let declared := r.declared.find? fun area => area.id = id
  let name := declared.bind Declared.name <|> (Builtin.ofId? id).map Builtin.name
  ⟨id, name.getD (titleCase id), declared.bind Declared.description, autoDetected, fileCount⟩

def index (files : List String) : Index :=
  let byFile := (r.assignments files).mapValues fun _ a => a.ids
  let byArea := invert byFile
  let flags := r.flags files
  ⟨byFile, byArea, byArea.mapValues fun id members =>
    r.info id ((flags.find? id).getD true) members.length⟩

end Resolver
end Gazetteer.Area
