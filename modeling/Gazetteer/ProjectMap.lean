import Gazetteer.Area.Index

/-!
# Project maps

A snapshot of a project: every file that is not left out with its category, areas and description,
the number of files of each category, and the areas by falling number of files.
-/

namespace Gazetteer

structure MapEntry where
  path : String
  category : Category
  areas : OrdSet String
  description : Option String
deriving DecidableEq

structure ProjectMap where
  files : List MapEntry
  categories : OrdMap Category Nat
  areas : List Area.Info
deriving DecidableEq

namespace Category

def encode (c : Category) : Json := .string c.tag

def decoder : Json.Decoder Category := Json.Decoder.choice tagged

end Category

namespace MapEntry

def encode (e : MapEntry) : Json :=
  .record [("areas", some (.stringSet e.areas)), ("category", some e.category.encode),
    ("description", e.description.map .string), ("path", some (.string e.path))]

open Json in
def record : RecordDecoder MapEntry :=
  MapEntry.mk <$> .required "path" .string <*> .required "category" Category.decoder
    <*> .required "areas" .stringSet <*> .optional "description" .string

def decoder : Json.Decoder MapEntry := record.decoder "MapEntry"

end MapEntry

namespace ProjectMap

def empty : ProjectMap := ⟨[], .empty, []⟩

instance : Inhabited ProjectMap := ⟨empty⟩

/-- How often each category occurs. -/
def countCategories (entries : List MapEntry) : OrdMap Category Nat :=
  entries.foldl (fun counts e => counts.alter e.category fun n? => n?.getD 0 + 1) .empty

/-- The map of a list of files. -/
def build (r : Area.Resolver) (files : List String) : ProjectMap :=
  let index := r.index files
  let entries := index.byFile.entries.map fun (path, areas) =>
    ⟨path, Category.classify path, areas, r.describe path⟩
  ⟨entries, countCategories entries, index.byPopulation⟩

def entry? (m : ProjectMap) (path : String) : Option MapEntry :=
  m.files.find? fun e => e.path = Path.relative path

def area? (m : ProjectMap) (id : String) : Option Area.Info := m.areas.find? fun a => a.id = id

def areaFiles (m : ProjectMap) (id : String) : List MapEntry :=
  m.files.filter fun e => decide (id ∈ e.areas)

def filePaths (m : ProjectMap) : List String := m.files.map MapEntry.path

/-- The areas with their numbers of files, those with most files first. -/
def areaCounts (m : ProjectMap) : List (String × Nat) := m.areas.map fun a => (a.id, a.fileCount)

def encodeCategories (counts : OrdMap Category Nat) : Json :=
  .ofFields (counts.entries.map fun (c, n) => (c.tag, .ofNat n))

def encode (m : ProjectMap) : Json :=
  .record [("areas", some (.list m.areas Area.Info.encode)),
    ("categories", some (encodeCategories m.categories)),
    ("files", some (.list m.files MapEntry.encode))]

open Json in
def categoriesDecoder : Decoder (OrdMap Category Nat) := fun source d =>
  (Decoder.entries (Decoder.pick Category.tagged) .count source d).map OrdMap.ofList

open Json in
def record : RecordDecoder ProjectMap :=
  ProjectMap.mk <$> .required "files" MapEntry.decoder.list
    <*> .required "categories" categoriesDecoder <*> .required "areas" Area.Info.decoder.list

def decoder : Json.Decoder ProjectMap := record.decoder "ProjectMap"

end ProjectMap
end Gazetteer
