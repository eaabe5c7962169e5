import Gazetteer.Json.Decoder

/-!
# Decoding records

A record decoder lists the fields of a record in order and says what becomes of an absent one. From
it come both forms: the object, where a field may stand anywhere but only once, and the array.
-/

namespace Gazetteer.Json

/-- The fields that were found, by name. `byName` tells an object from an array, and `absent` is the
error for a field that has to be there. -/
structure Filling where
  find : String → Option Draft
  byName : Bool
  absent : String → DecodeError

/-- A field and what its content must pass. -/
structure Member where
  name : String
  check : Source → Draft → Except DecodeError Unit

structure RecordDecoder (α : Type) where
  members : List Member
  assemble : Source → Filling → Except DecodeError α

namespace RecordDecoder

def memberOf (name : String) (decoder : Decoder α) : Member :=
  ⟨name, fun source d => (decoder source d).map fun _ => ()⟩

/-- A field that has to be there. -/
def required (name : String) (decoder : Decoder α) : RecordDecoder α where
  members := [memberOf name decoder]
  assemble source filling :=
    match filling.find name with
    | some d => decoder source d
    | none => .error (filling.absent name)

/-- A field that an object may leave out and an array may not. -/
def optional (name : String) (decoder : Decoder α) : RecordDecoder (Option α) where
  members := [memberOf name decoder.optional]
  assemble source filling :=
    match filling.find name with
    | some d => decoder.optional source d
    | none => if filling.byName then .ok none else .error (filling.absent name)

/-- A field with a value for when it is absent. -/
def withDefault (name : String) (default : α) (decoder : Decoder α) : RecordDecoder α where
  members := [memberOf name decoder]
  assemble source filling :=
    match filling.find name with
    | some d => decoder source d
    | none => .ok default

instance : Applicative RecordDecoder where
  pure a := ⟨[], fun _ _ => .ok a⟩
  seq f x := ⟨f.members ++ (x ()).members, fun source filling => do
    let g ← f.assemble source filling
    let a ← (x ()).assemble source filling
    return g a⟩

/-- Goes through the fields of an object in order; `seen` holds the names met before. -/
def checkFields (members : List Member) (source : Source) (seen : List String) :
    List (Option String × Draft) → Except DecodeError Unit
  | [] => .ok ()
  | (none, _) :: _ => .error .malformed
  | (some name, value) :: fields =>
    match members.find? fun m => m.name = name with
    | none =>
      if value.isSound then checkFields members source seen fields else .error .malformed
    | some member =>
      if name ∈ seen then .error (.duplicateField name)
      else do
        member.check source value
        checkFields members source (name :: seen) fields

/-- Goes through the items of an array as the first fields of the record. -/
def checkItems (source : Source) : List Member → List Draft → Except DecodeError Unit
  | member :: members, item :: items => do
    member.check source item
    checkItems source members items
  | _, _ => .ok ()

/-- The words for a record of a type with so many fields. -/
def elements (type : String) (n : Nat) : String :=
  "struct " ++ type ++ " with " ++ toString n ++ if n = 1 then " element" else " elements"

def fieldNamed (fields : List (Option String × Draft)) (name : String) : Option Draft :=
  fields.lookup (some name)

def itemNamed (members : List Member) (items : List Draft) (name : String) : Option Draft :=
  ((members.map Member.name).zip items).lookup name

/-- A record of a named type. -/
def decoder (type : String) (record : RecordDecoder α) : Decoder α
  | source, .object fields closed => do
    let inside ← source.inside
    checkFields record.members inside [] fields
    if !closed then throw .malformed
    record.assemble inside ⟨fieldNamed fields, true, .missingField⟩
  | source, .array items closed => do
    let inside ← source.inside
    let size := record.members.length
    checkItems inside record.members items
    if items.length < size && !closed then throw .malformed
    let position (name : String) : Nat := (record.members.map Member.name).idxOf name
    let a ← record.assemble inside ⟨itemNamed record.members items, false,
      fun name => .invalidLength (position name) (elements type size)⟩
    if size < items.length || !closed then
      throw (source.formError (.invalidLength items.length "fewer elements in array"))
    return a
  | _, d => .error (Decoder.mismatch ("struct " ++ type) d)

end RecordDecoder
end Gazetteer.Json
