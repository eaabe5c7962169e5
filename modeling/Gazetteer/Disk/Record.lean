import Gazetteer.Disk.Change
import Gazetteer.Json.Decoder
import Gazetteer.Json.Printer

/-!
# Records

A record is a JSON value in a file of its own. It is written to a temporary neighbour that then
takes the place of the file, so a reader finds the old record or the new one.
-/

namespace Gazetteer.Disk

/-- What came of reading a record. -/
inductive Record (α : Type) where
  | missing
  | corrupt
  | found (a : α)
deriving DecidableEq, Repr

namespace Record

def found? : Record α → Option α
  | .found a => some a
  | .missing | .corrupt => none

/-- The record that a text holds. -/
def ofText (decoder : Json.Decoder α) (text : String) : Record α :=
  match decoder.ofText text.toList with
  | .ok a => .found a
  | .error _ => .corrupt

/-- The record that a file holds. What a record does not need may be no UTF-8. -/
def ofContent (decoder : Json.Decoder α) : Content → Record α
  | .text s => .ofText decoder s
  | .bytes bs =>
    match decoder.ofBytes bs with
    | .ok a => .found a
    | .error _ => .corrupt
  | .locked => .corrupt

end Record

/-- The record in a file. A file that is there but cannot be read is a corrupt record. -/
def readRecord (d : Disk) (decoder : Json.Decoder α) (r : Route) : Record α :=
  match d.read r with
  | .ok content => .ofContent decoder content
  | .error .notFound => .missing
  | .error _ => .corrupt

/-- The neighbour to which a record is written first. -/
def draftRoute (r : Route) : Route := r.withExtension "json.tmp"

/-- Writes a record in place of what the file held. -/
def Change.writeRecord (r : Route) (value : Json) (now : UInt64) : Change Unit := do
  makeFolders r.parent
  writeFile (draftRoute r) value.pretty now
  rename (draftRoute r) r

end Gazetteer.Disk
