import Gazetteer.Disk.Record
import Gazetteer.Json.Encode
import Gazetteer.Json.Record

/-!
# Artifacts

What a run has computed is kept under `.atlas/cache` in the project, a file for each kind, wrapped
in an envelope that names the kind and the format. An artifact with another envelope is not loaded.
-/

namespace Gazetteer.Cache

/-- The folder of the cache. -/
def folder (root : Disk.Route) : Disk.Route := (root.child ".atlas").child "cache"

/-- The file of the metadata. -/
def metaRoute (root : Disk.Route) : Disk.Route := (folder root).child "meta.json"

/-- Raised whenever an envelope or its contents change shape. -/
def artifactFormat : Nat := 1

inductive Kind where
  | graph
  | map
  | deadCode
  | symbols
deriving DecidableEq, Repr

namespace Kind

def all : List Kind := [.graph, .map, .deadCode, .symbols]

def tag : Kind → String
  | .graph => "graph"
  | .map => "map"
  | .deadCode => "dead_code"
  | .symbols => "symbols"

def fileName : Kind → String
  | .graph => "graph.json"
  | .map => "map.json"
  | .deadCode => "dead.json"
  | .symbols => "symbols.json"

def encode (k : Kind) : Json := .string k.tag

def decoder : Json.Decoder Kind := .choice (all.map fun k => (k.tag, k))

def route (root : Disk.Route) (k : Kind) : Disk.Route := (folder root).child k.fileName

end Kind

/-- An artifact as it is stored. -/
structure Envelope (α : Type) where
  format : Nat
  kind : Kind
  savedAt : UInt64
  data : α
deriving DecidableEq

namespace Envelope

def encode (e : Envelope Json) : Json :=
  .record [("data", some e.data), ("format_version", some (.ofNat e.format)),
    ("kind", some e.kind.encode), ("saved_at_unix_ms", some (.ofWord e.savedAt))]

open Json in
def record (data : Decoder α) : RecordDecoder (Envelope α) :=
  Envelope.mk <$> .required "format_version" .small <*> .required "kind" Kind.decoder
    <*> .required "saved_at_unix_ms" .word <*> .required "data" data

def decoder (data : Json.Decoder α) : Json.Decoder (Envelope α) :=
  (record data).decoder "ArtifactEnvelope"

end Envelope

namespace Artifact

open Disk (Change)

/-- Stores an artifact in place of the one of its kind. -/
def save (root : Disk.Route) (kind : Kind) (data : Json) (now : UInt64) : Change Unit :=
  Change.writeRecord (kind.route root) (Envelope.encode ⟨artifactFormat, kind, now, data⟩) now

/-- The artifact of a kind, if one is stored that can be read. -/
def load? (d : Disk) (root : Disk.Route) (kind : Kind) (data : Json.Decoder α) : Option α :=
  match d.readRecord (Envelope.decoder data) (kind.route root) with
  | .found e => if e.format = artifactFormat ∧ e.kind = kind then some e.data else none
  | .missing | .corrupt => none

/-- Removes the artifacts of these kinds and counts them; ends at the first that cannot be removed.
-/
def removeKinds (root : Disk.Route) : List Kind → Change Nat
  | [] => pure 0
  | kind :: kinds => do
    let removed ← try
        Change.removeFile (kind.route root)
        pure 1
      catch
        | .notFound => pure 0
        | e => throw e
    return removed + (← removeKinds root kinds)

/-- Removes all artifacts and counts them. -/
def removeAll (root : Disk.Route) : Change Nat := removeKinds root Kind.all

end Artifact
end Gazetteer.Cache
