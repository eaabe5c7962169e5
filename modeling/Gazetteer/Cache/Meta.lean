import Gazetteer.Cache.Fingerprint
import Gazetteer.Disk.Record
import Gazetteer.Json.Encode
import Gazetteer.Json.Record

/-!
# Cache metadata

The record that a run leaves behind says which tree its artifacts were built from. Comparing it with
the tree as it is gives the reasons why the artifacts are stale; without a reason they are fresh.
-/

namespace Gazetteer.Cache

/-- The schema that is written. -/
def schemaVersion : String := "2.1"

/-- The oldest schema whose artifacts can still be read. -/
def minSchemaVersion : String := "2.0"

def toolVersion : String := "0.1.1"

/-- Schemas are compared as texts, so `10.0` comes before `2.0`. -/
def isSupported (stored minimum : String) : Bool := compare stored minimum != .lt

/-- What is stored about a run. All of it may be absent, and the empty record is always stale. -/
structure Meta where
  toolVersion : Option String
  schemaVersion : Option String
  createdAt : Option UInt64
  lastCheck : Option UInt64
  fingerprint : Option Fingerprint
deriving DecidableEq, Repr

namespace Meta

def empty : Meta := ⟨none, none, none, none, none⟩

instance : Inhabited Meta := ⟨empty⟩

def encode (m : Meta) : Json :=
  .record [("created_at_unix_ms", m.createdAt.map .ofWord),
    ("fingerprint", m.fingerprint.map Fingerprint.encode),
    ("last_check_unix_ms", m.lastCheck.map .ofWord),
    ("schema_version", m.schemaVersion.map .string), ("tool_version", m.toolVersion.map .string)]

open Json in
def record : RecordDecoder Meta :=
  Meta.mk <$> .withDefault "tool_version" none Decoder.string.optional
    <*> .withDefault "schema_version" none Decoder.string.optional
    <*> .withDefault "created_at_unix_ms" none Decoder.word.optional
    <*> .withDefault "last_check_unix_ms" none Decoder.word.optional
    <*> .withDefault "fingerprint" none Fingerprint.decoder.optional

def decoder : Json.Decoder Meta := record.decoder "CacheMeta"

end Meta

/-- Why artifacts cannot be used. -/
inductive StaleReason where
  | metaMissing
  | metaCorrupt
  | schemaTooOld
  | fingerprintMissing
  | fingerprintChanged
deriving DecidableEq, Repr

namespace StaleReason

def all : List StaleReason :=
  [.metaMissing, .metaCorrupt, .schemaTooOld, .fingerprintMissing, .fingerprintChanged]

def tag : StaleReason → String
  | .metaMissing => "meta_missing"
  | .metaCorrupt => "meta_corrupt"
  | .schemaTooOld => "schema_too_old"
  | .fingerprintMissing => "fingerprint_missing"
  | .fingerprintChanged => "fingerprint_changed"

def describe : StaleReason → String
  | .metaMissing => "no cache metadata"
  | .metaCorrupt => "cache metadata unreadable"
  | .schemaTooOld => "cache schema older than required"
  | .fingerprintMissing => "cache has no fingerprint"
  | .fingerprintChanged => "source tree changed"

def encode (r : StaleReason) : Json := .string r.tag

def decoder : Json.Decoder StaleReason := .choice (all.map fun r => (r.tag, r))

end StaleReason

/-- The reasons why what is stored does not hold for the tree with a fingerprint. -/
def staleReasons (stored : Disk.Record Meta) (current : Fingerprint) : List StaleReason :=
  match stored with
  | .missing => [.metaMissing]
  | .corrupt => [.metaCorrupt]
  | .found m =>
    let supported := (m.schemaVersion.map fun v => isSupported v minSchemaVersion).getD false
    (if supported then [] else [.schemaTooOld]) ++
      match m.fingerprint with
      | none => [.fingerprintMissing]
      | some f => if f = current then [] else [.fingerprintChanged]

/-- How the stored record stands to the tree. -/
structure Status where
  reasons : List StaleReason
  current : Fingerprint
  stored : Option Meta
deriving DecidableEq, Repr

namespace Status

def isFresh (s : Status) : Bool := s.reasons.isEmpty

def encode (s : Status) : Json :=
  .record [("current", some s.current.encode), ("fresh", some (.bool s.isFresh)),
    ("reasons", some (.list s.reasons StaleReason.encode)), ("stored", s.stored.map Meta.encode)]

end Status
end Gazetteer.Cache
