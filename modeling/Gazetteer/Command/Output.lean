import Gazetteer.Cache.Graph
import Gazetteer.Command.Response
import Gazetteer.ProjectMap

/-!
# Outputs

The data that each action answers with when its target resolves. All of them can be read back.
-/

namespace Gazetteer.Command

open Gazetteer.Json
open Cache (StaleReason)

structure AreasOutput where
  areas : List Area.Info
deriving DecidableEq

namespace AreasOutput

def encode (o : AreasOutput) : Json := .record [("areas", some (.list o.areas Area.Info.encode))]

def decoder : Decoder AreasOutput :=
  RecordDecoder.decoder "AreasOutput" (AreasOutput.mk <$> .required "areas" Area.Info.decoder.list)

end AreasOutput

structure AreaOutput where
  area : Area.Info
  /-- What the user typed, where it is not the id. -/
  resolvedFrom : Option String
  files : List MapEntry
deriving DecidableEq

namespace AreaOutput

def encode (o : AreaOutput) : Json :=
  .record [("area", some o.area.encode), ("files", some (.list o.files MapEntry.encode)),
    ("resolved_from", o.resolvedFrom.map .string)]

def record : RecordDecoder AreaOutput :=
  AreaOutput.mk <$> .required "area" Area.Info.decoder
    <*> .withDefault "resolved_from" none Decoder.string.optional
    <*> .required "files" MapEntry.decoder.list

def decoder : Decoder AreaOutput := record.decoder "AreaOutput"

end AreaOutput

structure FindOutput where
  query : String
  path : String
  tier : Nat
deriving DecidableEq

namespace FindOutput

def encode (o : FindOutput) : Json :=
  .record [("path", some (.string o.path)), ("query", some (.string o.query)),
    ("tier", some (.ofNat o.tier))]

def record : RecordDecoder FindOutput :=
  FindOutput.mk <$> .required "query" .string <*> .required "path" .string
    <*> .required "tier" .tiny

def decoder : Decoder FindOutput := record.decoder "FindOutput"

end FindOutput

structure DescribeOutput where
  path : String
  category : Category
  areas : OrdSet String
  description : Option String
  imports : List String
  importedBy : List String
deriving DecidableEq

namespace DescribeOutput

def encode (o : DescribeOutput) : Json :=
  .record [("areas", some (.stringSet o.areas)), ("category", some o.category.encode),
    ("description", o.description.map .string),
    ("imported_by", unlessEmpty o.importedBy .string), ("imports", unlessEmpty o.imports .string),
    ("path", some (.string o.path))]

def record : RecordDecoder DescribeOutput :=
  DescribeOutput.mk <$> .required "path" .string <*> .required "category" Category.decoder
    <*> .required "areas" .stringSet <*> .withDefault "description" none Decoder.string.optional
    <*> .withDefault "imports" [] Decoder.string.list
    <*> .withDefault "imported_by" [] Decoder.string.list

def decoder : Decoder DescribeOutput := record.decoder "DescribeOutput"

end DescribeOutput

structure CacheStatusOutput where
  fresh : Bool
  reasons : List StaleReason
  cacheFolder : String
  fingerprint : String
  storedFingerprint : Option String
  schemaVersion : Option String
  lastCheck : Option UInt64
deriving DecidableEq

namespace CacheStatusOutput

def encode (o : CacheStatusOutput) : Json :=
  .record [("cache_dir", some (.string o.cacheFolder)),
    ("fingerprint", some (.string o.fingerprint)), ("fresh", some (.bool o.fresh)),
    ("last_check_unix_ms", o.lastCheck.map .ofWord),
    ("reasons", some (.list o.reasons StaleReason.encode)),
    ("schema_version", o.schemaVersion.map .string),
    ("stored_fingerprint", o.storedFingerprint.map .string)]

def record : RecordDecoder CacheStatusOutput :=
  CacheStatusOutput.mk <$> .required "fresh" .bool
    <*> .withDefault "reasons" [] StaleReason.decoder.list <*> .required "cache_dir" .string
    <*> .required "fingerprint" .string
    <*> .withDefault "stored_fingerprint" none Decoder.string.optional
    <*> .withDefault "schema_version" none Decoder.string.optional
    <*> .withDefault "last_check_unix_ms" none Decoder.word.optional

def decoder : Decoder CacheStatusOutput := record.decoder "CacheStatusOutput"

end CacheStatusOutput

structure CacheClearOutput where
  cacheFolder : String
  hooks : List String
deriving DecidableEq

namespace CacheClearOutput

def encode (o : CacheClearOutput) : Json :=
  .record [("cache_dir", some (.string o.cacheFolder)), ("hooks", some (.strings o.hooks))]

def record : RecordDecoder CacheClearOutput :=
  CacheClearOutput.mk <$> .required "cache_dir" .string <*> .required "hooks" Decoder.string.list

def decoder : Decoder CacheClearOutput := record.decoder "CacheClearOutput"

end CacheClearOutput
end Gazetteer.Command
