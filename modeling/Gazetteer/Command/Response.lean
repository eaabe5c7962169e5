import Gazetteer.Cache.Meta
import Gazetteer.Command.Request

/-!
# Responses

Every request is answered by a response: its status, the data of the action, facts about the
project, and hints for the reader.
-/

namespace Gazetteer.Command

open Gazetteer.Json
open Cache (StaleReason)

inductive Status where
  | ok
  /-- The target did not resolve; the data is a recovery hint. -/
  | notFound
  | error
deriving DecidableEq, Repr

namespace Status

def tag : Status → String
  | .ok => "ok"
  | .notFound => "not_found"
  | .error => "error"

def encode (s : Status) : Json := .string s.tag

def decoder : Decoder Status :=
  .choice [("ok", .ok), ("not_found", .notFound), ("error", .error)]

end Status

inductive NoteKind where
  | info
  | cache
  | action
  | warn
deriving DecidableEq, Repr

namespace NoteKind

def tag : NoteKind → String
  | .info => "info"
  | .cache => "cache"
  | .action => "action"
  | .warn => "warn"

def encode (k : NoteKind) : Json := .string k.tag

def decoder : Decoder NoteKind :=
  .choice [("info", .info), ("cache", .cache), ("action", .action), ("warn", .warn)]

end NoteKind

/-- A remark for the reader. -/
structure Note where
  kind : NoteKind
  text : String
deriving DecidableEq, Repr

namespace Note

def encode (n : Note) : Json :=
  .record [("text", some (.string n.text)), ("type", some n.kind.encode)]

def record : RecordDecoder Note :=
  Note.mk <$> .required "type" NoteKind.decoder <*> .required "text" .string

def decoder : Decoder Note := record.decoder "Hint"

end Note

/-- Facts about the project and the cache. -/
structure Facts where
  root : Option String
  configPath : Option String
  cacheHit : Option Bool
  staleReasons : List StaleReason
  fileCount : Option Nat
  duration : Option UInt64
deriving DecidableEq, Repr

/-- A list that is left out when it is empty. -/
def unlessEmpty (items : List α) (encode : α → Json) : Option Json :=
  if items.isEmpty then none else some (.list items encode)

namespace Facts

def none : Facts := ⟨.none, .none, .none, [], .none, .none⟩

def encode (f : Facts) : Json :=
  .record [("cache_hit", f.cacheHit.map .bool), ("config_path", f.configPath.map .string),
    ("duration_ms", f.duration.map .ofWord), ("file_count", f.fileCount.map .ofNat),
    ("root", f.root.map .string), ("stale_reasons", unlessEmpty f.staleReasons StaleReason.encode)]

def record : RecordDecoder Facts :=
  Facts.mk <$> .optional "root" .string <*> .optional "config_path" .string
    <*> .optional "cache_hit" .bool <*> .withDefault "stale_reasons" [] StaleReason.decoder.list
    <*> .optional "file_count" .count <*> .optional "duration_ms" .word

def decoder : Decoder Facts := record.decoder "ResponseMeta"

end Facts

structure Response where
  status : Status
  message : Option String
  notes : List Note
  data : Json
  facts : Facts
deriving DecidableEq

namespace Response

def isError (r : Response) : Bool := r.status = .error

def ofError (message : String) (notes : List Note) : Response :=
  ⟨.error, some message, notes, .null, .none⟩

def encode (r : Response) : Json :=
  .record [("data", some r.data), ("hints", unlessEmpty r.notes Note.encode),
    ("message", r.message.map .string), ("meta", some r.facts.encode),
    ("status", some r.status.encode)]

def record : RecordDecoder Response :=
  Response.mk <$> .required "status" Status.decoder <*> .optional "message" .string
    <*> .withDefault "hints" [] Note.decoder.list <*> .withDefault "data" .null Decoder.any
    <*> .withDefault "meta" .none Facts.decoder

def decoder : Decoder Response := record.decoder "CommandResponse"

end Response

/-- Remarks that lead on from an error, chosen by what its message says. -/
def notesOnError (message : String) : List Note :=
  let contains (part : String) : Bool := Text.occursIn part.toList message.toList
  let note (condition : Bool) (kind : NoteKind) (text : String) : List Note :=
    if condition then [⟨kind, text⟩] else []
  note (contains "must not be empty") .action
      "Pass a file path, file name or area name; blank targets are rejected." ++
    note (contains "unknown variant") .action
      ("Supported actions: " ++ ", ".intercalate (Action.all.map Action.tag) ++ ".") ++
    note (contains "missing field") .action
      ("Check the payload shape, e.g. \x7b\"action\":\"find\",\"payload\":\x7b\"query\":" ++
        "\"Button\"\x7d\x7d.") ++
    note (contains "Project path does not exist") .action
      "Check --root / payload.project or run from the repository root." ++
    note (contains "Failed to write") .warn
      "Cache directory is not writable; results were computed but not persisted."

end Gazetteer.Command
