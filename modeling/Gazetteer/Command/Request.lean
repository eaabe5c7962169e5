import Gazetteer.Hint.Template

/-!
# Requests

A request names an action and carries a payload of any kind; what the payload must hold depends on
the action.
-/

namespace Gazetteer.Command

open Gazetteer.Json
open Hint (Dialect)

inductive Action where
  | map
  | areas
  | area
  | find
  | describe
  | cacheStatus
  | cacheClear
deriving DecidableEq, Repr

namespace Action

def all : List Action := [.map, .areas, .area, .find, .describe, .cacheStatus, .cacheClear]

def tag : Action → String
  | .map => "map"
  | .areas => "areas"
  | .area => "area"
  | .find => "find"
  | .describe => "describe"
  | .cacheStatus => "cache_status"
  | .cacheClear => "cache_clear"

def encode (a : Action) : Json := .string a.tag

def decoder : Decoder Action := .choice (all.map fun a => (a.tag, a))

end Action

/-- What a request asks for differently from the defaults. -/
structure Options where
  dialect : Option Dialect
  hintLimit : Option Nat
deriving DecidableEq, Repr

namespace Options

def none : Options := ⟨.none, .none⟩

def encode (o : Options) : Json :=
  .record [("dialect", o.dialect.map Dialect.encode), ("hint_limit", o.hintLimit.map .ofNat)]

def record : RecordDecoder Options :=
  Options.mk <$> .withDefault "dialect" .none Dialect.decoder.optional
    <*> .withDefault "hint_limit" .none Decoder.count.optional

def decoder : Decoder Options := record.decoder "RequestOptions"

end Options

structure Request where
  action : Action
  payload : Json
  options : Options
deriving DecidableEq

namespace Request

/-- A request without options of its own. -/
def plain (action : Action) (payload : Json) : Request := ⟨action, payload, .none⟩

def encode (r : Request) : Json :=
  .record [("action", some r.action.encode), ("options", some r.options.encode),
    ("payload", some r.payload)]

def record : RecordDecoder Request :=
  Request.mk <$> .required "action" Action.decoder
    <*> .withDefault "payload" (.object []) Decoder.any
    <*> .withDefault "options" .none Options.decoder

def decoder : Decoder Request := record.decoder "CommandRequest"

def ofText (text : String) : Except DecodeError Request := decoder.ofText text.toList

end Request

/-- The payload of an action on a whole project. -/
structure ProjectPayload where
  project : Option String
deriving DecidableEq, Repr

structure MapPayload where
  project : Option String
  /-- Whether to rebuild a map that is fresh. -/
  force : Bool
deriving DecidableEq, Repr

/-- The payload of an action on something in a project: an area, a query or a file. -/
structure TargetPayload where
  project : Option String
  target : String
deriving DecidableEq, Repr

def projectField : RecordDecoder (Option String) :=
  .withDefault "project" none Decoder.path.optional

def ProjectPayload.decoder : Decoder ProjectPayload :=
  RecordDecoder.decoder "ProjectPayload" (ProjectPayload.mk <$> projectField)

def MapPayload.decoder : Decoder MapPayload :=
  RecordDecoder.decoder "MapPayload"
    (MapPayload.mk <$> projectField <*> .withDefault "force" false .bool)

/-- The decoder of a payload whose target stands under a name. -/
def TargetPayload.decoder (type name : String) : Decoder TargetPayload :=
  RecordDecoder.decoder type (TargetPayload.mk <$> projectField <*> .required name .string)

def areaPayload : Decoder TargetPayload := TargetPayload.decoder "AreaPayload" "area"

def findPayload : Decoder TargetPayload := TargetPayload.decoder "FindPayload" "query"

def describePayload : Decoder TargetPayload := TargetPayload.decoder "DescribePayload" "file"

end Gazetteer.Command
