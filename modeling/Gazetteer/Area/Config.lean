import Gazetteer.Json.Encode
import Gazetteer.Json.Record

/-!
# Configuration

What a project says about itself: its own areas, descriptions for single files, and files to leave
out. Every field has a default, so an empty object is a configuration.
-/

namespace Gazetteer.Area

/-- An area that a project declares. -/
structure Definition where
  name : Option String
  description : Option String
  /-- Globs, or parts of file names. -/
  rules : List String
deriving DecidableEq

structure Config where
  areas : OrdMap String Definition
  /-- Descriptions by path. -/
  descriptions : OrdMap String String
  /-- Globs for files to leave out. -/
  ignore : List String
  /-- Whether files without a description get an inferred one. -/
  autoDescribe : Bool
deriving DecidableEq

namespace Definition

def encode (d : Definition) : Json :=
  .record [("description", d.description.map .string), ("match", some (.strings d.rules)),
    ("name", d.name.map .string)]

open Json in
def record : RecordDecoder Definition :=
  Definition.mk <$> .withDefault "name" none Decoder.string.optional
    <*> .withDefault "description" none Decoder.string.optional
    <*> .withDefault "match" [] Decoder.string.list

def decoder : Json.Decoder Definition := record.decoder "AreaDefinition"

end Definition

namespace Config

def default : Config := ⟨.empty, .empty, [], true⟩

instance : Inhabited Config := ⟨default⟩

def encode (c : Config) : Json :=
  .record [("areas", some (.dict c.areas Definition.encode)),
    ("auto_describe", some (.bool c.autoDescribe)),
    ("descriptions", some (.dict c.descriptions .string)), ("ignore", some (.strings c.ignore))]

open Json in
def record : RecordDecoder Config :=
  Config.mk <$> .withDefault "areas" .empty Definition.decoder.dict
    <*> .withDefault "descriptions" .empty Decoder.string.dict
    <*> .withDefault "ignore" [] Decoder.string.list
    <*> .withDefault "auto_describe" true Decoder.bool

def decoder : Json.Decoder Config := record.decoder "ProjectConfig"

/-- The configuration that a text holds. -/
def ofText (text : String) : Except Json.DecodeError Config := decoder.ofText text.toList

end Config
end Gazetteer.Area
