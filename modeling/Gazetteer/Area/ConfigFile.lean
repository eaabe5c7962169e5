import Gazetteer.Area.Config
import Gazetteer.Disk.Basic

/-!
# Configuration files

The configuration of a project stands in `.atlas/config.json` under its root. A project may do
without one.
-/

namespace Gazetteer.Area

inductive ConfigError where
  | disk (e : Disk.IoError)
  | json (e : Json.DecodeError)
deriving DecidableEq, Repr

def ConfigError.message : ConfigError → String
  | .disk e => "IO error: " ++ e.message
  | .json e => "JSON error: " ++ e.message

namespace Config

def route (root : Disk.Route) : Disk.Route := (root.child ".atlas").child "config.json"

/-- The configuration of a project, none if it has no file for it. -/
def tryLoad (d : Disk) (root : Disk.Route) : Except ConfigError (Option Config) := do
  if d.isPresent (route root) then
    let text ← (d.readText (route root)).mapError ConfigError.disk
    let config ← (ofText text).mapError ConfigError.json
    return some config
  else return none

end Config
end Gazetteer.Area
