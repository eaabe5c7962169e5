import Gazetteer.Command.Request
import Gazetteer.Command.Response
import Gazetteer.Command.Session
import Gazetteer.Hint.Recovery
import Gazetteer.Lookup.Name

/-!
# Projects

The project that a request is about: its root with all links resolved, and its configuration. A
configuration that cannot be used is no obstacle, only a warning.
-/

namespace Gazetteer.Command

open Disk (IoError Route)
open Hint (Dialect Formatter)
open Session (Run)

/-- Where and when a command runs, and what holds unless its request says otherwise. -/
structure Environment where
  /-- The project root as the user gave it. -/
  root : String
  dialect : Dialect
  hintLimit : Option Nat
  /-- The time in milliseconds since 1970. -/
  now : UInt64
  /-- Milliseconds since the start of the command. -/
  elapsed : UInt64
deriving DecidableEq, Repr

/-- Misuse of a command. -/
inductive CommandError where
  | payload (e : Json.DecodeError)
  | emptyQuery (e : Lookup.EmptyQuery)
  | noProject (path : String)
  | unresolved (path : String) (e : IoError)
deriving DecidableEq, Repr

/-- An error with its cause. -/
def CommandError.message : CommandError → String
  | .payload e => e.message
  | .emptyQuery e => e.message
  | .noProject path => "Project path does not exist: " ++ path
  | .unresolved path e => "Failed to resolve " ++ path ++ ": " ++ e.message

/-- A step of a command. -/
abbrev CommandM := ExceptT CommandError Run

structure Project where
  /-- The way to the root through folders only. -/
  root : Route
  config : Area.Config
  /-- The path of the configuration, if there is one that can be used. -/
  configPath : Option String
  notes : List Note
deriving DecidableEq

/-- Makes hints as a request with these options wants them. -/
def formatter (env : Environment) (options : Options) : Formatter :=
  let f := Formatter.ofDialect (options.dialect.getD env.dialect)
  match options.hintLimit <|> env.hintLimit with
  | some limit => f.withLimit limit
  | none => f

def decodePayload (decoder : Json.Decoder α) (payload : Json) : CommandM α :=
  match decoder.ofValue payload with
  | .ok a => return a
  | .error e => throw (.payload e)

def requireTarget (text what : String) : CommandM String :=
  match Lookup.requireQuery text what with
  | .ok query => return query
  | .error e => throw (.emptyQuery e)

/-- The remark that a configuration was left out. -/
def unreadableNote (path : String) (e : Area.ConfigError) : Note :=
  ⟨.warn, path ++ " is unreadable (" ++ e.message ++ "); areas were inferred from paths only."⟩

/-- The project at a path, or at the path of the environment. -/
def openProject (env : Environment) (requested : Option String) : CommandM Project := do
  let path := requested.getD env.root
  let d ← liftM Session.currentDisk
  let route := if path = "" then none else some (d.resolve path)
  match route with
  | none => throw (.noProject path)
  | some route =>
    if !d.isPresent route then throw (.noProject path)
    match d.follow route with
    | .error e => throw (.unresolved path e)
    | .ok names =>
      let root := Route.ofNames names
      let configPath := (Area.Config.route root).text
      match Area.Config.tryLoad d root with
      | .ok (some config) => return ⟨root, config, some configPath, []⟩
      | .ok none => return ⟨root, .default, none, []⟩
      | .error e =>
        liftM (Session.warn (.configIgnored configPath e))
        return ⟨root, .default, none, [unreadableNote configPath e]⟩

end Gazetteer.Command
