import Gazetteer.Hint.Template
import Gazetteer.Json.Encode

/-!
# The catalog of commands

Every command has a shell form and a JSON form. Both have a hole for its parameter, if it takes one.
-/

namespace Gazetteer.Hint

structure Command where
  name : String
  summary : String
  /-- The name of what the command is asked about. -/
  parameter : Option String
deriving DecidableEq, Repr

namespace Command

/-- The hole for a parameter. -/
def hole (parameter : String) : String := "\x7b" ++ parameter ++ "\x7d"

def terminal (c : Command) : String :=
  "atlas " ++ c.name ++ (c.parameter.map fun p => " " ++ hole p).getD ""

/-- The request `{"action":…,"payload":{…}}`. -/
def toolCall (c : Command) : String :=
  let payload := (c.parameter.map fun p => "\"" ++ p ++ "\":\"" ++ hole p ++ "\"").getD ""
  "\x7b\"action\":\"" ++ c.name ++ "\",\"payload\":\x7b" ++ payload ++ "\x7d\x7d"

def template (c : Command) : Dialect → String
  | .terminal => c.terminal
  | .toolCall => c.toolCall

def render (c : Command) (dialect : Dialect) (values : Values) : String :=
  fill (c.template dialect) dialect values

def encode (c : Command) : Json :=
  .record [("name", some (.string c.name)), ("summary", some (.string c.summary)),
    ("terminal", some (.string c.terminal)), ("tool_call", some (.string c.toolCall))]

end Command

def catalog : List Command :=
  [⟨"map", "Project map: categories, areas and one-line descriptions.", none⟩,
   ⟨"areas", "Feature areas with file counts.", none⟩,
   ⟨"area", "Files that belong to one area.", some "area"⟩,
   ⟨"suggest", "Files worth reading for a task description.", some "query"⟩,
   ⟨"context", "Category, areas and neighbours of a file.", some "file"⟩,
   ⟨"impact", "Files affected by changing a file.", some "file"⟩,
   ⟨"dead", "Files and exports nothing imports.", none⟩,
   ⟨"find", "Resolve a loose file reference to a path.", some "query"⟩,
   ⟨"describe", "One-line description of a file.", some "file"⟩]

def command? (name : String) : Option Command := catalog.find? fun c => c.name = name

/-- The catalog as an agent sees it. -/
def inventory (version : String) : Json :=
  .record [("binary", some (.string "atlas")), ("commands", some (.list catalog Command.encode)),
    ("count", some (.ofNat catalog.length)), ("version", some (.string version))]

example : (command? "find").map (fun c => c.render .toolCall [("query", "a\"b")]) =
    some "\x7b\"action\":\"find\",\"payload\":\x7b\"query\":\"a\\\"b\"\x7d\x7d" := by
  decide

end Gazetteer.Hint
