import Gazetteer.Json.Printer
import Gazetteer.Json.Record

/-!
# Command templates

A template is a text with holes, names of letters, digits and underscores between braces. Filling it
puts a value into each hole at once, so that a value is never searched for holes. In the dialect of
tool calls the holes stand inside JSON strings and values are escaped accordingly.
-/

namespace Gazetteer.Hint

/-- How a command is spelled for the reader: as a shell command or as a JSON request. -/
inductive Dialect where
  | terminal
  | toolCall
deriving DecidableEq, Repr

namespace Dialect

def tag : Dialect → String
  | .terminal => "terminal"
  | .toolCall => "tool_call"

def tagged : List (String × Dialect) := [("terminal", .terminal), ("tool_call", .toolCall)]

def encode (d : Dialect) : Json := .string d.tag

def decoder : Json.Decoder Dialect := .choice tagged

/-- A value as it stands in a hole. -/
def escape (d : Dialect) (value : List Char) : List Char :=
  match d with
  | .terminal => value
  | .toolCall => Json.escaped value

end Dialect

/-- Values for the holes of a template, by name. -/
abbrev Values := List (String × String)

inductive Piece where
  | char (c : Char)
  | hole (name : List Char)
deriving DecidableEq, Repr

def isNameChar (c : Char) : Bool := c.isAlphanum || c = '_'

/-- An opening brace and a name that did not become a hole; the name is given last character first.
-/
def unclosed (name : List Char) : List Piece := .char '\x7b' :: name.reverse.map .char

/-- The pieces of a template. With `some name` the template is read after an opening brace and the
characters of `name`, last first. -/
def piecesFrom : Option (List Char) → List Char → List Piece
  | none, [] => []
  | some name, [] => unclosed name
  | none, c :: cs => if c = '\x7b' then piecesFrom (some []) cs else .char c :: piecesFrom none cs
  | some name, c :: cs =>
    if isNameChar c then piecesFrom (some (c :: name)) cs
    else if c = '\x7d' && !name.isEmpty then .hole name.reverse :: piecesFrom none cs
    else if c = '\x7b' then unclosed name ++ piecesFrom (some []) cs
    else unclosed name ++ .char c :: piecesFrom none cs

def pieces (template : List Char) : List Piece := piecesFrom none template

/-- A piece with its hole filled. A hole without a value shows its name. -/
def Piece.fill (dialect : Dialect) (values : Values) : Piece → List Char
  | .char c => [c]
  | .hole name =>
    match values.lookup (.ofList name) with
    | some value => dialect.escape value.toList
    | none => '<' :: name ++ ['>']

/-- The template with values in its holes. -/
def fill (template : String) (dialect : Dialect) (values : Values) : String :=
  .ofList ((pieces template.toList).flatMap (Piece.fill dialect values))

example : fill "\x7b\x7ba\x7d \x7bb\x7d" .terminal [("a", "\x7bb\x7d")] = "\x7b\x7bb\x7d <b>" := by
  decide

end Gazetteer.Hint
