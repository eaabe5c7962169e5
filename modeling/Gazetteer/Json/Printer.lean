import Gazetteer.Json.Value
import Gazetteer.Number.Shortest

/-!
# JSON texts

A value as text, on one line without spaces or over many lines with two spaces for each level.
-/

namespace Gazetteer.Json

/-- The digits of a control character in an escape of four hexadecimal digits. -/
def controlDigits (n : Nat) : List Char :=
  ['0', '0', Nat.digitChar (n / 16), Nat.digitChar (n % 16)]

/-- A character as it stands inside a quoted string. -/
def escapedChar (c : Char) : List Char :=
  match c with
  | '"' => ['\\', '"']
  | '\\' => ['\\', '\\']
  | '\x08' => ['\\', 'b']
  | '\x0c' => ['\\', 'f']
  | '\n' => ['\\', 'n']
  | '\r' => ['\\', 'r']
  | '\t' => ['\\', 't']
  | c => if c.toNat < 0x20 then '\\' :: 'u' :: controlDigits c.toNat else [c]

/-- A text as it stands between the quotes of a string. -/
def escaped (cs : List Char) : List Char := cs.flatMap escapedChar

def quotedString (s : String) : List Char := '"' :: escaped s.toList ++ ['"']

def Number.text : Number → List Char
  | .whole n => if n < 0 then '-' :: Nat.toDigits 10 n.natAbs else Nat.toDigits 10 n.natAbs
  | .fraction x => x.text

def scalarText : Json → List Char
  | .null => ['n', 'u', 'l', 'l']
  | .bool true => ['t', 'r', 'u', 'e']
  | .bool false => ['f', 'a', 'l', 's', 'e']
  | .number n => n.text
  | .string s => quotedString s
  | .array _ | .object _ => []

mutual

/-- The text of a value on one line. -/
def compactText : Json → List Char
  | .array [] => ['[', ']']
  | .array (item :: items) => '[' :: compactText item ++ compactItems items ++ [']']
  | .object [] => ['\x7b', '\x7d']
  | .object ((name, value) :: fields) =>
    '\x7b' :: quotedString name ++ ':' :: compactText value ++ compactFields fields ++ ['\x7d']
  | value => scalarText value

def compactItems : List Json → List Char
  | [] => []
  | item :: items => ',' :: compactText item ++ compactItems items

def compactFields : List (String × Json) → List Char
  | [] => []
  | (name, value) :: fields =>
    ',' :: quotedString name ++ ':' :: compactText value ++ compactFields fields

end

/-- A new line indented to a level. -/
def freshLine (level : Nat) : List Char := '\n' :: List.replicate (2 * level) ' '

mutual

/-- The text of a value over many lines, its first line indented to `level` by what precedes it. -/
def prettyText (level : Nat) : Json → List Char
  | .array [] => ['[', ']']
  | .array (item :: items) =>
    '[' :: freshLine (level + 1) ++ prettyText (level + 1) item ++ prettyItems (level + 1) items ++
      freshLine level ++ [']']
  | .object [] => ['\x7b', '\x7d']
  | .object ((name, value) :: fields) =>
    '\x7b' :: freshLine (level + 1) ++ quotedString name ++ ':' :: ' ' ::
      prettyText (level + 1) value ++ prettyFields (level + 1) fields ++ freshLine level ++ ['\x7d']
  | value => scalarText value

def prettyItems (level : Nat) : List Json → List Char
  | [] => []
  | item :: items => ',' :: freshLine level ++ prettyText level item ++ prettyItems level items

def prettyFields (level : Nat) : List (String × Json) → List Char
  | [] => []
  | (name, value) :: fields =>
    ',' :: freshLine level ++ quotedString name ++ ':' :: ' ' :: prettyText level value ++
      prettyFields level fields

end

def compact (v : Json) : String := .ofList v.compactText

def pretty (v : Json) : String := .ofList (v.prettyText 0)

end Gazetteer.Json
