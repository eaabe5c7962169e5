import Gazetteer.Text.PrintableTable

/-!
# Quoted texts

A text between double quotes as messages show it: quotes and backslashes are escaped, common
controls have a letter, and whatever would not be seen as a character of its own is shown as
`\u{…}` with its code point in hexadecimal.
-/

namespace Gazetteer.Text

/-- Whether a character is visible and stands on its own. -/
def isVisible (c : Char) : Bool :=
  !covers unprintableSpans c.toNat && !covers extenderSpans c.toNat

def quotedChar (c : Char) : List Char :=
  match c with
  | '"' => ['\\', '"']
  | '\\' => ['\\', '\\']
  | '\n' => ['\\', 'n']
  | '\r' => ['\\', 'r']
  | '\t' => ['\\', 't']
  | '\x00' => ['\\', '0']
  | c => if isVisible c then [c] else ['\\', 'u', '{'] ++ Nat.toDigits 16 c.toNat ++ ['}']

def quoted (s : String) : String :=
  String.ofList ('"' :: s.toList.flatMap quotedChar ++ ['"'])

example : quoted "a\"b\n\u00a0" = "\"a\\\"b\\n\\u\x7ba0\x7d\"" := by decide

end Gazetteer.Text
