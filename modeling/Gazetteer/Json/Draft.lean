import Gazetteer.Json.Value
import Gazetteer.Number.Decimal
import Gazetteer.Number.Numeral

/-!
# Reading JSON texts

A text is read as far as it goes: where it stops being JSON the draft says `broken`, and the
containers around that place stay open. So whoever decodes a draft in order meets a wrong value
before a mistake in the text that comes after it. A value that may stand in a text but denotes
nothing, a string with half a surrogate pair or a number too large, is `void`: it can be skipped.
A text may also come as bytes; then a string whose bytes are not UTF-8 is `void` too.
-/

namespace Gazetteer.Json

/-- A JSON text as far as it can be read. -/
inductive Draft where
  | null
  | bool (b : Bool)
  | number (n : Number)
  | string (s : String)
  | void
  | array (items : List Draft) (closed : Bool)
  | object (fields : List (Option String × Draft)) (closed : Bool)
  | broken
deriving Repr, Inhabited

namespace Draft

mutual

/-- Whether a text is JSON up to its end, whatever it denotes. -/
def isSound : Draft → Bool
  | .null | .bool _ | .number _ | .string _ | .void => true
  | .array items closed => closed && areSound items
  | .object fields closed => closed && fieldsAreSound fields
  | .broken => false

def areSound : List Draft → Bool
  | [] => true
  | item :: items => isSound item && areSound items

def fieldsAreSound : List (Option String × Draft) → Bool
  | [] => true
  | (_, value) :: fields => isSound value && fieldsAreSound fields

end

mutual

/-- The draft of a value. -/
def ofJson : Json → Draft
  | .null => .null
  | .bool b => .bool b
  | .number n => .number n
  | .string s => .string s
  | .array items => .array (ofItems items) true
  | .object fields => .object (ofFields fields) true

def ofItems : List Json → List Draft
  | [] => []
  | item :: items => ofJson item :: ofItems items

def ofFields : List (String × Json) → List (Option String × Draft)
  | [] => []
  | (name, value) :: fields => (some name, ofJson value) :: ofFields fields

end

/-- White space between the parts of a text. -/
def isSpace (c : Char) : Bool := c = ' ' || c = '\n' || c = '\r' || c = '\t'

def skipSpace (cs : List Char) : List Char := cs.dropWhile isSpace

/-- A character of a string, or a number of four hexadecimal digits that stands for a UTF-16 unit.
-/
inductive Unit16 where
  | char (c : Char)
  | escape (n : Nat)

/-- The characters that the units of a string stand for, if every surrogate has its partner. -/
def paired? : List Unit16 → Option (List Char)
  | [] => some []
  | .char c :: units => (paired? units).map (c :: ·)
  | .escape high :: .escape low :: units =>
    if high < 0xD800 ∨ 0xDFFF < high then
      (paired? (.escape low :: units)).map (Char.ofNat high :: ·)
    else if high ≤ 0xDBFF ∧ 0xDC00 ≤ low ∧ low ≤ 0xDFFF then
      (paired? units).map (Char.ofNat (0x10000 + (high - 0xD800) * 0x400 + (low - 0xDC00)) :: ·)
    else none
  | .escape n :: units =>
    if n < 0xD800 ∨ 0xDFFF < n then (paired? units).map (Char.ofNat n :: ·) else none

/-- The character that a backslash and a letter stand for. -/
def escapeOf? : Char → Option Char
  | '"' => some '"'
  | '\\' => some '\\'
  | '/' => some '/'
  | 'b' => some '\x08'
  | 'f' => some '\x0c'
  | 'n' => some '\n'
  | 'r' => some '\r'
  | 't' => some '\t'
  | _ => none

/-- The units of a string after its opening quote, and the text after its closing quote. -/
def readUnits? : List Char → Option (List Unit16 × List Char)
  | [] => none
  | '"' :: rest => some ([], rest)
  | '\\' :: 'u' :: a :: b :: c :: d :: rest =>
    match Numeral.read? 16 [a, b, c, d], readUnits? rest with
    | some n, some (units, rest) => some (.escape n :: units, rest)
    | _, _ => none
  | '\\' :: e :: rest =>
    match escapeOf? e, readUnits? rest with
    | some c, some (units, rest) => some (.char c :: units, rest)
    | _, _ => none
  | c :: rest =>
    if c.toNat < 0x20 ∨ c = '\\' then none
    else (readUnits? rest).map fun (units, rest) => (.char c :: units, rest)

/-- The characters that the units of a string stand for, if they stand for any. -/
abbrev Spelling := List Unit16 → Option (List Char)

/-- Puts together characters that stand for the bytes of UTF-8. `run` holds the bytes that still
wait for it, last first. -/
def decoded? (run : List UInt8) : List Unit16 → Option (List Unit16)
  | [] => charsOf? run
  | .char c :: units => decoded? (.ofNat c.toNat :: run) units
  | .escape n :: units => do
    let before ← charsOf? run
    let after ← decoded? [] units
    return before ++ .escape n :: after
where
  charsOf? (run : List UInt8) : Option (List Unit16) :=
    (String.fromUTF8? ⟨run.reverse.toArray⟩).map fun s => s.toList.map .char

/-- The spelling of a text that comes as bytes. -/
def pairedBytes? : Spelling := fun units => (decoded? [] units).bind paired?

/-- A string after its opening quote. The first part is `none` if the string denotes no text. -/
def readString? (spelling : Spelling) (cs : List Char) : Option (Option String × List Char) :=
  (readUnits? cs).map fun (units, rest) => ((spelling units).map String.ofList, rest)

/-- The digits of a number: those of its whole part, of its fraction, if any, and of its exponent,
if any, with the sign. -/
structure NumberParts where
  negative : Bool
  whole : List Char
  fraction : Option (List Char)
  exponent : Option (Bool × List Char)

def digitsOf (cs : List Char) : List Char × List Char := cs.span Char.isDigit

/-- A fraction, if one follows: `none` if its point has no digits after it. -/
def readFraction? : List Char → Option (Option (List Char) × List Char)
  | '.' :: cs =>
    let (digits, rest) := digitsOf cs
    if digits = [] then none else some (some digits, rest)
  | cs => some (none, cs)

/-- An exponent, if one follows: `none` if its letter has no digits after it. -/
def readExponent? : List Char → Option (Option (Bool × List Char) × List Char)
  | [] => some (none, [])
  | e :: cs =>
    if e = 'e' ∨ e = 'E' then
      let (negative, cs) := match cs with
        | '-' :: cs => (true, cs)
        | '+' :: cs => (false, cs)
        | cs => (false, cs)
      let (digits, rest) := digitsOf cs
      if digits = [] then none else some (some (negative, digits), rest)
    else some (none, e :: cs)

def readNumber? (cs : List Char) : Option (NumberParts × List Char) := do
  let (negative, cs) := match cs with
    | '-' :: cs => (true, cs)
    | cs => (false, cs)
  let (whole, cs) := digitsOf cs
  if whole = [] ∨ (whole.head? = some '0' ∧ 1 < whole.length) then none
  else
    let (fraction, cs) ← readFraction? cs
    let (exponent, cs) ← readExponent? cs
    some (⟨negative, whole, fraction, exponent⟩, cs)

/-- Digits appended to a number for as long as it stays below `2 ^ 64`, and how many were left. -/
def appendDigits (n : Nat) : List Char → Nat × Nat
  | [] => (n, 0)
  | c :: cs =>
    let longer := 10 * n + Numeral.digitValue c
    if longer < UInt64.size then appendDigits longer cs else (n, (c :: cs).length)

/-- A whole number of 64 bits stays whole; any other number, and zero with a minus sign, is a
fraction. `none` if it is too large. -/
def NumberParts.number? (p : NumberParts) : Option Number :=
  let (digits, left) := appendDigits 0 p.whole
  if p.fraction = none ∧ p.exponent = none ∧ left = 0 then
    if !p.negative then some (.whole digits)
    else if 0 < digits ∧ digits ≤ UInt64.size / 2 then some (.whole (-digits))
    else (Binary64.ofDecimal? true digits 0).map .fraction
  else
    let places := p.fraction.getD []
    let (digits, unused) := appendDigits digits places
    let scale : Int := (left : Int) - ((places.length : Int) - unused)
    let power : Int := match p.exponent with
      | none => 0
      | some (true, e) => -(Numeral.value 10 e : Int)
      | some (false, e) => Numeral.value 10 e
    (Binary64.ofDecimal? p.negative digits (scale + power)).map .fraction

/-- A number, or a broken text where no number stands. -/
def readNumber (cs : List Char) : Draft × List Char :=
  match readNumber? cs with
  | none => (.broken, [])
  | some (parts, rest) =>
    match parts.number? with
    | some n => (.number n, rest)
    | none => (.void, rest)

mutual

/-- A value at the start of a text, and the text after it. After a mistake nothing is left. -/
def readValue (spelling : Spelling) : Nat → List Char → Draft × List Char
  | 0, _ => (.broken, [])
  | fuel + 1, cs =>
    match skipSpace cs with
    | '\x7b' :: cs =>
      match skipSpace cs with
      | '\x7d' :: cs => (.object [] true, cs)
      | cs =>
        let (fields, closed, rest) := readFields spelling fuel cs
        (.object fields closed, rest)
    | '[' :: cs =>
      match skipSpace cs with
      | ']' :: cs => (.array [] true, cs)
      | cs =>
        let (items, closed, rest) := readItems spelling fuel cs
        (.array items closed, rest)
    | '"' :: cs =>
      match readString? spelling cs with
      | none => (.broken, [])
      | some (some s, rest) => (.string s, rest)
      | some (none, rest) => (.void, rest)
    | 'n' :: 'u' :: 'l' :: 'l' :: cs => (.null, cs)
    | 't' :: 'r' :: 'u' :: 'e' :: cs => (.bool true, cs)
    | 'f' :: 'a' :: 'l' :: 's' :: 'e' :: cs => (.bool false, cs)
    | cs => readNumber cs

/-- The items of an array up to its closing bracket, and whether it was found. -/
def readItems (spelling : Spelling) : Nat → List Char → List Draft × Bool × List Char
  | 0, _ => ([], false, [])
  | fuel + 1, cs =>
    let (item, rest) := readValue spelling fuel cs
    match skipSpace rest with
    | ',' :: rest =>
      let (items, closed, rest) := readItems spelling fuel rest
      (item :: items, closed, rest)
    | ']' :: rest => ([item], true, rest)
    | _ => ([item], false, [])

/-- The fields of an object up to its closing brace, and whether it was found. -/
def readFields (spelling : Spelling) :
    Nat → List Char → List (Option String × Draft) × Bool × List Char
  | 0, _ => ([], false, [])
  | fuel + 1, cs =>
    match skipSpace cs with
    | '"' :: cs =>
      match readString? spelling cs with
      | none => ([], false, [])
      | some (name, rest) =>
        match skipSpace rest with
        | ':' :: rest =>
          let (value, rest) := readValue spelling fuel rest
          match skipSpace rest with
          | ',' :: rest =>
            let (fields, closed, rest) := readFields spelling fuel rest
            ((name, value) :: fields, closed, rest)
          | '\x7d' :: rest => ([(name, value)], true, rest)
          | _ => ([(name, value)], false, [])
        | _ => ([(name, .broken)], false, [])
    | _ => ([], false, [])

end

/-- A text as far as it can be read, and what follows the value. Each character costs at most two
calls, so the fuel suffices. -/
def readSpelt (spelling : Spelling) (cs : List Char) : Draft × List Char :=
  readValue spelling (2 * cs.length + 2) cs

/-- Reads a text. -/
def read (cs : List Char) : Draft × List Char := readSpelt paired? cs

/-- Reads a text that comes as bytes. Only strings may hold any beyond ASCII, so for all else a byte
is the character with its code. -/
def readBytes (bs : List UInt8) : Draft × List Char :=
  readSpelt pairedBytes? (bs.map fun b => Char.ofNat b.toNat)

end Draft
end Gazetteer.Json
