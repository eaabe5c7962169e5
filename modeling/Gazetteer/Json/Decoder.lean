import Gazetteer.Json.Draft
import Gazetteer.Json.Printer
import Gazetteer.Ordered.Set
import Gazetteer.Text.Quoted

/-!
# Decoding JSON

A decoder turns a draft into a value of a type or says what is wrong. It goes through the draft in
order, so of several faults the first is reported. A record may be written as an object or as an
array of its fields in order; fields of other names are skipped but must be sound.
-/

namespace Gazetteer.Json

/-- What stood in the place of something else. -/
inductive Found where
  | null
  | bool (b : Bool)
  | number (n : Number)
  | string (s : String)
  | sequence
  | map
deriving DecidableEq, Repr

inductive DecodeError where
  | malformed
  | missingField (name : String)
  | duplicateField (name : String)
  | unknownVariant (found : String) (expected : List String)
  | invalidLength (length : Nat) (expected : String)
  | invalidType (found : Found) (expected : String)
  | invalidValue (found : Found) (expected : String)
  | refused (message : String)
deriving DecidableEq, Repr

def Found.message : Found → String
  | .null => "null"
  | .bool b => "boolean `" ++ (if b then "true" else "false") ++ "`"
  | .number (.whole n) => "integer `" ++ String.ofList (Number.text (.whole n)) ++ "`"
  | .number (.fraction x) => "floating point `" ++ String.ofList x.text ++ "`"
  | .string s => "string " ++ Text.quoted s
  | .sequence => "sequence"
  | .map => "map"

/-- The alternatives of a choice, as a message lists them. -/
def alternatives : List String → String
  | [] => "there are no variants"
  | [a] => "expected `" ++ a ++ "`"
  | [a, b] => "expected `" ++ a ++ "` or `" ++ b ++ "`"
  | names => "expected one of " ++ ", ".intercalate (names.map fun name => "`" ++ name ++ "`")

def DecodeError.message : DecodeError → String
  | .malformed => "malformed JSON text"
  | .missingField name => "missing field `" ++ name ++ "`"
  | .duplicateField name => "duplicate field `" ++ name ++ "`"
  | .unknownVariant found expected => "unknown variant `" ++ found ++ "`, " ++ alternatives expected
  | .invalidLength length expected =>
    "invalid length " ++ toString length ++ ", expected " ++ expected
  | .invalidType found expected => "invalid type: " ++ found.message ++ ", expected " ++ expected
  | .invalidValue found expected => "invalid value: " ++ found.message ++ ", expected " ++ expected
  | .refused message => message

/-- Where a draft comes from. A text may nest containers to a limited depth only, and a mistake in
its form is a mistake in the text; a value has its form already. -/
inductive Source where
  | text (room : Nat)
  | value
deriving DecidableEq, Repr

/-- The source inside a container. -/
def Source.inside : Source → Except DecodeError Source
  | .text room => if room ≤ 1 then .error .malformed else .ok (.text (room - 1))
  | .value => .ok .value

/-- A mistake in the form of a draft, unless the draft is of a value. -/
def Source.formError (source : Source) (otherwise : DecodeError) : DecodeError :=
  match source with
  | .text _ => .malformed
  | .value => otherwise

abbrev Decoder (α : Type) := Source → Draft → Except DecodeError α

namespace Decoder

/-- What a draft holds instead of what was expected. -/
def mismatch (expected : String) : Draft → DecodeError
  | .null => .invalidType .null expected
  | .bool b => .invalidType (.bool b) expected
  | .number n => .invalidType (.number n) expected
  | .string s => .invalidType (.string s) expected
  | .array _ _ => .invalidType .sequence expected
  | .object _ _ => .invalidType .map expected
  | .void | .broken => .malformed

def string : Decoder String
  | _, .string s => .ok s
  | _, d => .error (mismatch "a string" d)

/-- A string that names a file or folder. -/
def path : Decoder String
  | _, .string s => .ok s
  | _, d => .error (mismatch "path string" d)

def bool : Decoder Bool
  | _, .bool b => .ok b
  | _, d => .error (mismatch "a boolean" d)

/-- A whole number from 0 to below `size`. -/
def wordOf (size : Nat) (expected : String) : Decoder Nat
  | _, .number (.whole n) =>
    if 0 ≤ n ∧ n < size then .ok n.toNat
    else .error (.invalidValue (.number (.whole n)) expected)
  | _, d => .error (mismatch expected d)

def word : Decoder UInt64 := fun source d => (wordOf UInt64.size "u64" source d).map UInt64.ofNat

def count : Decoder Nat := wordOf UInt64.size "usize"

def small : Decoder Nat := wordOf UInt32.size "u32"

def tiny : Decoder Nat := wordOf UInt8.size "u8"

/-- A value or `null`. -/
def optional (decoder : Decoder α) : Decoder (Option α)
  | _, .null => .ok none
  | source, d => (decoder source d).map some

/-- A value that a function may refuse with a message. -/
def refine (decoder : Decoder α) (f : α → Except String β) : Decoder β :=
  fun source d => do
    match f (← decoder source d) with
    | .ok b => .ok b
    | .error message => .error (.refused message)

def unlessOpen (closed : Bool) (a : α) : Except DecodeError α :=
  if closed then .ok a else .error .malformed

def list (decoder : Decoder α) : Decoder (List α)
  | source, .array items closed => do
    let inside ← source.inside
    unlessOpen closed (← items.mapM (decoder inside))
  | _, d => .error (mismatch "a sequence" d)

/-- A set written as a list of strings. -/
def stringSet : Decoder (OrdSet String) := fun source d => (list string source d).map OrdSet.ofList

/-- The entries of an object in order, their names read by `key`. -/
def entries (key : String → Except DecodeError κ) (decoder : Decoder α) : Decoder (List (κ × α))
  | source, .object fields closed => do
    let inside ← source.inside
    unlessOpen closed (← fields.mapM fun (name, value) => do
      match name with
      | none => .error .malformed
      | some name =>
        let k ← key name
        return (k, ← decoder inside value))
  | _, d => .error (mismatch "a map" d)

/-- An object as a map from its names; of two fields with one name the later stays. -/
def dict (decoder : Decoder α) : Decoder (OrdMap String α) :=
  fun source d => (entries .ok decoder source d).map OrdMap.ofList

def unit : Decoder Unit
  | _, .null => .ok ()
  | _, d => .error (mismatch "unit" d)

/-- The member of a choice with a name. -/
def pick (choices : List (String × α)) (name : String) : Except DecodeError α :=
  match choices.lookup name with
  | some a => .ok a
  | none => .error (.unknownVariant name (choices.map Prod.fst))

/-- One of a choice of names, written as a string or as an object with the name over `null`. -/
def choice (choices : List (String × α)) : Decoder α
  | _, .string name => pick choices name
  | .value, .object [(some name, content)] true => do
    let a ← pick choices name
    unit .value content
    return a
  | .value, .object _ _ => .error (.invalidValue .map "map with a single key")
  | .text room, .object ((some name, content) :: fields) closed => do
    let inside ← (Source.text room).inside
    let a ← pick choices name
    unit inside content
    if closed && fields.isEmpty then .ok a else .error .malformed
  | source, d => .error (source.formError (mismatch "string or map" d))

mutual

/-- A value of any kind. -/
def any (source : Source) : Draft → Except DecodeError Json
  | .null => .ok .null
  | .bool b => .ok (.bool b)
  | .number n => .ok (.number n)
  | .string s => .ok (.string s)
  | .array items closed => do
    let inside ← source.inside
    unlessOpen closed (.array (← anyItems inside items))
  | .object fields closed => do
    let inside ← source.inside
    unlessOpen closed (.ofFields (← anyFields inside fields))
  | .void | .broken => .error .malformed

def anyItems (source : Source) : List Draft → Except DecodeError (List Json)
  | [] => .ok []
  | item :: items => do
    let v ← any source item
    return v :: (← anyItems source items)

def anyFields (source : Source) :
    List (Option String × Draft) → Except DecodeError (List (String × Json))
  | [] => .ok []
  | (none, _) :: _ => .error .malformed
  | (some name, value) :: fields => do
    let v ← any source value
    return (name, v) :: (← anyFields source fields)

end

/-- The value of a draft; nothing but white space may follow it. Containers nest at most 127 deep.
-/
def ofDraft (decoder : Decoder α) (draft : Draft) (rest : List Char) : Except DecodeError α := do
  let a ← decoder (.text 128) draft
  if rest.all Draft.isSpace then .ok a else .error .malformed

/-- The value that a text denotes. -/
def ofText (decoder : Decoder α) (cs : List Char) : Except DecodeError α :=
  let (draft, rest) := Draft.read cs
  decoder.ofDraft draft rest

/-- The value that a text denotes which comes as bytes. -/
def ofBytes (decoder : Decoder α) (bs : List UInt8) : Except DecodeError α :=
  let (draft, rest) := Draft.readBytes bs
  decoder.ofDraft draft rest

def ofValue (decoder : Decoder α) (v : Json) : Except DecodeError α := decoder .value (.ofJson v)

end Decoder

/-- The value that a text denotes. -/
def read? (text : String) : Option Json := (Decoder.ofText Decoder.any text.toList).toOption

example : (read? "[1, -0, 1.50, \"\\ud83d\\ude00\", \x7b\"b\":1,\"a\":2,\"b\":3\x7d]").map compact =
    some "[1,-0.0,1.5,\"😀\",\x7b\"a\":2,\"b\":3\x7d]" := by
  decide +kernel

example : read? "\"\\ud83d\"" = none := by decide

end Gazetteer.Json
