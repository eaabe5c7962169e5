import Gazetteer.Number.Binary64
import Gazetteer.Ordered.Map

/-!
# JSON values

A value keeps whole numbers and binary fractions apart. The fields of an object are a list; where
the program builds one, the names increase, so that equal objects are equal values
(`Json.Canonical`).
-/

namespace Gazetteer

inductive Json.Number where
  | whole (n : Int)
  | fraction (x : Binary64)
deriving DecidableEq, Repr

inductive Json where
  | null
  | bool (b : Bool)
  | number (n : Json.Number)
  | string (s : String)
  | array (items : List Json)
  | object (fields : List (String × Json))
deriving Repr, Inhabited

namespace Json

mutual

def decEq : (a b : Json) → Decidable (a = b)
  | .null, .null => isTrue rfl
  | .bool a, .bool b => if h : a = b then isTrue (h ▸ rfl) else isFalse fun e => h (Json.bool.inj e)
  | .number a, .number b =>
    if h : a = b then isTrue (h ▸ rfl) else isFalse fun e => h (Json.number.inj e)
  | .string a, .string b =>
    if h : a = b then isTrue (h ▸ rfl) else isFalse fun e => h (Json.string.inj e)
  | .array a, .array b =>
    match decEqItems a b with
    | isTrue h => isTrue (h ▸ rfl)
    | isFalse h => isFalse fun e => h (Json.array.inj e)
  | .object a, .object b =>
    match decEqFields a b with
    | isTrue h => isTrue (h ▸ rfl)
    | isFalse h => isFalse fun e => h (Json.object.inj e)
  | .null, .bool _ | .null, .number _ | .null, .string _ | .null, .array _ | .null, .object _
  | .bool _, .null | .bool _, .number _ | .bool _, .string _ | .bool _, .array _
  | .bool _, .object _ | .number _, .null | .number _, .bool _ | .number _, .string _
  | .number _, .array _ | .number _, .object _ | .string _, .null | .string _, .bool _
  | .string _, .number _ | .string _, .array _ | .string _, .object _ | .array _, .null
  | .array _, .bool _ | .array _, .number _ | .array _, .string _ | .array _, .object _
  | .object _, .null | .object _, .bool _ | .object _, .number _ | .object _, .string _
  | .object _, .array _ => isFalse nofun

def decEqItems : (a b : List Json) → Decidable (a = b)
  | [], [] => isTrue rfl
  | [], _ :: _ | _ :: _, [] => isFalse nofun
  | x :: a, y :: b =>
    match decEq x y with
    | isFalse h => isFalse fun e => h (List.cons.inj e).1
    | isTrue h =>
      match decEqItems a b with
      | isFalse h => isFalse fun e => h (List.cons.inj e).2
      | isTrue h' => isTrue (h ▸ h' ▸ rfl)

def decEqFields : (a b : List (String × Json)) → Decidable (a = b)
  | [], [] => isTrue rfl
  | [], _ :: _ | _ :: _, [] => isFalse nofun
  | (k, x) :: a, (l, y) :: b =>
    if hk : k = l then
      match decEq x y with
      | isFalse h => isFalse fun e => h (Prod.mk.inj (List.cons.inj e).1).2
      | isTrue h =>
        match decEqFields a b with
        | isFalse h => isFalse fun e => h (List.cons.inj e).2
        | isTrue h' => isTrue (hk ▸ h ▸ h' ▸ rfl)
    else isFalse fun e => hk (Prod.mk.inj (List.cons.inj e).1).1

end

instance : DecidableEq Json := decEq

mutual

/-- The names of the fields of every object increase. -/
inductive Canonical : Json → Prop
  | null : Canonical null
  | bool (b) : Canonical (bool b)
  | number (n) : Canonical (number n)
  | string (s) : Canonical (string s)
  | array {items} : CanonicalItems items → Canonical (array items)
  | object {fields} : Entries.Increasing fields → CanonicalFields fields → Canonical (object fields)

inductive CanonicalItems : List Json → Prop
  | nil : CanonicalItems []
  | cons {item items} : Canonical item → CanonicalItems items → CanonicalItems (item :: items)

inductive CanonicalFields : List (String × Json) → Prop
  | nil : CanonicalFields []
  | cons {name value fields} :
    Canonical value → CanonicalFields fields → CanonicalFields ((name, value) :: fields)

end

/-- The object with these fields; of two fields with one name the later stays. -/
def ofFields (fields : List (String × Json)) : Json := .object (OrdMap.ofList fields).entries

/-- The object with those of these fields that are present, in the order of their names. Where a
record is written in the order in which its fields are declared, its text differs from that of this
object; no reader goes by the order. -/
def record (fields : List (String × Option Json)) : Json :=
  ofFields (fields.filterMap fun (name, value?) => value?.map (name, ·))

def ofNat (n : Nat) : Json := .number (.whole n)

def ofWord (n : UInt64) : Json := .ofNat n.toNat

def strings (items : List String) : Json := .array (items.map .string)

/-- The field of an object by its name. -/
def field? (name : String) : Json → Option Json
  | .object fields => Entries.find? name fields
  | _ => none

end Json
end Gazetteer
