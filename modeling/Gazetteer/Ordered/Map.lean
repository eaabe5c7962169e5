import Gazetteer.Ordered.Entries

/-!
# Finite maps in key order

A map keeps its entries in strictly increasing order of keys, so two maps with the same look-ups are
equal (`OrdMap.ext_find?`) and listing a map is listing it in order.
-/

namespace Gazetteer

/-- A finite map, kept as its entries in strictly increasing order of keys. -/
structure OrdMap (κ : Type u) (α : Type v) [Ord κ] where
  entries : List (κ × α)
  increasing : Entries.Increasing entries
deriving DecidableEq

namespace OrdMap

variable {κ : Type u} {α : Type v} {β : Type w} [Ord κ]

def empty : OrdMap κ α := ⟨[], List.Pairwise.nil⟩

instance : Inhabited (OrdMap κ α) := ⟨empty⟩

def keys (m : OrdMap κ α) : List κ := m.entries.map Prod.fst

def values (m : OrdMap κ α) : List α := m.entries.map Prod.snd

def isEmpty (m : OrdMap κ α) : Bool := m.entries.isEmpty

def find? [DecidableEq κ] (m : OrdMap κ α) (key : κ) : Option α := Entries.find? key m.entries

/-- The map with `value` under `key`, in place of what stood there. -/
def insert [Std.TransOrd κ] (m : OrdMap κ α) (key : κ) (value : α) : OrdMap κ α :=
  ⟨Entries.insert key value m.entries, m.increasing.insert⟩

/-- The map without the entries that a test rejects. -/
def filter (m : OrdMap κ α) (keep : κ → α → Bool) : OrdMap κ α :=
  ⟨m.entries.filter fun e => keep e.1 e.2, m.increasing.filter _⟩

def erase [DecidableEq κ] (m : OrdMap κ α) (key : κ) : OrdMap κ α :=
  m.filter fun k _ => k ≠ key

/-- Each value replaced by a function of its entry. -/
def mapValues (m : OrdMap κ α) (f : κ → α → β) : OrdMap κ β :=
  ⟨m.entries.map fun e => (e.1, f e.1 e.2), by
    unfold Entries.Increasing
    exact List.pairwise_map.2 m.increasing⟩

/-- The map of a list of entries; of two under one key the later stays. -/
def ofList [Std.TransOrd κ] (es : List (κ × α)) : OrdMap κ α :=
  es.foldl (fun m e => m.insert e.1 e.2) empty

/-- The value under `key` replaced by a function of it, `none` standing for no value. -/
def alter [DecidableEq κ] [Std.TransOrd κ] (m : OrdMap κ α) (key : κ) (f : Option α → α) :
    OrdMap κ α :=
  m.insert key (f (m.find? key))

@[ext] theorem ext_entries {m n : OrdMap κ α} (h : m.entries = n.entries) : m = n := by
  cases m
  cases n
  cases h
  rfl

section Lookup

variable [DecidableEq κ]

@[simp] theorem find?_empty (key : κ) : (empty : OrdMap κ α).find? key = none := rfl

theorem find?_mapValues (m : OrdMap κ α) (f : κ → α → β) (key : κ) :
    (m.mapValues f).find? key = (m.find? key).map (f key) := by
  show Entries.find? key (m.entries.map fun e => (e.1, f e.1 e.2)) = _
  unfold find?
  induction m.entries with
  | nil => rfl
  | cons e es ih =>
    rw [List.map_cons, Entries.find?, Entries.find?, ih]
    split
    next h => rw [h]; rfl
    next => rfl

variable [Std.TransOrd κ]

@[simp] theorem find?_insert [Std.LawfulEqOrd κ] (m : OrdMap κ α) (key other : κ) (value : α) :
    (m.insert key value).find? other = if other = key then some value else m.find? other :=
  Entries.find?_insert key other value m.entries

theorem find?_eq_some_iff {m : OrdMap κ α} {key : κ} {value : α} :
    m.find? key = some value ↔ (key, value) ∈ m.entries :=
  Entries.find?_eq_some_iff m.increasing

theorem ext_find? {m n : OrdMap κ α} (h : ∀ key, m.find? key = n.find? key) : m = n :=
  ext_entries (Entries.eq_of_find? m.increasing n.increasing h)

@[simp] theorem find?_erase (m : OrdMap κ α) (key other : κ) :
    (m.erase key).find? other = if other = key then none else m.find? other := by
  refine Option.ext fun value => ?_
  rw [find?_eq_some_iff]
  by_cases h : other = key
  · simp [erase, filter, h]
  · simp [erase, filter, h, find?_eq_some_iff]

end Lookup
end OrdMap
end Gazetteer
