import Gazetteer.Text.Blank
import Gazetteer.Text.Case

/-!
# Categories

The structural role of a file. Each category has a tag, under which it is stored, and a label for
readers; tags are read back in any letter case.
-/

namespace Gazetteer

/-- The structural role of a file. -/
inductive Category where
  | page
  | layout
  | route
  | component
  | hook
  | store
  | service
  | util
  | type
  | config
  | test
  | other
deriving DecidableEq, Repr

namespace Category

def all : List Category :=
  [.page, .layout, .route, .component, .hook, .store, .service, .util, .type, .config, .test,
   .other]

def tag : Category → String
  | .page => "page"
  | .layout => "layout"
  | .route => "route"
  | .component => "component"
  | .hook => "hook"
  | .store => "store"
  | .service => "service"
  | .util => "util"
  | .type => "type"
  | .config => "config"
  | .test => "test"
  | .other => "other"

def label : Category → String
  | .page => "Page"
  | .layout => "Layout"
  | .route => "Route handler"
  | .component => "UI component"
  | .hook => "Hook"
  | .store => "State store"
  | .service => "Service"
  | .util => "Utility module"
  | .type => "Type definitions"
  | .config => "Configuration"
  | .test => "Tests"
  | .other => "Module"

/-- The tags with their categories. -/
def tagged : List (String × Category) := all.map fun c => (c.tag, c)

/-- The place of a category in the order of `all`. -/
def index (c : Category) : Nat := all.idxOf c

instance : Ord Category := ⟨compareOn index⟩

instance : Std.TransOrd Category := inferInstanceAs (Std.TransCmp (compareOn index))

theorem index_inj {a b : Category} (h : a.index = b.index) : a = b := by
  revert h
  cases a <;> cases b <;> decide

instance : Std.LawfulEqOrd Category where
  eq_of_compare h := index_inj (Nat.compare_eq_eq.1 h)

/-- The error for a text that is no tag. -/
structure Unknown where
  text : String
deriving DecidableEq, Repr

def Unknown.message (e : Unknown) : String := "unknown file category '" ++ e.text ++ "'"

/-- The category with a tag, in any letter case and with white space around it. -/
def ofText (text : String) : Except Unknown Category :=
  let lowered := String.ofList (Text.lower (Text.trim text.toList))
  match tagged.lookup lowered with
  | some c => .ok c
  | none => .error ⟨text⟩

end Category
end Gazetteer
