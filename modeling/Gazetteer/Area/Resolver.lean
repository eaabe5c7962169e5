import Gazetteer.Area.Config
import Gazetteer.Area.Inference
import Gazetteer.Category.Rule
import Gazetteer.Glob.Depth

/-!
# Areas of files

A resolver tells which areas a file belongs to. Areas that the configuration declares come first; a
file in none of them belongs to the areas that its directories name. Rules and patterns that cannot
be read are left out. Ignore patterns are matched together: one that nests too deeply leaves none.
A rule that nests too deeply leaves no resolver at all: it stops the program.
-/

namespace Gazetteer.Area

/-- How a declared area recognises its files. -/
inductive NameRule where
  | glob (g : Glob)
  /-- Part of the folded file name. -/
  | namePart (folded : List Char)
deriving Repr

/-- Case counts for nothing and wild cards match slashes. -/
def globRules : Glob.Rules := ⟨true, true⟩

namespace NameRule

/-- A rule with a slash or a wild card in it is a glob. -/
def read (raw : String) : Except Glob.Error NameRule :=
  let trimmed := Text.trim raw.toList
  if trimmed.any (· ∈ ['/', '*', '?', '[']) then (Glob.read (.ofList trimmed)).map .glob
  else .ok (.namePart (Text.fold trimmed))

def holds (path : String) (foldedName : List Char) : NameRule → Bool
  | .glob g => g.accepts globRules path
  | .namePart part => !part.isEmpty && Text.occursIn part foldedName

/-- Whether an engine compiles a rule, where there is something to compile. -/
def isCompiled (engine : Glob.Engine globRules) : NameRule → Bool
  | .glob g => engine.compiles g
  | .namePart _ => true

end NameRule

/-- A declared area with those of its rules that can be read. -/
structure Declared where
  id : String
  name : Option String
  description : Option String
  rules : List NameRule

/-- What a resolver left out of a configuration. -/
inductive Skipped where
  | areaRule (area : String) (error : Glob.Error)
  | ignorePattern (written : String) (error : Glob.Error)
  /-- All ignore patterns, because of the one at this place among those that can be read. -/
  | ignorePatterns (place : Nat)
deriving DecidableEq, Repr

def Skipped.message : Skipped → String
  | .areaRule area e =>
    "Skipping rule for area '" ++ area ++ "': Invalid pattern '" ++ e.pattern ++ "': " ++ e.message
  | .ignorePattern written e => "Skipping ignore pattern '" ++ written ++ "': " ++ e.message
  | .ignorePatterns place =>
    "Failed to compile ignore patterns: error parsing pattern " ++ toString place

structure Resolver where
  declared : List Declared
  ignore : List Glob
  descriptions : OrdMap String String
  autoDescribe : Bool

/-- The areas of a file, and whether its directories gave them. -/
structure Assignment where
  ids : OrdSet String
  autoDetected : Bool
deriving DecidableEq

namespace Resolver

def readIgnore (written : String) : Except Glob.Error Glob :=
  Glob.read (.ofList (Text.trim written.toList))

def declare (id : String) (d : Definition) : Declared :=
  ⟨id, d.name, d.description, d.rules.filterMap fun raw => (NameRule.read raw).toOption⟩

/-- The ignore patterns that can be read. -/
def readableIgnores (config : Config) : List Glob :=
  config.ignore.filterMap fun written => (readIgnore written).toOption

/-- The place of the first readable ignore pattern that nests too deeply. -/
def tooDeepPlace? (config : Config) : Option Nat :=
  (readableIgnores config).findIdx? fun g => g.isTooDeep globRules

def ofConfig (config : Config) : Resolver where
  declared := config.areas.entries.map fun (id, d) => declare id d
  ignore := if (tooDeepPlace? config).isSome then [] else readableIgnores config
  descriptions :=
    .ofList (config.descriptions.entries.map fun (path, text) => (Path.relative path, text))
  autoDescribe := config.autoDescribe

def failure? : Except ε α → Option ε
  | .ok _ => none
  | .error e => some e

/-- What `ofConfig` leaves out: rules in the order of the areas, then patterns. -/
def skipped (config : Config) : List Skipped :=
  let rules := config.areas.entries.flatMap fun (id, d) =>
    d.rules.filterMap fun raw => (failure? (NameRule.read raw)).map (.areaRule id)
  let patterns := config.ignore.filterMap fun written =>
    (failure? (readIgnore written)).map (.ignorePattern written)
  rules ++ patterns ++ ((tooDeepPlace? config).map .ignorePatterns).toList

variable (r : Resolver)

/-- Whether an engine compiles all rules of the declared areas. One that it does not compile is not
left out: making the resolver stops the program. -/
def isCompiled (engine : Glob.Engine globRules) : Bool :=
  r.declared.all fun area => area.rules.all fun rule => rule.isCompiled engine

def isIgnored (path : String) : Bool :=
  r.ignore.any fun g => g.accepts globRules (Path.relative path)

/-- The declared areas that hold a file. -/
def declaredIds (path : String) : OrdSet String :=
  let path := Path.relative path
  let name := Text.fold (Path.fileName path.toList)
  .ofList ((r.declared.filter fun area => area.rules.any fun rule => rule.holds path name).map
    Declared.id)

/-- The areas of a file. A file that is left out has none. -/
def assign (path : String) : Assignment :=
  if r.isIgnored path then ⟨.empty, false⟩
  else
    let ids := r.declaredIds path
    if ids.toList.isEmpty then ⟨infer (Path.relative path), true⟩ else ⟨ids, false⟩

/-- The areas that the directories of the files name. -/
def inferredIds (files : List String) : OrdSet String :=
  .ofList ((files.filter fun path => !r.isIgnored path).flatMap fun path => (infer path).toList)

/-- The area that a text refers to: a declared id, a declared name, a name of a built-in area, part
of a declared id, part of an inferred id, tried in this order. -/
def referent? (trimmed : String) (files : List String) : Option String :=
  let folded := Text.fold trimmed.toList
  let containsIt (id : String) : Bool := Text.occursIn folded (Text.fold id.toList)
  let named (area : Declared) : Bool :=
    (area.name.map fun name => decide (Text.fold name.toList = folded)).getD false
  ((r.declared.find? fun area => area.id = trimmed).map Declared.id)
    <|> ((r.declared.find? named).map Declared.id)
    <|> ((Builtin.ofName? trimmed).map Builtin.id)
    <|> ((r.declared.find? fun area => containsIt area.id).map Declared.id)
    <|> (r.inferredIds files).toList.find? containsIt

/-- The area that a text refers to; a text that refers to none stands for itself. -/
def resolveReference (input : String) (files : List String) : String :=
  let trimmed := String.ofList (Text.trim input.toList)
  if Text.fold trimmed.toList = [] then input else (r.referent? trimmed files).getD input

/-- The description of a file: the configured one, or else the inferred one. -/
def describe (path : String) : Option String :=
  let path := Path.relative path
  match r.descriptions.find? path with
  | some text => some text
  | none =>
    if r.autoDescribe then some (inferDescription path (Category.classify path)) else none

end Resolver
end Gazetteer.Area
