import Gazetteer.Category.Basic
import Gazetteer.Lookup.Name

/-!
# Classification

A table of rules decides the category of a path; the first rule that holds wins, so the order of the
table matters for files that several rules fit. Rules see a path in lower case only.
-/

namespace Gazetteer.Category

/-- A path in lower case, as the rules see it. -/
structure Facts where
  /-- The normalized path with a slash in front. -/
  path : List Char
  /-- The last segment. -/
  name : List Char
  /-- The name without its extension. -/
  stem : List Char
  ext : List Char
deriving DecidableEq, Repr

namespace Facts

def ofPath (raw : String) : Facts :=
  let path := '/' :: Lookup.normalize raw.toList
  let name := Path.fileName path
  let (stem, ext) := Path.stemAndExtension name
  ⟨path, name, stem, ext⟩

/-- Whether a directory of this name stands on the path. -/
def hasDirectory (facts : Facts) (directory : String) : Bool :=
  Text.occursIn ('/' :: directory.toList ++ ['/']) facts.path

def hasAnyDirectory (facts : Facts) (directories : List String) : Bool :=
  directories.any facts.hasDirectory

def stemIsAny (facts : Facts) (names : List String) : Bool :=
  names.any fun name => facts.stem = name.toList

def stemEndsWith (facts : Facts) (ending : String) : Bool := ending.toList.isSuffixOf facts.stem

def nameContains (facts : Facts) (part : String) : Bool := Text.occursIn part.toList facts.name

def extensionIsAny (facts : Facts) (extensions : List String) : Bool :=
  extensions.any fun ext => facts.ext = ext.toList

/-- Plain words that end in a role, such as `preview`. Lower case hides where a word begins, so they
are listed. -/
def roleLookalikes : List String := ["preview", "overview", "review", "interview", "restore"]

/-- Whether the stem ends in one of these roles and not in a plain word that looks like one. -/
def hasRole (facts : Facts) (roles : List String) : Bool :=
  !roleLookalikes.any facts.stemEndsWith && roles.any facts.stemEndsWith

def configNames : List String :=
  ["vite.config.", "vitest.config.", "webpack.config.", "rollup.config.", "next.config.",
   "nuxt.config.", "svelte.config.", "astro.config.", "tailwind.config.", "postcss.config.",
   "babel.config.", "jest.config.", "playwright.config.", "eslint.config.", "prettier.config.",
   "commitlint.config.", "tsconfig", "jsconfig", ".eslintrc", ".prettierrc", ".babelrc", ".env",
   "sw.", "service-worker.", "serviceworker.", "workbox-config."]

/-- Words that begin like a hook without being one, whatever follows them. -/
def plainUseWords : List String := ["user", "useful", "useless"]

/-- Words that begin like a hook without being one when they stand alone. -/
def wholeUseWords : List String := ["uses", "used", "usecase", "usecases"]

/-- Hooks that begin like one of `plainUseWords`. -/
def hooksLikePlainWords : List String :=
  ["useref", "usereducer", "userouter", "useresize", "useresponsive", "userequest"]

/-- Whether a stem is named like a hook: `use` before a letter, with a separator between or without,
and no plain word. -/
def isHookName (stem : List Char) : Bool :=
  match Text.dropStart? ['u', 's', 'e'] stem with
  | none => false
  | some [] => false
  | some (c :: rest) =>
    if c = '-' || c = '_' then (rest.head?.map Char.isAlpha).getD false
    else
      c.isAlpha && !wholeUseWords.any (fun word => stem = word.toList) &&
        (!plainUseWords.any (fun word => word.toList.isPrefixOf stem) ||
          hooksLikePlainWords.any fun word => word.toList.isPrefixOf stem)

def isTest (facts : Facts) : Bool :=
  facts.nameContains ".test." || facts.nameContains ".spec." ||
    facts.hasAnyDirectory ["test", "tests", "__tests__"]

def isConfig (facts : Facts) : Bool :=
  configNames.any (fun start => start.toList.isPrefixOf facts.name) || facts.stemEndsWith ".config"

def isReservedLayout (facts : Facts) : Bool :=
  facts.stemIsAny ["layout", "+layout", "_layout", "_app", "_document", "template"]

def isReservedPage (facts : Facts) : Bool := facts.stemIsAny ["page", "+page"]

/-- Route handlers, server endpoints and loaders. -/
def isReservedRoute (facts : Facts) : Bool :=
  facts.stemIsAny ["route", "+server"] ||
    (['+'].isPrefixOf facts.stem && facts.stemEndsWith ".server")

def isPagesApi (facts : Facts) : Bool := facts.hasDirectory "pages/api"

def isInPages (facts : Facts) : Bool :=
  facts.hasAnyDirectory ["pages", "views", "screens", "routes"] && !facts.hasDirectory "components"

def isPageByRole (facts : Facts) : Bool := facts.hasRole ["page", "view", "screen"]

def isServerRoute (facts : Facts) : Bool :=
  facts.hasAnyDirectory ["api", "server"] || facts.stemEndsWith ".server" ||
    facts.stemIsAny ["+server"]

def isHook (facts : Facts) : Bool :=
  isHookName facts.stem || facts.hasAnyDirectory ["hooks", "composables"] ||
    (facts.hasDirectory "stores" && facts.extensionIsAny ["ts", "tsx", "mts", "cts"])

def isTypeDeclaration (facts : Facts) : Bool :=
  facts.hasAnyDirectory ["types", "interfaces"] || facts.nameContains ".d." ||
    facts.stemIsAny ["types", "interfaces"]

def isService (facts : Facts) : Bool :=
  facts.hasAnyDirectory ["services", "api-client"] || facts.hasRole ["service", "api"]

def isStore (facts : Facts) : Bool :=
  facts.hasAnyDirectory ["store", "stores", "context", "contexts", "providers", "state"] ||
    facts.hasRole ["store", "slice", "reducer"]

def isUtil (facts : Facts) : Bool :=
  facts.hasAnyDirectory ["utils", "lib", "helpers", "common", "shared"] ||
    facts.hasRole ["utils", "helpers"]

def isComponent (facts : Facts) : Bool :=
  facts.hasAnyDirectory ["components", "ui", "features", "modules"] ||
    facts.extensionIsAny ["vue", "svelte", "astro"]

end Facts

structure Rule where
  name : String
  category : Category
  holds : Facts → Bool

/-- The rules in the order in which they are tried. -/
def rules : List Rule :=
  [⟨"test-file", .test, Facts.isTest⟩,
   ⟨"config-file", .config, Facts.isConfig⟩,
   ⟨"reserved-layout", .layout, Facts.isReservedLayout⟩,
   ⟨"reserved-page", .page, Facts.isReservedPage⟩,
   ⟨"reserved-route", .route, Facts.isReservedRoute⟩,
   ⟨"pages-api", .route, Facts.isPagesApi⟩,
   ⟨"pages-dir", .page, Facts.isInPages⟩,
   ⟨"page-suffix", .page, Facts.isPageByRole⟩,
   ⟨"server-route", .route, Facts.isServerRoute⟩,
   ⟨"hook", .hook, Facts.isHook⟩,
   ⟨"type-decl", .type, Facts.isTypeDeclaration⟩,
   ⟨"service", .service, Facts.isService⟩,
   ⟨"store", .store, Facts.isStore⟩,
   ⟨"util", .util, Facts.isUtil⟩,
   ⟨"component", .component, Facts.isComponent⟩]

/-- The rule that decides a path. -/
def rule? (path : String) : Option Rule := rules.find? fun rule => rule.holds (.ofPath path)

/-- All rules that hold of a path. -/
def allRules (path : String) : List Rule := rules.filter fun rule => rule.holds (.ofPath path)

/-- The category of a path, `other` where no rule holds. -/
def classify (path : String) : Category := ((rule? path).map Rule.category).getD .other

end Gazetteer.Category
