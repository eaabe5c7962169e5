import Gazetteer.Proofs.Category.Stem

/-!
# Names of roles

In camel case a stem such as `LoginPage` ends in a word for the role of its file. Rules see lower
case only, where `coreStore` cannot be told from `restore` with something in front, so plain words
that look like a role are listed, and some words spell one of these together with the role behind
them. `role_rule_holds_iff` says which ones: no role but `View` and `Store` is ever passed over.
-/

namespace Gazetteer.Category

/-- The roles that the end of a stem can give to a file. -/
inductive Role where
  | page
  | service
  | store
  | util
deriving DecidableEq

namespace Role

/-- The words for a role as they end a stem in camel case. -/
def suffixes : Role → List String
  | .page => ["Page", "View", "Screen"]
  | .service => ["Service", "Api"]
  | .store => ["Store", "Slice", "Reducer"]
  | .util => ["Utils", "Helpers"]

/-- The directories that give a role to all files below them. -/
def directories : Role → List String
  | .page => []
  | .service => ["services", "api-client"]
  | .store => ["store", "stores", "context", "contexts", "providers", "state"]
  | .util => ["utils", "lib", "helpers", "common", "shared"]

/-- The rule for a role. -/
def rule : Role → Rule
  | .page => ⟨"page-suffix", .page, Facts.isPageByRole⟩
  | .service => ⟨"service", .service, Facts.isService⟩
  | .store => ⟨"store", .store, Facts.isStore⟩
  | .util => ⟨"util", .util, Facts.isUtil⟩

theorem rule_mem_rules (role : Role) : role.rule ∈ rules := by
  cases role <;> simp [rule, rules]

end Role

/-! ## What a rule asks for -/

/-- A word as rules see it. -/
def lowered (word : String) : List Char := word.toList.map Char.toLower

/-- Whether a plain word that looks like a role ends a stem in lower case. -/
def EndsInLookalike (stem : List Char) : Prop :=
  ∃ word ∈ Facts.roleLookalikes, word.toList <:+ stem

theorem Facts.hasRole_iff {facts : Facts} {roles suffixes : List String}
    (h : roles.map String.toList = suffixes.map lowered) : facts.hasRole roles = true ↔
      ¬ EndsInLookalike facts.stem ∧ ∃ suffix ∈ suffixes, lowered suffix <:+ facts.stem := by
  have hmap : ∀ (words : List String) (form : String → List Char),
      (∃ ending ∈ words.map form, ending <:+ facts.stem) ↔
        ∃ word ∈ words, form word <:+ facts.stem := by
    simp
  rw [← hmap suffixes, ← h, hmap]
  simp [hasRole, stemEndsWith, EndsInLookalike]

/-- Each rule asks for one of its directories, or for a suffix behind no look-alike. -/
theorem Role.holds_rule_iff (role : Role) {facts : Facts} : role.rule.holds facts = true ↔
    facts.hasAnyDirectory role.directories = true ∨
      ¬ EndsInLookalike facts.stem ∧ ∃ suffix ∈ role.suffixes, lowered suffix <:+ facts.stem := by
  have hor : ∀ (directories : List String) {roles suffixes : List String},
      roles.map String.toList = suffixes.map lowered →
        ((facts.hasAnyDirectory directories || facts.hasRole roles) = true ↔
          facts.hasAnyDirectory directories = true ∨ ¬ EndsInLookalike facts.stem ∧
            ∃ suffix ∈ suffixes, lowered suffix <:+ facts.stem) := by
    intro directories roles suffixes h
    rw [Bool.or_eq_true, Facts.hasRole_iff h]
  cases role with
  -- No directory makes a page, so the first part is false.
  | page => exact hor [] (by decide)
  | service => exact hor _ (by decide)
  | store => exact hor _ (by decide)
  | util => exact hor _ (by decide)

/-! ## Words that spell a look-alike -/

instance (stem : List Char) : Decidable (EndsInLookalike stem) :=
  inferInstanceAs (Decidable (∃ word ∈ Facts.roleLookalikes, word.toList <:+ stem))

/-- The endings of a word that spell a look-alike with a suffix behind them, as in `hoverView` and
`coreStore`. -/
def lookalikeStarts (suffix : String) : List String :=
  if suffix = "View" then ["re", "over", "inter"]
  else if suffix = "Store" then ["re"] else []

/-- Whether a word spells a look-alike with a suffix behind it. -/
def SpellsLookalike (word : List Char) (suffix : String) : Prop :=
  ∃ start ∈ lookalikeStarts suffix, start.toList <:+ word.map Char.toLower

instance (word : List Char) (suffix : String) : Decidable (SpellsLookalike word suffix) :=
  inferInstanceAs (Decidable (∃ start ∈ lookalikeStarts suffix, _))

variable {path suffix : String} {role : Role} {word : List Char}

/-- No suffix ends in a look-alike by itself, and what stands in front of it in a look-alike ends
in one of its starts. -/
theorem exists_start_of_lookalike (h : suffix ∈ role.suffixes) :
    ∀ lookalike ∈ Facts.roleLookalikes, ¬ lookalike.toList <:+ lowered suffix ∧
      ∀ front ∈ Text.dropEnd? (lowered suffix) lookalike.toList,
        ∃ start ∈ lookalikeStarts suffix, start.toList <:+ front := by
  revert suffix
  cases role <;> decide

theorem endsInLookalike_of_start (h : suffix ∈ role.suffixes) :
    ∀ start ∈ lookalikeStarts suffix, EndsInLookalike (start.toList ++ lowered suffix) := by
  revert suffix
  cases role <;> decide

theorem endsInLookalike_iff (h : suffix ∈ role.suffixes) :
    EndsInLookalike (word.map Char.toLower ++ lowered suffix) ↔ SpellsLookalike word suffix := by
  constructor
  · rintro ⟨lookalike, hlookalike, hending⟩
    obtain ⟨hinside, hstarts⟩ := exists_start_of_lookalike h lookalike hlookalike
    rcases Text.suffix_append_iff.1 hending with hsuffix | ⟨front, hfront, hword⟩
    · exact absurd hsuffix hinside
    · obtain ⟨start, hstart, hfits⟩ := hstarts front (Text.dropEnd?_eq_some_iff.2 hfront)
      exact ⟨start, hstart, hfits.trans hword⟩
  · rintro ⟨start, hstart, front, hfront⟩
    obtain ⟨lookalike, hlookalike, hending⟩ := endsInLookalike_of_start h start hstart
    refine ⟨lookalike, hlookalike, hending.trans ?_⟩
    rw [← hfront, List.append_assoc]
    exact List.suffix_append front _

/-- A stem that ends in a role is recognised unless the role spells a look-alike with the end of
the word in front of it. -/
theorem role_rule_holds_iff (hsuffix : suffix ∈ role.suffixes) (hword : Text.IsAscii word)
    (hstem : writtenStem path = word ++ suffix.toList) : role.rule ∈ rules ∧
      (role.rule.holds (.ofPath path) = true ↔ ¬ SpellsLookalike word suffix ∨
        (Facts.ofPath path).hasAnyDirectory role.directories = true) := by
  have hascii : Text.IsAscii (writtenStem path) := by
    have hrole : ∀ suffix ∈ role.suffixes, Text.IsAscii suffix.toList := by
      cases role <;> decide
    rw [hstem]
    intro c hc
    rcases List.mem_append.1 hc with hc | hc
    · exact hword c hc
    · exact hrole suffix hsuffix c hc
  have hlower : (Facts.ofPath path).stem = word.map Char.toLower ++ lowered suffix := by
    rw [stem_ofPath hascii, hstem, List.map_append, lowered]
  refine ⟨role.rule_mem_rules, ?_⟩
  rw [role.holds_rule_iff, hlower, endsInLookalike_iff hsuffix]
  constructor
  · rintro (hdirectory | ⟨hplain, -⟩)
    · exact .inr hdirectory
    · exact .inl hplain
  · rintro (hplain | hdirectory)
    · exact .inr ⟨hplain, suffix, hsuffix, List.suffix_append ..⟩
    · exact .inl hdirectory

theorem cart_store_is_store : (Role.store.rule.holds (.ofPath "src/cartStore.ts") = true) ∧
    writtenStem "src/cartStore.ts" = "cart".toList ++ "Store".toList ∧
      classify "src/cartStore.ts" = .store := by
  have hstem : writtenStem "src/cartStore.ts" = "cart".toList ++ "Store".toList := by
    decide
  have hsuffix : "Store" ∈ Role.store.suffixes := by decide
  obtain ⟨-, hiff⟩ := role_rule_holds_iff hsuffix (by decide) hstem
  exact ⟨hiff.2 (.inl (by decide)), hstem, by decide⟩

/-- A store for the core is taken for the word `restore` with something in front. -/
theorem core_store_is_not_store : "Store" ∈ Role.store.suffixes ∧
    writtenStem "src/coreStore.ts" = "core".toList ++ "Store".toList ∧
      Role.store.rule.holds (.ofPath "src/coreStore.ts") = false ∧
        classify "src/coreStore.ts" = .other := by
  decide

end Gazetteer.Category
