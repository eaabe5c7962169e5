import Gazetteer.Category.Rule
import Gazetteer.Proofs.Lookup.Normal

/-!
# Deciding rules

A rule that holds of a path decides it unless an earlier one does (`rule?_of_holds`). All rules but
one last: what holds of a path holds of it below any directory, since a rule asks for directories on
the path, which stay, and for the name of the file, which is the same. The exception asks for a
directory that must not be there. So a path is decided below a directory by the rule that decided it
or by an earlier one, and in particular a test stays a test (`rules_hold_below_directories`).
-/

namespace Gazetteer.Category

/-! ## The order of the table -/

/-- Where a rule stands in the table. -/
def Rule.place (r : Rule) : Nat := (rules.map Rule.name).idxOf r.name

theorem place_getElem {i : Nat} (hi : i < rules.length) : rules[i].place = i := by
  have hnodup : (rules.map Rule.name).Nodup := by decide
  have hplace := hnodup.idxOf_getElem i (by simpa using hi)
  rwa [List.getElem_map] at hplace

variable {r : Rule} {path : String}

theorem mem_of_rule? (h : rule? path = some r) :
    r ∈ rules ∧ r.holds (.ofPath path) = true := by
  unfold rule? at h
  have hholds := List.find?_some h
  exact ⟨List.mem_of_find?_eq_some h, hholds⟩

/-- A rule that holds decides a path, unless an earlier one does. -/
theorem rule?_of_holds (hr : r ∈ rules) (h : r.holds (.ofPath path) = true) :
    rule? path = some r ∨ ∃ r', rule? path = some r' ∧ r'.place < r.place := by
  obtain ⟨j, hj, rfl⟩ := List.mem_iff_getElem.1 hr
  cases hfound : rule? path with
  | none =>
    have hnone := List.find?_eq_none.1 hfound _ hr
    exact absurd h hnone
  | some r' =>
    obtain ⟨-, i, hi, rfl, hbefore⟩ := List.find?_eq_some_iff_getElem.1 hfound
    obtain hlt | rfl | hgt := Nat.lt_trichotomy i j
    · refine .inr ⟨_, rfl, ?_⟩
      rwa [place_getElem hi, place_getElem hj]
    · exact .inl rfl
    · have hfails := hbefore j hgt
      rw [h] at hfails
      cases hfails

/-- The rule for tests stands first and is the only one of its category. -/
theorem classify_eq_test_iff : classify path = .test ↔ (Facts.ofPath path).isTest = true := by
  constructor
  · intro htest
    cases hrule : rule? path with
    | none =>
      rw [classify, hrule] at htest
      cases htest
    | some r =>
      obtain ⟨hmem, hholds⟩ := mem_of_rule? hrule
      have honly : ∀ r ∈ rules, r.category = .test → r.holds = Facts.isTest := by
        simp [rules]
      rw [classify, hrule] at htest
      rwa [honly r hmem htest] at hholds
  · intro htest
    have hmem : ⟨"test-file", .test, Facts.isTest⟩ ∈ rules := List.mem_cons_self
    have hholds : Rule.holds ⟨"test-file", .test, Facts.isTest⟩ (.ofPath path) = true := by
      simp only [htest]
    obtain hrule | ⟨r', -, hearlier⟩ := rule?_of_holds hmem hholds
    · rw [classify, hrule]
      rfl
    · exact absurd hearlier (Nat.not_lt_zero _)

/-! ## Facts below directories -/

namespace Facts

theorem ofPath_path (raw : String) : (ofPath raw).path = '/' :: Lookup.normalize raw.toList := by
  simp only [ofPath]

theorem ofPath_name (raw : String) :
    (ofPath raw).name = Path.fileName ('/' :: Lookup.normalize raw.toList) := by
  simp only [ofPath]

theorem ofPath_stem (raw : String) :
    (ofPath raw).stem = (Path.stemAndExtension (ofPath raw).name).1 := by
  simp only [ofPath]

theorem ofPath_ext (raw : String) :
    (ofPath raw).ext = (Path.stemAndExtension (ofPath raw).name).2 := by
  simp only [ofPath]

/-- Whether facts are those of the same file on a path that ends in the other one. -/
structure IsBelow (inner outer : Facts) : Prop where
  path : inner.path <:+ outer.path
  name : outer.name = inner.name
  stem : outer.stem = inner.stem
  ext : outer.ext = inner.ext

theorem isBelow_ofPath (directory : String) {path : String}
    (h : ∀ c, path.toList.head? = some c → Text.isBlank c = false) :
    IsBelow (.ofPath path) (.ofPath (directory ++ "/" ++ path)) := by
  have htext : (directory ++ "/" ++ path).toList = directory.toList ++ '/' :: path.toList := by
    simp
  have hends := Lookup.endsIn_normalize directory.toList h
  rw [← htext] at hends
  have hname : (ofPath (directory ++ "/" ++ path)).name = (ofPath path).name := by
    rw [ofPath_name, ofPath_name, hends.fileName_eq]
  constructor
  case path =>
    rw [ofPath_path, ofPath_path]
    exact hends
  case name => exact hname
  case stem => rw [ofPath_stem, ofPath_stem, hname]
  case ext => rw [ofPath_ext, ofPath_ext, hname]

/-- Whether what a rule asks for lasts when directories come in front of a path. -/
def IsLasting (p : Facts → Bool) : Prop :=
  ∀ inner outer, IsBelow inner outer → p inner = true → p outer = true

namespace IsLasting

variable {p q : Facts → Bool}

theorem or (hp : IsLasting p) (hq : IsLasting q) : IsLasting fun facts => p facts || q facts := by
  intro inner outer h hinner
  rw [Bool.or_eq_true] at hinner ⊢
  exact hinner.imp (hp inner outer h) (hq inner outer h)

theorem and (hp : IsLasting p) (hq : IsLasting q) : IsLasting fun facts => p facts && q facts := by
  intro inner outer h hinner
  rw [Bool.and_eq_true] at hinner ⊢
  exact hinner.imp (hp inner outer h) (hq inner outer h)

/-- A directory of a path stays on it. -/
theorem directory (directory : String) : IsLasting fun facts => facts.hasDirectory directory := by
  intro inner outer h (hinner : inner.hasDirectory directory = true)
  show outer.hasDirectory directory = true
  rw [hasDirectory, Text.occursIn_iff] at hinner ⊢
  exact hinner.trans h.path.isInfix

theorem directories (directories : List String) :
    IsLasting fun facts => facts.hasAnyDirectory directories := by
  intro inner outer h hinner
  obtain ⟨name, hname, hstands⟩ := List.any_eq_true.1 hinner
  exact List.any_eq_true.2 ⟨name, hname, directory name inner outer h hstands⟩

/-- What is asked of the name alone stays. -/
theorem name (p : List Char → Bool) : IsLasting fun facts => p facts.name := by
  intro inner outer h hinner
  show p outer.name = true
  rw [h.name]
  exact hinner

theorem stem (p : List Char → Bool) : IsLasting fun facts => p facts.stem := by
  intro inner outer h hinner
  show p outer.stem = true
  rw [h.stem]
  exact hinner

theorem ext (p : List Char → Bool) : IsLasting fun facts => p facts.ext := by
  intro inner outer h hinner
  show p outer.ext = true
  rw [h.ext]
  exact hinner

/-! ## The questions that rules are made of -/

theorem nameContains (part : String) : IsLasting fun facts => facts.nameContains part :=
  name fun name => Text.occursIn part.toList name

theorem stemIsAny (names : List String) : IsLasting fun facts => facts.stemIsAny names :=
  stem fun stem => names.any fun name => stem = name.toList

theorem stemEndsWith (ending : String) : IsLasting fun facts => facts.stemEndsWith ending :=
  stem fun stem => ending.toList.isSuffixOf stem

theorem extensionIsAny (extensions : List String) :
    IsLasting fun facts => facts.extensionIsAny extensions :=
  ext fun ext => extensions.any fun extension => ext = extension.toList

theorem hasRole (roles : List String) : IsLasting fun facts => facts.hasRole roles :=
  stem fun stem => !roleLookalikes.any (fun word => word.toList.isSuffixOf stem) &&
    roles.any fun role => role.toList.isSuffixOf stem

end IsLasting

end Facts

/-! ## Rules below directories -/

open Facts

theorem isLasting_isTest : IsLasting isTest :=
  ((IsLasting.nameContains _).or (.nameContains _)).or (.directories _)

theorem isLasting_isConfig : IsLasting isConfig :=
  (IsLasting.name fun name => configNames.any fun start => start.toList.isPrefixOf name).or
    (.stemEndsWith _)

theorem isLasting_isReservedRoute : IsLasting isReservedRoute :=
  (IsLasting.stemIsAny _).or ((IsLasting.stem fun stem => ['+'].isPrefixOf stem).and
    (.stemEndsWith _))

theorem isLasting_isServerRoute : IsLasting isServerRoute :=
  ((IsLasting.directories _).or (.stemEndsWith _)).or (.stemIsAny _)

theorem isLasting_isHook : IsLasting isHook :=
  ((IsLasting.stem isHookName).or (.directories _)).or
    ((IsLasting.directory _).and (.extensionIsAny _))

theorem isLasting_isTypeDeclaration : IsLasting isTypeDeclaration :=
  ((IsLasting.directories _).or (.nameContains _)).or (.stemIsAny _)

theorem isLasting_isService : IsLasting isService := (IsLasting.directories _).or (.hasRole _)

theorem isLasting_isStore : IsLasting isStore := (IsLasting.directories _).or (.hasRole _)

theorem isLasting_isUtil : IsLasting isUtil := (IsLasting.directories _).or (.hasRole _)

theorem isLasting_isComponent : IsLasting isComponent :=
  (IsLasting.directories _).or (.extensionIsAny _)

/-- Only one rule asks for a directory that is missing. -/
theorem isLasting_of_mem_rules (hr : r ∈ rules) (hname : r.name ≠ "pages-dir") :
    IsLasting r.holds := by
  simp only [rules, List.mem_cons, List.not_mem_nil, or_false] at hr
  obtain rfl | rfl | rfl | rfl | rfl | rfl | rfl | rfl | rfl | rfl | rfl | rfl | rfl | rfl | rfl :=
    hr
  · exact isLasting_isTest
  · exact isLasting_isConfig
  · exact .stemIsAny _
  · exact .stemIsAny _
  · exact isLasting_isReservedRoute
  · exact .directory _
  · exact absurd rfl hname
  · exact .hasRole _
  · exact isLasting_isServerRoute
  · exact isLasting_isHook
  · exact isLasting_isTypeDeclaration
  · exact isLasting_isService
  · exact isLasting_isStore
  · exact isLasting_isUtil
  · exact isLasting_isComponent

/-- Below a directory every rule but the one for directories of pages holds of a path if it held
before. So the path is decided no later in the table, and a test stays a test. -/
theorem rules_hold_below_directories (directory : String) {path : String}
    (h : ∀ c, path.toList.head? = some c → Text.isBlank c = false) :
    (∀ r ∈ rules, r.name ≠ "pages-dir" → r.holds (.ofPath path) = true →
        r.holds (.ofPath (directory ++ "/" ++ path)) = true) ∧
      (∀ r, rule? path = some r → r.name ≠ "pages-dir" →
        ∃ r', rule? (directory ++ "/" ++ path) = some r' ∧ r'.place ≤ r.place) ∧
      (classify path = .test → classify (directory ++ "/" ++ path) = .test) := by
  have hbelow := isBelow_ofPath directory h
  have hlasts : ∀ r ∈ rules, r.name ≠ "pages-dir" → r.holds (.ofPath path) = true →
      r.holds (.ofPath (directory ++ "/" ++ path)) = true := by
    intro r hr hname hholds
    exact isLasting_of_mem_rules hr hname _ _ hbelow hholds
  refine ⟨hlasts, ?_, ?_⟩
  · -- The rule that decided the path still holds, and only an earlier one can go before it.
    intro r hrule hname
    obtain ⟨hr, hholds⟩ := mem_of_rule? hrule
    obtain hsame | ⟨r', hrule', hearlier⟩ := rule?_of_holds hr (hlasts r hr hname hholds)
    · exact ⟨r, hsame, Nat.le_refl _⟩
    · exact ⟨r', hrule', Nat.le_of_lt hearlier⟩
  · intro htest
    rw [classify_eq_test_iff] at htest ⊢
    exact isLasting_isTest _ _ hbelow htest

theorem rules_hold_below_src_pages :
    (∀ r ∈ rules, r.name ≠ "pages-dir" → r.holds (.ofPath "api/users.test.ts") = true →
        r.holds (.ofPath "src/pages/api/users.test.ts") = true) ∧
      classify "src/pages/api/users.test.ts" = .test := by
  have hhead : ∀ c, "api/users.test.ts".toList.head? = some c → Text.isBlank c = false := by
    intro c hc
    obtain rfl : 'a' = c := by simpa using hc
    decide
  obtain ⟨hlasts, -, htest⟩ := rules_hold_below_directories "src/pages" hhead
  exact ⟨hlasts, htest (by decide)⟩

/-- The exception: below a directory of components, pages are components. -/
example : classify "pages/cart.ts" = .page ∧ classify "components/pages/cart.ts" = .component := by
  decide

end Gazetteer.Category
