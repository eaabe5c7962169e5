import Gazetteer.Proofs.Category.Stem

/-!
# Names of hooks

A hook is named `use` and goes on with an upper-case letter. Rules see lower case only, where
`useRole` cannot be told from `user` with an ending, so they go by lists of plain words and take
some hooks for such words. `isHook_iff_of_isHookStem` says which ones.
-/

namespace Gazetteer.Category

variable {path : String}

/-- Whether a stem is `use`, an upper-case letter and then letters and digits. -/
def isHookStem : List Char → Bool
  | 'u' :: 's' :: 'e' :: c :: rest => c.isUpper && rest.all Char.isAlphanum
  | _ => false

theorem exists_of_isHookStem {stem : List Char} (h : isHookStem stem = true) : ∃ c rest,
    stem = 'u' :: 's' :: 'e' :: c :: rest ∧ c.isUpper = true ∧ rest.all Char.isAlphanum = true := by
  unfold isHookStem at h
  split at h
  next c rest =>
    rw [Bool.and_eq_true] at h
    exact ⟨c, rest, rfl, h⟩
  · cases h

theorem isAscii_of_isAlphanum {cs : List Char} (h : cs.all Char.isAlphanum = true) :
    Text.IsAscii cs := by
  intro c hc
  have halnum : ((c.isUpper || c.isLower) || c.isDigit) = true := List.all_eq_true.1 h c hc
  -- Each of the three spans ends before code 128.
  have hend : c.val ≤ 'Z'.val ∨ c.val ≤ 'z'.val ∨ c.val ≤ '9'.val := by
    rw [Bool.or_eq_true, Bool.or_eq_true] at halnum
    obtain (hupper | hlower) | hdigit := halnum
    · exact .inl (of_decide_eq_true hupper).2
    · exact .inr (.inl (of_decide_eq_true (Bool.and_eq_true_iff.1 hlower).2))
    · exact .inr (.inr (of_decide_eq_true (Bool.and_eq_true_iff.1 hdigit).2))
  obtain hend | hend | hend := hend <;>
    exact Nat.lt_of_le_of_lt (UInt32.le_iff_toNat_le.1 hend) (by decide)

theorem isAscii_of_isHookStem {stem : List Char} (h : isHookStem stem = true) :
    Text.IsAscii stem := by
  obtain ⟨c, rest, rfl, hupper, hrest⟩ := exists_of_isHookStem h
  have hletter : c.isAlphanum = true := by
    show ((c.isUpper || c.isLower) || c.isDigit) = true
    rw [hupper]
    rfl
  refine isAscii_of_isAlphanum ?_
  simp only [List.all_cons, hletter, hrest]
  decide

/-- Whether a stem in lower case counts as a plain word. -/
def LooksPlain (stem : List Char) : Prop :=
  (∃ word ∈ Facts.wholeUseWords, stem = word.toList) ∨
    (∃ word ∈ Facts.plainUseWords, word.toList <+: stem) ∧
      ¬ ∃ hook ∈ Facts.hooksLikePlainWords, hook.toList <+: stem

instance (stem : List Char) : Decidable (LooksPlain stem) :=
  inferInstanceAs (Decidable (_ ∨ _ ∧ _))

/-- Plain words go on after `use` with one of six letters. -/
theorem mem_of_looksPlain {c : Char} {rest : List Char}
    (h : LooksPlain ('u' :: 's' :: 'e' :: c :: rest)) : c ∈ ['r', 'f', 'l', 's', 'd', 'c'] := by
  have hwords : ∀ word ∈ Facts.wholeUseWords ++ Facts.plainUseWords,
      word.toList[3]? ∈ ['r', 'f', 'l', 's', 'd', 'c'].map some := by
    decide
  obtain ⟨word, hword, hstart⟩ : ∃ word ∈ Facts.wholeUseWords ++ Facts.plainUseWords,
      word.toList <+: 'u' :: 's' :: 'e' :: c :: rest := by
    rcases h with ⟨word, hword, hstem⟩ | ⟨⟨word, hword, hstart⟩, -⟩
    · exact ⟨word, List.mem_append_left _ hword, hstem ▸ List.prefix_rfl⟩
    · exact ⟨word, List.mem_append_right _ hword, hstart⟩
  obtain ⟨d, hd, hletter⟩ := List.mem_map.1 (hwords word hword)
  obtain ⟨ending, hending⟩ := hstart
  have hlength : 3 < word.toList.length := (List.getElem?_eq_some_iff.1 hletter.symm).1
  have hsame : ('u' :: 's' :: 'e' :: c :: rest)[3]? = some d := by
    rw [← hending, List.getElem?_append_left hlength, ← hletter]
  obtain rfl : c = d := Option.some.inj hsame
  exact hd

/-- Where a letter follows `use` only the plain words are no hooks. -/
theorem isHookName_iff {c : Char} {rest : List Char} (h : c.isAlpha = true) :
    Facts.isHookName ('u' :: 's' :: 'e' :: c :: rest) = true ↔
      ¬ LooksPlain ('u' :: 's' :: 'e' :: c :: rest) := by
  have hcut : Text.dropStart? ['u', 's', 'e'] ('u' :: 's' :: 'e' :: c :: rest) =
      some (c :: rest) := by
    simp [Text.dropStart?]
  have hsep : ¬ (c = '-' ∨ c = '_') := by
    rintro (rfl | rfl) <;> simp at h
  simp only [Facts.isHookName, hcut, h]
  generalize 'u' :: 's' :: 'e' :: c :: rest = stem
  simp only [LooksPlain, not_or, not_and, not_not, imp_iff_not_or, Bool.or_eq_true,
    Bool.and_eq_true, Bool.not_eq_true', ← Bool.not_eq_true, List.any_eq_true, decide_eq_true_eq,
    if_neg hsep, List.isPrefixOf_iff_prefix, true_and]

theorem isHookName_map_toLower {stem : List Char} (h : isHookStem stem = true) :
    Facts.isHookName (stem.map Char.toLower) = true ↔ ¬ LooksPlain (stem.map Char.toLower) := by
  have hascii := isAscii_of_isHookStem h
  obtain ⟨c, rest, rfl, hupper, -⟩ := exists_of_isHookStem h
  have hletter : c.isUpper = true → c.toLower.isAlpha = true :=
    Text.forall_isAscii (hascii c (by simp)) (by decide)
  exact isHookName_iff (hletter hupper)

/-- So hooks that go on with another letter are all recognised. -/
theorem isHook_of_other_letter {c : Char} {rest : List Char}
    (hstem : writtenStem path = 'u' :: 's' :: 'e' :: c :: rest)
    (h : isHookStem (writtenStem path) = true)
    (hc : c.toLower ∉ ['r', 'f', 'l', 's', 'd', 'c']) : (Facts.ofPath path).isHook = true := by
  have hname : Facts.isHookName (Facts.ofPath path).stem = true := by
    rw [stem_ofPath (isAscii_of_isHookStem h), isHookName_map_toLower h, hstem]
    exact mt mem_of_looksPlain hc
  rw [Facts.isHook, hname]
  rfl

/-- The rule for hooks. -/
def hookRule : Rule := ⟨"hook", .hook, Facts.isHook⟩

/-- A file that is named like a hook is taken for one by its name unless its stem looks plain in
lower case, and is then a hook unless an earlier rule decides it. -/
theorem isHook_iff_of_isHookStem (h : isHookStem (writtenStem path) = true) :
    ((Facts.ofPath path).isHook = true ↔
      ¬ LooksPlain ((writtenStem path).map Char.toLower) ∨
        (Facts.ofPath path).hasAnyDirectory ["hooks", "composables"] = true ∨
          (Facts.ofPath path).hasDirectory "stores" = true ∧
            (Facts.ofPath path).extensionIsAny ["ts", "tsx", "mts", "cts"] = true) ∧
      ((Facts.ofPath path).isHook = true → classify path = .hook ∨
        ∃ r, rule? path = some r ∧ r.place < hookRule.place) := by
  constructor
  · rw [Facts.isHook, Bool.or_eq_true, Bool.or_eq_true, Bool.and_eq_true,
      stem_ofPath (isAscii_of_isHookStem h), isHookName_map_toLower h, or_assoc]
  · intro hhook
    have hmem : hookRule ∈ rules := by simp [rules, hookRule]
    have hholds : hookRule.holds (.ofPath path) = true := by simp only [hookRule, hhook]
    refine (rule?_of_holds hmem hholds).imp_left fun hrule => ?_
    rw [classify, hrule]
    rfl

theorem isHook_of_useAuth : isHookStem (writtenStem "src/useAuth.ts") = true ∧
    (Facts.ofPath "src/useAuth.ts").isHook = true ∧
      (classify "src/useAuth.ts" = .hook ∨
        ∃ r, rule? "src/useAuth.ts" = some r ∧ r.place < hookRule.place) := by
  have hstem : isHookStem (writtenStem "src/useAuth.ts") = true := by decide
  obtain ⟨hiff, hdecides⟩ := isHook_iff_of_isHookStem hstem
  have hhook := hiff.2 (.inl (by decide))
  exact ⟨hstem, hhook, hdecides hhook⟩

/-- A hook for roles is taken for the word `user` with something behind it. -/
theorem not_isHook_of_useRole : isHookStem (writtenStem "src/useRole.ts") = true ∧
    (Facts.ofPath "src/useRole.ts").isHook = false ∧ classify "src/useRole.ts" = .other := by
  decide

end Gazetteer.Category
