import Gazetteer.Proofs.Glob.Literal

/-!
# Texts in braces

Each pair of braces around a text is a group of one branch. So a text in many braces is a pattern
that can be read and is too deep to be compiled (`isTooDeep_nested`).
-/

namespace Gazetteer.Glob

/-- A text in so many braces. -/
def braced (n : Nat) (cs : List Char) : List Char :=
  List.replicate n '\x7b' ++ (cs ++ List.replicate n '\x7d')

/-- Tokens in so many groups of one branch. -/
def nested : Nat → List Token → List Token
  | 0, tokens => tokens
  | n + 1, tokens => nested n [.alternates [tokens]]

/-- Whether a character stands for itself wherever it is. -/
def isPlain (c : Char) : Bool := c ∉ ['?', '*', '[', '\x7b', '\x7d', ',', '\\']

variable {brackets : Brackets} {previous : Option Char} {tokens : List Token}

/-! ## Reading -/

theorem readFrom_cons_of_isPlain {c : Char} (h : isPlain c = true) (r : Reading) (cs : List Char) :
    readFrom brackets r previous (c :: cs) =
      readFrom brackets (r.push (.literal c)) (some c) cs := by
  simp only [isPlain, List.mem_cons, List.not_mem_nil, or_false, decide_eq_true_eq, not_or] at h
  obtain ⟨hany, hstar, hclass, hopen, hclose, hcomma, hescape⟩ := h
  rw [readFrom]
  -- No other way of reading on begins with the character.
  all_goals simp [*]

theorem readFrom_of_isPlain {cs : List Char} (h : ∀ c ∈ cs, isPlain c = true)
    (tokens : List Token) (groups : List Group) (previous : Option Char) (rest : List Char) :
    ∃ previous',
      readFrom brackets ⟨tokens, groups⟩ previous (cs ++ rest) =
        readFrom brackets ⟨(cs.map .literal).reverse ++ tokens, groups⟩ previous' rest := by
  induction cs generalizing tokens previous with
  | nil => exact ⟨previous, rfl⟩
  | cons c cs ih =>
    obtain ⟨previous', hrest⟩ :=
      ih (fun c hc => h c (List.mem_cons_of_mem _ hc)) (.literal c :: tokens) (some c)
    refine ⟨previous', ?_⟩
    rw [List.cons_append, readFrom_cons_of_isPlain (h c List.mem_cons_self), Reading.push, hrest]
    simp

theorem readFrom_opening (brackets : Brackets) (previous : Option Char) (n depth : Nat)
    (cs : List Char) : ∃ previous', readFrom brackets ⟨[], List.replicate depth ⟨[], []⟩⟩ previous
        (List.replicate n '\x7b' ++ cs) =
      readFrom brackets ⟨[], List.replicate (depth + n) ⟨[], []⟩⟩ previous' cs := by
  induction n generalizing depth previous with
  | zero => exact ⟨previous, rfl⟩
  | succ n ih =>
    obtain ⟨previous', hrest⟩ := ih (some '\x7b') (depth + 1)
    refine ⟨previous', ?_⟩
    rw [List.replicate_succ, List.cons_append, readFrom, Reading.openGroup, ← List.replicate_succ,
      hrest, Nat.add_right_comm, Nat.add_assoc]

theorem readFrom_closing (n : Nat) :
    readFrom brackets ⟨tokens, List.replicate n ⟨[], []⟩⟩ previous (List.replicate n '\x7d') =
      .ok (nested n tokens.reverse) := by
  induction n generalizing tokens previous with
  | zero =>
    simp only [List.replicate_zero, readFrom]
    rfl
  | succ n ih =>
    rw [List.replicate_succ, List.replicate_succ, readFrom, Reading.closeGroup]
    exact ih

/-- A plain text in braces is read as its characters in groups. -/
theorem tokensOf_braced (n : Nat) {cs : List Char} (h : ∀ c ∈ cs, isPlain c = true) :
    tokensOf brackets (braced n cs) = .ok (nested n (cs.map .literal)) := by
  obtain ⟨_, hopen⟩ := readFrom_opening brackets none n 0 (cs ++ List.replicate n '\x7d')
  rw [List.replicate_zero, Nat.zero_add] at hopen
  obtain ⟨_, hplain⟩ := readFrom_of_isPlain h [] (List.replicate n ⟨[], []⟩) _
    (List.replicate n '\x7d')
  rw [tokensOf, braced, hopen, hplain, readFrom_closing]
  simp

/-! ## Depth -/

/-- Each group is a level more, if there is something in it. -/
theorem add_depth_le_nested (rules : Rules) (n : Nat)
    (h : (tokensShape rules tokens).parts ≠ 0) :
    (tokensShape rules tokens).depth + n ≤ (tokensShape rules (nested n tokens)).depth := by
  induction n generalizing tokens with
  | zero => exact Nat.le_refl _
  | succ n ih =>
    have hgroup : tokensShape rules [.alternates [tokens]] =
        .single ((tokensShape rules tokens).levels + 1) := by
      simp [tokensShape, tokenShape, branchShapes, h, Shape.group, Shape.append, Shape.single,
        Shape.nothing]
    have hlevels : (tokensShape rules tokens).depth ≤ (tokensShape rules tokens).levels := by
      unfold Shape.levels
      split <;> omega
    have hdeeper := ih (by rw [hgroup]; exact Nat.one_ne_zero)
    have hsingle : ∀ k, (Shape.single k).depth = k := fun _ => rfl
    rw [hgroup, hsingle] at hdeeper
    show _ ≤ (tokensShape rules (nested n [.alternates [tokens]])).depth
    omega

/-- Something in as many groups as there may be levels is too deep. -/
theorem isTooDeep_nested {rules : Rules} {n : Nat} (hn : maxLevels ≤ n)
    (h : (tokensShape rules tokens).parts ≠ 0) : isTooDeep rules ⟨nested n tokens⟩ = true := by
  have hdepth := add_depth_le_nested rules n h
  rw [isTooDeep, decide_eq_true_eq]
  show maxLevels < (tokensShape rules (nested n tokens)).depth + 1
  omega

theorem parts_literals_ne_zero (rules : Rules) {cs : List Char} (h : cs ≠ []) :
    (tokensShape rules (cs.map .literal)).parts ≠ 0 := by
  obtain ⟨c, cs, rfl⟩ := List.exists_cons_of_ne_nil h
  have hsize := String.length_utf8EncodeChar c
  have hpos := Char.utf8Size_pos c
  rw [List.map_cons, tokensShape, tokenShape, Shape.append]
  show (String.utf8EncodeChar c).length + _ ≠ 0
  omega

end Gazetteer.Glob
