import Gazetteer.Proofs.Hint.Rendering
import Gazetteer.Proofs.Text.Cutting

/-!
# Filling as substitution

A token is a name between braces. Filling a template replaces all of its tokens at once and leaves
every other character in its place. Which places belong to a token is a question to the template
alone, so what a value brings along is never taken for a token. The same comes of a loop that goes
from one opening brace to the next and writes as it goes: it ends on every template, balanced or
not, with a round for each opening brace (`fill_substitutes_at_once`).
-/

namespace Gazetteer.Hint

/-! ## Tokens -/

/-- A name between braces. -/
def token (name : String) : List Char := '\x7b' :: (name.toList ++ ['\x7d'])

/-- Whether the token of a name begins at a place of a template. -/
def TokenAt (template : List Char) (i : Nat) (name : String) : Prop :=
  IsName name ∧ token name <+: template.drop i

/-- Whether a place belongs to a token that begins before it. -/
def Covered (template : List Char) (i : Nat) : Prop :=
  ∃ j name, TokenAt template j name ∧ j < i ∧ i < j + (token name).length

/-- What comes in place of a token: the escaped value of its name, or else the name between angle
brackets. -/
def replacement (dialect : Dialect) (values : Values) (name : String) : List Char :=
  match values.lookup name with
  | some value => dialect.escape value.toList
  | none => '<' :: (name.toList ++ ['>'])

/-- What is shown in place of each character of a template when its tokens are replaced: for the
first of a token all that comes in place of the token, for its others nothing, and every character
that belongs to no token for itself. -/
structure Substitutes (dialect : Dialect) (values : Values) (template : List Char)
    (shown : Nat → List Char) : Prop where
  token : ∀ i name, TokenAt template i name → shown i = replacement dialect values name
  covered : ∀ i, Covered template i → shown i = []
  other : ∀ i c, template[i]? = some c → (∀ name, ¬ TokenAt template i name) →
    ¬ Covered template i → shown i = [c]

variable {dialect : Dialect} {values : Values} {template front rest : List Char}
  {name other : String} {shown : Nat → List Char} {i j : Nat}

theorem length_token (name : String) : (token name).length = name.toList.length + 2 := by
  simp [token]

/-- A token is what a name and the first closing brace make of it. -/
theorem IsName.eq_of_prefix (hname : IsName name) (hother : IsName other)
    (h : token other <+: token name ++ rest) : other = name := by
  have hclose : isNameChar '\x7d' = false := by decide
  have hboth : token name <+: token name ++ rest := List.prefix_append _ _
  have hsame : token other = token name := by
    rcases List.prefix_or_prefix_of_prefix h hboth with hpart | hpart
    · rcases List.prefix_concat_iff.1 (List.cons_prefix_cons.1 hpart).2 with heq | hinner
      · exact congrArg (List.cons _) heq
      · exact absurd (hinner.subset (by simp)) (hname.notMem hclose)
    · rcases List.prefix_concat_iff.1 (List.cons_prefix_cons.1 hpart).2 with heq | hinner
      · exact congrArg (List.cons _) heq.symm
      · exact absurd (hinner.subset (by simp)) (hother.notMem hclose)
  exact String.toList_injective (List.append_cancel_right (List.cons.inj hsame).2)

/-- No token begins inside another one. -/
theorem IsName.not_tokenAt (hname : IsName name) (hpos : 0 < i) (hlt : i < (token name).length) :
    ¬ TokenAt (token name ++ rest) i other := by
  rintro ⟨-, hprefix⟩
  have hopen : isNameChar '\x7b' = false := by decide
  rw [List.drop_append_of_le_length (Nat.le_of_lt hlt)] at hprefix
  obtain ⟨i, rfl⟩ := Nat.exists_eq_add_one.2 hpos
  rw [token, token, List.drop_succ_cons] at hprefix
  cases hinner : (name.toList ++ ['\x7d']).drop i with
  | nil =>
    have hlength := List.drop_eq_nil_iff.1 hinner
    rw [length_token] at hlt
    rw [List.length_append, List.length_singleton] at hlength
    omega
  | cons c cs =>
    rw [hinner, List.cons_append] at hprefix
    obtain ⟨rfl, -⟩ := List.cons_prefix_cons.1 hprefix
    have hmem : '\x7b' ∈ name.toList ++ ['\x7d'] :=
      List.mem_of_mem_drop (hinner ▸ List.mem_cons_self)
    rcases List.mem_append.1 hmem with hmem | hmem
    · exact hname.notMem hopen hmem
    · exact absurd (List.mem_singleton.1 hmem) (by decide)

/-! ## Templates from their front

A template is taken apart at its front: a token goes as a whole, and a character with which no token
begins goes alone. In both cases no token reaches from the front into the rest. -/

/-- Whether every token that begins in the front of a text ends there too. -/
def Closed (front rest : List Char) : Prop :=
  ∀ i name, i < front.length → TokenAt (front ++ rest) i name →
    i + (token name).length ≤ front.length

theorem IsName.closed_token (hname : IsName name) : Closed (token name) rest := by
  intro i other hlt htoken
  rcases Nat.eq_zero_or_pos i with rfl | hpos
  · obtain rfl := hname.eq_of_prefix htoken.1 htoken.2
    exact Nat.le_of_eq (Nat.zero_add _)
  · exact absurd htoken (hname.not_tokenAt hpos hlt)

theorem closed_singleton {c : Char} (h : ∀ name, ¬ TokenAt (c :: rest) 0 name) :
    Closed [c] rest := by
  intro i name hlt htoken
  obtain rfl : i = 0 := Nat.lt_one_iff.1 hlt
  exact absurd htoken (h name)

/-- A text is empty, or it begins with a token or with a character that begins no token. -/
@[elab_as_elim]
theorem token_induction {P : List Char → Prop} (nil : P [])
    (token : ∀ name rest, IsName name → P rest → P (token name ++ rest))
    (char : ∀ c rest, (∀ name, ¬ TokenAt (c :: rest) 0 name) → P rest → P (c :: rest))
    (template : List Char) : P template := by
  induction hlength : template.length using Nat.strongRecOn generalizing template with
  | _ n ih =>
    subst hlength
    by_cases htoken : ∃ name, TokenAt template 0 name
    · obtain ⟨name, hname, rest, rfl⟩ := htoken
      refine token name rest hname (ih _ ?_ rest rfl)
      rw [List.length_append, length_token]
      omega
    · cases template with
      | nil => exact nil
      | cons c rest =>
        exact char c rest (not_exists.1 htoken) (ih _ (Nat.lt_succ_self rest.length) rest rfl)

theorem tokenAt_append_iff : TokenAt (front ++ rest) (front.length + i) name ↔
    TokenAt rest i name := by
  unfold TokenAt
  rw [List.drop_length_add_append]

theorem Closed.covered_iff (h : Closed front rest) :
    Covered (front ++ rest) (front.length + i) ↔ Covered rest i := by
  constructor
  · rintro ⟨j, name, htoken, hbefore, hbehind⟩
    by_cases hj : j < front.length
    · have hend := h j name hj htoken
      omega
    · obtain ⟨j, rfl⟩ := Nat.exists_eq_add_of_le (Nat.le_of_not_lt hj)
      exact ⟨j, name, tokenAt_append_iff.1 htoken, by omega, by omega⟩
  · rintro ⟨j, name, htoken, hbefore, hbehind⟩
    exact ⟨front.length + j, name, tokenAt_append_iff.2 htoken, by omega, by omega⟩

/-- What is shown for a front and what is shown for the rest, one behind the other. -/
def behind (n : Nat) (first shown : Nat → List Char) (i : Nat) : List Char :=
  if i < n then first i else shown (i - n)

theorem Substitutes.append {first : Nat → List Char} (hclosed : Closed front rest)
    (hrest : Substitutes dialect values rest shown)
    (htoken : ∀ i name, i < front.length → TokenAt (front ++ rest) i name →
      first i = replacement dialect values name)
    (hcovered : ∀ i, i < front.length → Covered (front ++ rest) i → first i = [])
    (hother : ∀ i c, front[i]? = some c → (∀ name, ¬ TokenAt (front ++ rest) i name) →
      ¬ Covered (front ++ rest) i → first i = [c]) :
    Substitutes dialect values (front ++ rest) (behind front.length first shown) := by
  have hfront : ∀ i, i < front.length → behind front.length first shown i = first i :=
    fun i hi => if_pos hi
  have hbehind : ∀ i, behind front.length first shown (front.length + i) = shown i := by
    intro i
    rw [behind, if_neg (by omega), Nat.add_sub_cancel_left]
  constructor
  · intro i name hi
    rcases Nat.lt_or_ge i front.length with hlt | hle
    · rw [hfront i hlt, htoken i name hlt hi]
    · obtain ⟨i, rfl⟩ := Nat.exists_eq_add_of_le hle
      rw [hbehind, hrest.token i name (tokenAt_append_iff.1 hi)]
  · intro i hi
    rcases Nat.lt_or_ge i front.length with hlt | hle
    · rw [hfront i hlt, hcovered i hlt hi]
    · obtain ⟨i, rfl⟩ := Nat.exists_eq_add_of_le hle
      rw [hbehind, hrest.covered i (hclosed.covered_iff.1 hi)]
  · intro i c hc hno huncovered
    rcases Nat.lt_or_ge i front.length with hlt | hle
    · rw [List.getElem?_append_left hlt] at hc
      rw [hfront i hlt, hother i c hc hno huncovered]
    · obtain ⟨i, rfl⟩ := Nat.exists_eq_add_of_le hle
      rw [List.getElem?_append_right hle, Nat.add_sub_cancel_left] at hc
      rw [hbehind]
      apply hrest.other i c hc
      · exact fun name hi => hno name (tokenAt_append_iff.2 hi)
      · exact fun hi => huncovered (hclosed.covered_iff.2 hi)

theorem flatMap_behind (n m : Nat) (first shown : Nat → List Char) :
    (List.range (n + m)).flatMap (behind n first shown) =
      (List.range n).flatMap first ++ (List.range m).flatMap shown := by
  rw [List.range_add, List.flatMap_append, List.flatMap_map]
  congr 1
  · refine List.flatMap_congr fun i hi => ?_
    exact if_pos (List.mem_range.1 hi)
  · refine List.flatMap_congr fun i _ => ?_
    rw [behind, if_neg (by omega), Nat.add_sub_cancel_left]

/-! ## Filling from the front -/

theorem filled_token (hname : IsName name) (rest : List Char) :
    filled dialect values (token name ++ rest) =
      replacement dialect values name ++ filled dialect values rest := by
  have hpiece : Piece.fill dialect values (.hole name.toList) =
      replacement dialect values name := by
    rw [Piece.fill, String.ofList_toList]
    rfl
  have htoken : token name ++ rest = '\x7b' :: (name.toList ++ '\x7d' :: rest) := by simp [token]
  rw [htoken, filled, pieces, piecesFrom_hole hname.toList_ne_nil hname.2, List.flatMap_cons,
    hpiece]
  rfl

theorem unclosed_append {read : List Char} (hread : ∀ c ∈ read, isNameChar c = true)
    (rest : List Char) : unclosed read ++ piecesFrom none rest =
      .char '\x7b' :: piecesFrom none (read.reverse ++ rest) := by
  have hopen : '\x7b' ∉ read.reverse := by
    intro hmem
    exact absurd (hread _ (List.mem_reverse.1 hmem)) (by decide)
  rw [piecesFrom_append hopen]
  rfl

/-- What was read after an opening brace is read again as it stands, if no token comes of it. -/
theorem piecesFrom_some {read : List Char} (hread : ∀ c ∈ read, isNameChar c = true)
    (h : ∀ name, ¬ TokenAt ('\x7b' :: (read.reverse ++ rest)) 0 name) :
    piecesFrom (some read) rest = .char '\x7b' :: piecesFrom none (read.reverse ++ rest) := by
  induction rest generalizing read with
  | nil => simpa [piecesFrom] using unclosed_append hread []
  | cons c rest ih =>
    by_cases hname : isNameChar c = true
    · have hagain : (c :: read).reverse ++ rest = read.reverse ++ c :: rest := by simp
      have hnext : ∀ d ∈ c :: read, isNameChar d = true := List.forall_mem_cons.2 ⟨hname, hread⟩
      rw [piecesFrom, if_pos hname, ih hnext (hagain ▸ h), hagain]
    · have hunclosed : ¬ (c = '\x7d' && !read.isEmpty) = true := by
        intro hclose
        obtain ⟨rfl, hne⟩ : c = '\x7d' ∧ read ≠ [] := by simpa using hclose
        refine h (.ofList read.reverse) ⟨⟨?_, ?_⟩, ?_⟩
        · simpa [String.ext_iff] using hne
        · simpa using hread
        · exact ⟨rest, by simp [token]⟩
      rw [piecesFrom, if_neg hname, if_neg hunclosed, ← unclosed_append hread, piecesFrom]
      split <;> rfl

theorem filled_char {c : Char} (h : ∀ name, ¬ TokenAt (c :: rest) 0 name) :
    filled dialect values (c :: rest) = c :: filled dialect values rest := by
  have hpieces : pieces (c :: rest) = .char c :: pieces rest := by
    unfold pieces
    rw [piecesFrom]
    split
    next hopen =>
      subst hopen
      have hread : ∀ d ∈ ([] : List Char), isNameChar d = true := List.forall_mem_nil _
      exact piecesFrom_some hread h
    next => rfl
  rw [filled, hpieces]
  rfl

/-- A filled template shows its tokens replaced and all else as it is. -/
theorem exists_substitutes (dialect : Dialect) (values : Values) (template : List Char) :
    ∃ shown, Substitutes dialect values template shown ∧
      filled dialect values template = (List.range template.length).flatMap shown := by
  induction template using token_induction with
  | nil =>
    refine ⟨fun _ => [], ⟨?_, fun _ _ => rfl, nofun⟩, rfl⟩
    rintro i name ⟨-, hprefix⟩
    rw [List.drop_nil] at hprefix
    cases List.prefix_nil.1 hprefix
  | token name rest hname ih =>
    obtain ⟨shown, hshown, hfilled⟩ := ih
    refine ⟨behind (token name).length
      (fun i => if i = 0 then replacement dialect values name else []) shown,
      hshown.append hname.closed_token ?_ ?_ ?_, ?_⟩
    · intro i other hlt htoken
      rcases Nat.eq_zero_or_pos i with rfl | hpos
      · rw [if_pos rfl, hname.eq_of_prefix htoken.1 htoken.2]
      · exact absurd htoken (hname.not_tokenAt hpos hlt)
    · rintro i - ⟨j, -, -, hbefore, -⟩
      exact if_neg (Nat.ne_of_gt (Nat.zero_lt_of_lt hbefore))
    · intro i c hc hno huncovered
      have hstart : TokenAt (token name ++ rest) 0 name := ⟨hname, List.prefix_append _ _⟩
      rcases Nat.eq_zero_or_pos i with rfl | hpos
      · exact absurd hstart (hno name)
      · have hlt := (List.getElem?_eq_some_iff.1 hc).1
        exact absurd ⟨0, name, hstart, hpos, by omega⟩ huncovered
    · have hfirst : (List.range (token name).length).flatMap
          (fun i => if i = 0 then replacement dialect values name else []) =
            replacement dialect values name := by
        rw [length_token, List.range_succ_eq_map, List.flatMap_cons, List.flatMap_map]
        simp
      rw [filled_token hname, hfilled, List.length_append, flatMap_behind, hfirst]
  | char c rest hno ih =>
    obtain ⟨shown, hshown, hfilled⟩ := ih
    have hclosed : Closed [c] rest := closed_singleton hno
    refine ⟨behind 1 (fun _ => [c]) shown, hshown.append hclosed ?_ ?_ ?_, ?_⟩
    · intro i name hlt htoken
      obtain rfl := Nat.lt_one_iff.1 hlt
      exact absurd htoken (hno name)
    · rintro i hlt ⟨j, -, -, hbefore, -⟩
      obtain rfl := Nat.lt_one_iff.1 hlt
      exact absurd hbefore (Nat.not_lt_zero j)
    · intro i d hd _ _
      have hlt := (List.getElem?_eq_some_iff.1 hd).1
      obtain rfl := Nat.lt_one_iff.1 hlt
      exact congrArg ([·]) (Option.some.inj hd)
    · rw [filled_char hno, hfilled, List.length_cons, Nat.add_comm, flatMap_behind]
      rfl

/-! ## The loop -/

/-- What a loop over a template has written, and what it has still to read. -/
structure Progress where
  written : List Char
  rest : List Char

/-- A round of the loop: up to the next opening brace everything is copied. If the text up to the
next closing brace is a name, the token is replaced, and otherwise the brace is copied. Without an
opening brace there is no further round. -/
def Progress.next? (dialect : Dialect) (values : Values) (p : Progress) : Option Progress :=
  (Text.cutFirst? '\x7b' p.rest).map fun (before, after) =>
    match (Text.cutFirst? '\x7d' after).filter fun (name, _) => IsName (.ofList name) with
    | some (name, rest) =>
      ⟨p.written ++ before ++ replacement dialect values (.ofList name), rest⟩
    | none => ⟨p.written ++ before ++ ['\x7b'], after⟩

/-- Where the loop stands after so many rounds, if it goes on for so long. -/
def Progress.after? (dialect : Dialect) (values : Values) : Nat → Progress → Option Progress
  | 0, p => some p
  | rounds + 1, p => (p.next? dialect values).bind (after? dialect values rounds)

namespace Progress

variable {p q : Progress}

/-- What will have been written when all of the rest is filled. -/
def goal (dialect : Dialect) (values : Values) (p : Progress) : List Char :=
  p.written ++ filled dialect values p.rest

/-- The loop ends where no opening brace is left, and then the rest is as it will be. -/
theorem goal_of_next?_eq_none (h : p.next? dialect values = none) :
    p.goal dialect values = p.written ++ p.rest := by
  have hopen : '\x7b' ∉ p.rest := Text.cutFirst?_eq_none_iff.1 (Option.map_eq_none_iff.1 h)
  have hall : filled dialect values (p.rest ++ []) = p.rest ++ filled dialect values [] :=
    filled_append hopen []
  rw [List.append_nil] at hall
  rw [goal, hall]
  exact congrArg _ (List.append_nil _)

/-- A token that stands behind an opening brace ends at the next closing one. -/
theorem tokenAt_brace_iff {after : List Char} : TokenAt ('\x7b' :: after) 0 name ↔
    IsName name ∧ ∃ rest, Text.cutFirst? '\x7d' after = some (name.toList, rest) := by
  unfold TokenAt token
  refine and_congr_right fun hname => ?_
  rw [List.drop_zero, List.cons_prefix_cons]
  simp only [true_and, Text.cutFirst?_eq_some_iff,
    and_iff_left (hname.notMem (by decide : isNameChar '\x7d' = false))]
  constructor
  · rintro ⟨rest, rfl⟩
    exact ⟨rest, by simp⟩
  · rintro ⟨rest, rfl⟩
    exact ⟨rest, by simp⟩

/-- A round leaves what will be written as it is and reads one opening brace. -/
theorem goal_of_next?_eq_some (h : p.next? dialect values = some q) :
    q.goal dialect values = p.goal dialect values ∧
      q.rest.count '\x7b' + 1 = p.rest.count '\x7b' := by
  obtain ⟨⟨before, after⟩, hcut, hq⟩ := Option.map_eq_some_iff.1 h
  obtain ⟨hrest, hbefore⟩ := Text.cutFirst?_eq_some_iff.1 hcut
  have hcount : List.count '\x7b' before = 0 := List.count_eq_zero.2 hbefore
  unfold goal
  rw [hrest, filled_append hbefore]
  simp only at hq
  split at hq
  next cs rest hfilter =>
    subst hq
    obtain ⟨hclose, hname⟩ := Option.filter_eq_some_iff.1 hfilter
    obtain ⟨rfl, -⟩ := Text.cutFirst?_eq_some_iff.1 hclose
    have hname : IsName (.ofList cs) := of_decide_eq_true hname
    have htoken : '\x7b' :: (cs ++ '\x7d' :: rest) = token (.ofList cs) ++ rest := by simp [token]
    have hinner : List.count '\x7b' cs = 0 := by
      rw [List.count_eq_zero, ← String.toList_ofList (l := cs)]
      exact hname.notMem (by decide)
    rw [htoken, filled_token hname]
    simp [hcount, hinner, token]
  next hfilter =>
    subst hq
    have hno : ∀ name, ¬ TokenAt ('\x7b' :: after) 0 name := by
      intro name htoken
      obtain ⟨hname, rest, hclose⟩ := tokenAt_brace_iff.1 htoken
      simp [hclose, hname] at hfilter
    rw [filled_char hno]
    simp [hcount]

/-- From everywhere the loop comes to its end, with a round for each opening brace that is left. -/
theorem exists_after?_eq_some (dialect : Dialect) (values : Values) (p : Progress) :
    ∃ last, p.after? dialect values (p.rest.count '\x7b') = some last ∧
      last.next? dialect values = none ∧ last.written ++ last.rest = p.goal dialect values := by
  induction hcount : p.rest.count '\x7b' generalizing p with
  | zero =>
    have hnext : p.next? dialect values = none := by
      rw [next?, Text.cutFirst?_of_not_mem (List.count_eq_zero.1 hcount)]
      rfl
    exact ⟨p, rfl, hnext, (goal_of_next?_eq_none hnext).symm⟩
  | succ n ih =>
    cases hnext : p.next? dialect values with
    | none =>
      have hopen : '\x7b' ∉ p.rest := Text.cutFirst?_eq_none_iff.1 (Option.map_eq_none_iff.1 hnext)
      rw [List.count_eq_zero.2 hopen] at hcount
      cases hcount
    | some q =>
      obtain ⟨hgoal, hread⟩ := goal_of_next?_eq_some hnext
      obtain ⟨last, hlast, hend, hwritten⟩ := ih q (by omega)
      refine ⟨last, ?_, hend, hwritten.trans hgoal⟩
      rw [after?, hnext]
      exact hlast

end Progress

/-- A filled template shows, in place of each of its characters, what comes of the token that begins
there, nothing within a token, and elsewhere the character. A loop over the opening braces writes
the same. It ends on every template, with one round for each of them. -/
theorem fill_substitutes_at_once (template : String) (dialect : Dialect) (values : Values) :
    (∃ shown, Substitutes dialect values template.toList shown ∧
      (fill template dialect values).toList =
        (List.range template.toList.length).flatMap shown) ∧
    ∃ last, Progress.after? dialect values (template.toList.count '\x7b') ⟨[], template.toList⟩ =
        some last ∧ last.next? dialect values = none ∧
      (fill template dialect values).toList = last.written ++ last.rest := by
  have hfill : (fill template dialect values).toList =
      filled dialect values template.toList := String.toList_ofList
  rw [hfill]
  refine ⟨exists_substitutes dialect values template.toList, ?_⟩
  obtain ⟨last, hlast, hend, hwritten⟩ :=
    Progress.exists_after?_eq_some dialect values ⟨[], template.toList⟩
  exact ⟨last, hlast, hend, hwritten.symm⟩

-- A token within braces that belong to none, and a value with a token in it.
example : fill "\x7ba\x7bb\x7d\x7b\x7b\x7d\x7bc\x7d" .terminal [("b", "\x7bc\x7d")] =
    "\x7ba\x7bc\x7d\x7b\x7b\x7d<c>" := by
  decide

end Gazetteer.Hint
