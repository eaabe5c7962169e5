import Gazetteer.Json.Decoder
import Gazetteer.Proofs.Number.Digits
import Mathlib.Data.List.TakeDrop

/-!
# Printed values read back

A value whose numbers are words is printed as a text that reads back as the draft of the value, with
nothing left over, whether over many lines (`read_prettyText`) or on one (`read_compactText`). Both
ways of printing are layouts, which differ in their white space only. The parts of a text are
treated in turn, each with whatever text follows it.
-/

namespace Gazetteer.Json

/-- A whole number that 64 bits hold, with a sign or without. -/
def Number.IsWord : Number → Prop
  | .whole n => -(UInt64.size / 2 : Nat) ≤ n ∧ n < UInt64.size
  | .fraction _ => False

mutual

/-- All numbers in a value are words, so that reading does not round them. -/
def IsExact : Json → Prop
  | .null | .bool _ | .string _ => True
  | .number n => n.IsWord
  | .array items => AreExact items
  | .object fields => FieldsAreExact fields

def AreExact : List Json → Prop
  | [] => True
  | item :: items => IsExact item ∧ AreExact items

def FieldsAreExact : List (String × Json) → Prop
  | [] => True
  | (_, value) :: fields => IsExact value ∧ FieldsAreExact fields

end

/-! ## Layouts -/

/-- Where white space stands in a text: in front of the items of a level and of the bracket that
closes the level below, and behind a colon. -/
structure Layout where
  gap : Nat → List Char
  colonGap : List Char
  isSpace_gap : ∀ level, ∀ c ∈ gap level, Draft.isSpace c = true
  isSpace_colonGap : ∀ c ∈ colonGap, Draft.isSpace c = true

namespace Layout

def lines : Layout where
  gap := freshLine
  colonGap := [' ']
  isSpace_gap level c hc := by
    rcases List.mem_cons.1 hc with rfl | hc
    · rfl
    · rw [List.eq_of_mem_replicate hc]
      rfl
  isSpace_colonGap c hc := by
    rw [List.mem_singleton.1 hc]
    rfl

def line : Layout where
  gap _ := []
  colonGap := []
  isSpace_gap _ := nofun
  isSpace_colonGap := nofun

mutual

/-- The text of a value, with `level` for the level of what surrounds it. -/
def text (l : Layout) (level : Nat) : Json → List Char
  | .array [] => ['[', ']']
  | .array (item :: items) =>
    '[' :: l.gap (level + 1) ++ l.text (level + 1) item ++ l.itemsText (level + 1) items ++
      l.gap level ++ [']']
  | .object [] => ['\x7b', '\x7d']
  | .object ((name, value) :: fields) =>
    '\x7b' :: l.gap (level + 1) ++ quotedString name ++ ':' :: l.colonGap ++
      l.text (level + 1) value ++ l.fieldsText (level + 1) fields ++ l.gap level ++ ['\x7d']
  | value => scalarText value

def itemsText (l : Layout) (level : Nat) : List Json → List Char
  | [] => []
  | item :: items => ',' :: l.gap level ++ l.text level item ++ l.itemsText level items

def fieldsText (l : Layout) (level : Nat) : List (String × Json) → List Char
  | [] => []
  | (name, value) :: fields =>
    ',' :: l.gap level ++ quotedString name ++ ':' :: l.colonGap ++ l.text level value ++
      l.fieldsText level fields

end

mutual

theorem text_lines (level : Nat) : ∀ v, lines.text level v = prettyText level v
  | .null | .bool _ | .number _ | .string _ | .array [] | .object [] => by
    simp only [text, prettyText]
  | .array (item :: items) => by
    rw [text, prettyText, text_lines _ item, itemsText_lines _ items]
    rfl
  | .object ((name, value) :: fields) => by
    rw [text, prettyText, text_lines _ value, fieldsText_lines _ fields]
    simp [lines]

theorem itemsText_lines (level : Nat) :
    ∀ items, lines.itemsText level items = prettyItems level items
  | [] => by rw [itemsText, prettyItems]
  | item :: items => by
    rw [itemsText, prettyItems, text_lines _ item, itemsText_lines _ items]
    rfl

theorem fieldsText_lines (level : Nat) :
    ∀ fields, lines.fieldsText level fields = prettyFields level fields
  | [] => by rw [fieldsText, prettyFields]
  | (name, value) :: fields => by
    rw [fieldsText, prettyFields, text_lines _ value, fieldsText_lines _ fields]
    simp [lines]

end

mutual

theorem text_line (level : Nat) : ∀ v, line.text level v = compactText v
  | .null | .bool _ | .number _ | .string _ | .array [] | .object [] => by
    simp only [text, compactText]
  | .array (item :: items) => by
    rw [text, compactText, text_line _ item, itemsText_line _ items]
    simp [line]
  | .object ((name, value) :: fields) => by
    rw [text, compactText, text_line _ value, fieldsText_line _ fields]
    simp [line]

theorem itemsText_line (level : Nat) : ∀ items, line.itemsText level items = compactItems items
  | [] => by rw [itemsText, compactItems]
  | item :: items => by
    rw [itemsText, compactItems, text_line _ item, itemsText_line _ items]
    simp [line]

theorem fieldsText_line (level : Nat) :
    ∀ fields, line.fieldsText level fields = compactFields fields
  | [] => by rw [fieldsText, compactFields]
  | (name, value) :: fields => by
    rw [fieldsText, compactFields, text_line _ value, fieldsText_line _ fields]
    simp [line]

end

end Layout

namespace Draft

/-! ## White space -/

theorem skipSpace_cons {c : Char} {cs : List Char} (h : isSpace c = false) :
    skipSpace (c :: cs) = c :: cs := by
  rw [skipSpace, List.dropWhile_cons_of_neg (by simp [h])]

theorem skipSpace_append {space cs : List Char} (h : ∀ c ∈ space, isSpace c = true) :
    skipSpace (space ++ cs) = skipSpace cs :=
  List.dropWhile_append_of_pos h

/-! ## Strings -/

/-- Whether a unit is what reading makes of a character: the character, or its escape if it is a
control character. -/
def Unit16.StandsFor (c : Char) : Unit16 → Prop
  | .char d => d = c
  | .escape n => n = c.toNat ∧ n < 0x20

theorem read?_controlDigits {n : Nat} (h : n < 0x20) :
    Numeral.read? 16 (controlDigits n) = some n := by
  have all : ∀ n, n < 0x20 → Numeral.read? 16 (controlDigits n) = some n := by decide
  exact all n h

theorem readUnits?_escapedChar (c : Char) {cs rest : List Char} {units : List Unit16}
    (h : readUnits? cs = some (units, rest)) :
    ∃ u, Unit16.StandsFor c u ∧ readUnits? (escapedChar c ++ cs) = some (u :: units, rest) := by
  unfold escapedChar
  split
  case h_8 hquote hslash _ _ _ _ _ =>
    split
    next hctl =>
      have hdigits := read?_controlDigits hctl
      refine ⟨.escape c.toNat, ⟨rfl, hctl⟩, ?_⟩
      rw [controlDigits] at hdigits ⊢
      simp [readUnits?, hdigits, h]
    next hctl =>
      refine ⟨.char c, rfl, ?_⟩
      rw [List.singleton_append, readUnits?]
      · rw [if_neg (fun hbad => hbad.elim hctl hslash), h]
        rfl
      · exact hquote
      · exact fun _ _ _ _ _ heq => absurd heq hslash
      · exact fun _ _ heq => absurd heq hslash
  all_goals
    -- the short escapes: a backslash and one letter
    exact ⟨.char _, rfl, by simp [readUnits?, escapeOf?, h]⟩

theorem paired?_cons {c : Char} {u : Unit16} (hu : u.StandsFor c) {units : List Unit16}
    {cs : List Char} (h : paired? units = some cs) : paired? (u :: units) = some (c :: cs) := by
  cases u with
  | char d =>
    obtain rfl : d = c := hu
    rw [paired?, h]
    rfl
  | escape n =>
    obtain ⟨rfl, hlt⟩ := hu
    -- A control character is no surrogate, so it is not paired with what follows.
    have hlow : c.toNat < 0xD800 ∨ 0xDFFF < c.toNat := .inl (by omega)
    rcases units with _ | ⟨_ | low, units⟩
    · rw [paired?, if_pos hlow, h]
      · simp
      · exact fun _ _ heq => by cases heq
    · rw [paired?, if_pos hlow, h]
      · simp
      · exact fun _ _ heq => by cases heq
    · rw [paired?, if_pos hlow, h]
      simp

theorem readUnits?_escaped (cs rest : List Char) :
    ∃ units, readUnits? (escaped cs ++ '"' :: rest) = some (units, rest) ∧
      paired? units = some cs := by
  induction cs with
  | nil => exact ⟨[], rfl, rfl⟩
  | cons c cs ih =>
    obtain ⟨units, hread, hpaired⟩ := ih
    obtain ⟨u, hu, hstep⟩ := readUnits?_escapedChar c hread
    refine ⟨u :: units, ?_, paired?_cons hu hpaired⟩
    rw [escaped, List.flatMap_cons, List.append_assoc]
    exact hstep

theorem readString?_escaped (s : String) (rest : List Char) :
    readString? paired? (escaped s.toList ++ '"' :: rest) = some (some s, rest) := by
  obtain ⟨units, hread, hpaired⟩ := readUnits?_escaped s.toList rest
  simp [readString?, hread, hpaired]

/-! ## Numbers -/

/-- Whether a number ends where a text begins. -/
def EndsNumber (rest : List Char) : Prop :=
  ∀ c, rest.head? = some c → c.isDigit = false ∧ c ≠ '.' ∧ c ≠ 'e' ∧ c ≠ 'E'

theorem digitsOf_append {digits rest : List Char} (hdigits : ∀ c ∈ digits, c.isDigit = true)
    (hrest : EndsNumber rest) : digitsOf (digits ++ rest) = (digits, rest) := by
  have hstop : rest.takeWhile Char.isDigit = [] ∧ rest.dropWhile Char.isDigit = rest := by
    cases rest with
    | nil => exact ⟨rfl, rfl⟩
    | cons c cs => simp [(hrest c rfl).1]
  rw [digitsOf, List.span_eq_takeWhile_dropWhile, List.takeWhile_append_of_pos hdigits,
    List.dropWhile_append_of_pos hdigits, hstop.1, hstop.2, List.append_nil]

theorem readFraction?_of_endsNumber {rest : List Char} (h : EndsNumber rest) :
    readFraction? rest = some (none, rest) := by
  rw [readFraction?]
  rintro cs rfl
  exact (h '.' rfl).2.1 rfl

theorem readExponent?_of_endsNumber {rest : List Char} (h : EndsNumber rest) :
    readExponent? rest = some (none, rest) := by
  cases rest with
  | nil => rfl
  | cons c cs =>
    obtain ⟨-, -, he, hE⟩ := h c rfl
    unfold readExponent?
    exact if_neg fun hbad => hbad.elim he hE

/-- Only zero is written with a zero in front. -/
theorem eq_zero_of_head?_toDigits {n : Nat} (h : (Nat.toDigits 10 n).head? = some '0') : n = 0 := by
  -- The first digit is that of the number without its last digit.
  induction n using Nat.strongRecOn with
  | _ n ih =>
    rw [Nat.toDigits_eq_if (by decide)] at h
    split at h
    next => simpa using h
    next hge =>
      obtain ⟨d, ds, hd⟩ := List.exists_cons_of_ne_nil (Nat.toDigits_ne_nil (n := n / 10) (b := 10))
      rw [hd] at h
      have := ih (n / 10) (Nat.div_lt_self (by omega) (by decide)) (by rw [hd]; exact h)
      omega

theorem readNumber?_digits (negative : Bool) (n : Nat) {rest : List Char} (h : EndsNumber rest) :
    readNumber? ((if negative then ['-'] else []) ++ (Nat.toDigits 10 n ++ rest)) =
      some (⟨negative, Nat.toDigits 10 n, none, none⟩, rest) := by
  have hdigit : ∀ c ∈ Nat.toDigits 10 n, c.isDigit = true :=
    fun c hc => Nat.isDigit_of_mem_toDigits (by decide) (by decide) hc
  have hlead : ¬(Nat.toDigits 10 n = [] ∨
      ((Nat.toDigits 10 n).head? = some '0' ∧ 1 < (Nat.toDigits 10 n).length)) := by
    rintro (hnil | ⟨hzero, hlong⟩)
    · exact Nat.toDigits_ne_nil hnil
    · obtain rfl := eq_zero_of_head?_toDigits hzero
      simp at hlong
  unfold readNumber?
  split
  next sign cs heq =>
    have hsign : sign = negative ∧ cs = Nat.toDigits 10 n ++ rest := by
      cases negative with
      | true =>
        obtain ⟨rfl, rfl⟩ := Prod.mk.inj heq
        exact ⟨rfl, rfl⟩
      | false =>
        obtain ⟨d, ds, hd⟩ := List.exists_cons_of_ne_nil (Nat.toDigits_ne_nil (n := n) (b := 10))
        have hne : d ≠ '-' := by
          rintro rfl
          exact absurd (hdigit '-' (hd ▸ List.mem_cons_self)) (by decide)
        rw [hd] at heq ⊢
        split at heq
        next tail hcons => exact absurd (List.cons.inj hcons).1 hne
        next =>
          obtain ⟨rfl, rfl⟩ := Prod.mk.inj heq
          exact ⟨rfl, rfl⟩
    obtain ⟨rfl, rfl⟩ := hsign
    simp only [digitsOf_append hdigit h, if_neg hlead, readFraction?_of_endsNumber h,
      Option.bind_eq_bind, Option.bind_some, readExponent?_of_endsNumber h]

/-- The digits of a word are all taken in. -/
theorem appendDigits_of_lt {cs : List Char} {m : Nat}
    (h : cs.foldl (fun n c => 10 * n + Numeral.digitValue c) m < UInt64.size) :
    appendDigits m cs = (cs.foldl (fun n c => 10 * n + Numeral.digitValue c) m, 0) := by
  have grows : ∀ (cs : List Char) (m : Nat),
      m ≤ cs.foldl (fun n c => 10 * n + Numeral.digitValue c) m := by
    intro cs
    induction cs with
    | nil => exact fun m => Nat.le_refl m
    | cons c cs ih =>
      exact fun m => Nat.le_trans (by omega : m ≤ 10 * m + Numeral.digitValue c) (ih _)
  induction cs generalizing m with
  | nil => rfl
  | cons c cs ih =>
    have hfirst := Nat.lt_of_le_of_lt (grows cs _) h
    unfold appendDigits
    rw [if_pos hfirst, ih h]
    rfl

theorem readNumber_text {n : Int} (hn : (Number.whole n).IsWord) {rest : List Char}
    (h : EndsNumber rest) :
    readNumber ((Number.whole n).text ++ rest) = (.number (.whole n), rest) := by
  obtain ⟨hlow, hhigh⟩ := hn
  -- The sign is read by itself, and the digits are those of the absolute value.
  have htext : (Number.whole n).text ++ rest =
      (if decide (n < 0) then ['-'] else []) ++ (Nat.toDigits 10 n.natAbs ++ rest) := by
    by_cases hneg : n < 0 <;> simp [Number.text, hneg]
  have hsize : UInt64.size = 2 ^ 64 := rfl
  have hdigits : appendDigits 0 (Nat.toDigits 10 n.natAbs) = (n.natAbs, 0) := by
    have hvalue : Numeral.value 10 (Nat.toDigits 10 n.natAbs) = n.natAbs :=
      Numeral.value_toDigits (by decide) (by decide) n.natAbs
    have hlt : Numeral.value 10 (Nat.toDigits 10 n.natAbs) < UInt64.size := by omega
    have hall := appendDigits_of_lt hlt
    rwa [← Numeral.value, hvalue] at hall
  have hnumber : NumberParts.number? ⟨decide (n < 0), Nat.toDigits 10 n.natAbs, none, none⟩ =
      some (.whole n) := by
    unfold NumberParts.number?
    simp only [hdigits, and_self, if_true]
    by_cases hneg : n < 0
    · have hrange : 0 < n.natAbs ∧ n.natAbs ≤ UInt64.size / 2 := by omega
      simp only [hneg, decide_true, Bool.not_true, Bool.false_eq_true, if_false, if_pos hrange]
      congr 2
      omega
    · simp only [hneg, decide_false, Bool.not_false, if_true]
      congr 2
      omega
  rw [htext, readNumber, readNumber?_digits _ _ h]
  simp only [hnumber]

/-! ## Values

The fuel is counted against the text: a value takes two units for each of its characters, so the
items of an array, each behind a bracket or a comma, never run short. -/

theorem endsNumber_cons {c : Char} {cs : List Char}
    (h : c.isDigit = false ∧ c ≠ '.' ∧ c ≠ 'e' ∧ c ≠ 'E') : EndsNumber (c :: cs) := by
  rintro d ⟨⟩
  exact h

theorem endsNumber_append {space cs : List Char} (hspace : ∀ c ∈ space, isSpace c = true)
    (h : EndsNumber cs) : EndsNumber (space ++ cs) := by
  cases space with
  | nil => exact h
  | cons c space =>
    have hc := hspace c List.mem_cons_self
    simp only [isSpace, Bool.or_eq_true, decide_eq_true_eq] at hc
    refine endsNumber_cons ?_
    rcases hc with ((rfl | rfl) | rfl) | rfl <;> decide

theorem endsNumber_gap (l : Layout) (level : Nat) {c : Char} {cs : List Char}
    (h : c.isDigit = false ∧ c ≠ '.' ∧ c ≠ 'e' ∧ c ≠ 'E') : EndsNumber (l.gap level ++ c :: cs) :=
  endsNumber_append (l.isSpace_gap level) (endsNumber_cons h)

theorem endsNumber_comma (cs : List Char) : EndsNumber (',' :: cs) := endsNumber_cons (by decide)

/-- How the text of a value begins. -/
def StartsValue (c : Char) : Prop :=
  c = '\x7b' ∨ c = '[' ∨ c = '"' ∨ c = 'n' ∨ c = 't' ∨ c = 'f' ∨ c = '-' ∨ c.isDigit = true

theorem StartsValue.facts {c : Char} (h : StartsValue c) :
    isSpace c = false ∧ c ≠ ']' ∧ c ≠ '\x7d' := by
  rcases h with rfl | rfl | rfl | rfl | rfl | rfl | rfl | h
  case inr.inr.inr.inr.inr.inr.inr =>
    have hne : ∀ d : Char, d.isDigit = false → c ≠ d := by
      rintro d hd rfl
      rw [hd] at h
      cases h
    simp [isSpace, hne]
  all_goals decide

theorem exists_startsValue_number {n : Number} (h : n.IsWord) :
    ∃ c cs, n.text = c :: cs ∧ (c = '-' ∨ c.isDigit = true) := by
  cases n with
  | fraction x => exact absurd h id
  | whole n =>
    by_cases hneg : n < 0
    · exact ⟨'-', _, if_pos hneg, .inl rfl⟩
    · obtain ⟨d, ds, hd⟩ :=
        List.exists_cons_of_ne_nil (Nat.toDigits_ne_nil (n := n.natAbs) (b := 10))
      have hmem : d ∈ Nat.toDigits 10 n.natAbs := hd ▸ List.mem_cons_self
      exact ⟨d, ds, (if_neg hneg).trans hd,
        .inr (Nat.isDigit_of_mem_toDigits (by decide) (by decide) hmem)⟩

theorem exists_startsValue (l : Layout) (level : Nat) {v : Json} (h : IsExact v) :
    ∃ c cs, l.text level v = c :: cs ∧ StartsValue c := by
  cases v with
  | null => exact ⟨'n', _, rfl, by simp [StartsValue]⟩
  | bool b => cases b <;> exact ⟨_, _, rfl, by simp [StartsValue]⟩
  | number n =>
    obtain ⟨c, cs, htext, hc⟩ := exists_startsValue_number h
    exact ⟨c, cs, htext, by simp only [StartsValue, hc, or_true]⟩
  | string s => exact ⟨'"', _, rfl, by simp [StartsValue]⟩
  | array items => cases items <;> exact ⟨'[', _, rfl, by simp [StartsValue]⟩
  | object fields =>
    rcases fields with _ | ⟨⟨_, _⟩, _⟩ <;> exact ⟨'\x7b', _, rfl, by simp [StartsValue]⟩

variable {spelling : Spelling} {l : Layout}

theorem readValue_of_skipSpace {cs ds : List Char} (h : skipSpace cs = skipSpace ds) (fuel : Nat) :
    readValue spelling fuel cs = readValue spelling fuel ds := by
  cases fuel with
  | zero => rfl
  | succ fuel => simp only [readValue, h]

theorem readItems_of_skipSpace {cs ds : List Char} (h : skipSpace cs = skipSpace ds) (fuel : Nat) :
    readItems spelling fuel cs = readItems spelling fuel ds := by
  cases fuel with
  | zero => rfl
  | succ fuel => simp only [readItems, readValue_of_skipSpace h]

theorem readFields_of_skipSpace {cs ds : List Char} (h : skipSpace cs = skipSpace ds) (fuel : Nat) :
    readFields spelling fuel cs = readFields spelling fuel ds := by
  cases fuel with
  | zero => rfl
  | succ fuel => simp only [readFields, h]

theorem readValue_number {c : Char} {cs : List Char} (h : c = '-' ∨ c.isDigit = true) (fuel : Nat) :
    readValue spelling (fuel + 1) (c :: cs) = readNumber (c :: cs) := by
  have hstart : StartsValue c := by simp only [StartsValue, h, or_true]
  have hne : ∀ d : Char, (d == '-' || d.isDigit) = false → c ≠ d := by
    rintro d hd rfl
    rcases h with rfl | h <;> simp_all
  rw [readValue, skipSpace_cons hstart.facts.1]
  split
  case h_7 => rfl
  all_goals next heq => exact absurd (List.cons.inj heq).1 (hne _ (by decide))

/-- Fuel with which every printed value is read back whose text it covers. -/
def ReadsValues (l : Layout) (fuel : Nat) : Prop :=
  ∀ level {v}, IsExact v → 2 * (l.text level v).length ≤ fuel →
    ∀ rest, EndsNumber rest →
      readValue paired? fuel (l.text level v ++ rest) = (ofJson v, rest)

def ReadsItems (l : Layout) (fuel : Nat) : Prop :=
  ∀ level {item items}, IsExact item → AreExact items →
    2 * (l.text level item ++ l.itemsText level items).length < fuel →
      ∀ outer rest,
        readItems paired? fuel (l.text level item ++ (l.itemsText level items ++
          (l.gap outer ++ ']' :: rest))) = (ofItems (item :: items), true, rest)

def ReadsFields (l : Layout) (fuel : Nat) : Prop :=
  ∀ level name {value fields}, IsExact value → FieldsAreExact fields →
    2 * (l.text level value ++ l.fieldsText level fields).length < fuel →
      ∀ outer rest,
        readFields paired? fuel (quotedString name ++ (':' :: (l.colonGap ++ (l.text level value ++
          (l.fieldsText level fields ++ (l.gap outer ++ '\x7d' :: rest)))))) =
          (ofFields ((name, value) :: fields), true, rest)

theorem readsItems_succ {fuel : Nat} (hvalues : ReadsValues l fuel) (hitems : ReadsItems l fuel) :
    ReadsItems l (fuel + 1) := by
  intro level item items hitem hrest hfuel outer rest
  rw [List.length_append] at hfuel
  have hvalue := hvalues level hitem (by omega)
  cases items with
  | nil =>
    rw [Layout.itemsText, List.nil_append, readItems, hvalue _ (endsNumber_gap l outer (by decide))]
    simp only [skipSpace_append (l.isSpace_gap outer),
      skipSpace_cons (by decide : isSpace ']' = false)]
    rfl
  | cons next items =>
    simp only [Layout.itemsText, List.length_append, List.length_cons] at hfuel
    have hmore := hitems level hrest.1 hrest.2 (by rw [List.length_append]; omega) outer rest
    rw [Layout.itemsText, List.cons_append, List.cons_append, List.cons_append, readItems,
      hvalue _ (endsNumber_comma _)]
    simp only [skipSpace_cons (by decide : isSpace ',' = false), List.append_assoc,
      readItems_of_skipSpace (skipSpace_append (l.isSpace_gap level)), hmore]
    rfl

theorem readsFields_succ {fuel : Nat} (hvalues : ReadsValues l fuel)
    (hfields : ReadsFields l fuel) : ReadsFields l (fuel + 1) := by
  intro level name value fields hvalue hrest hfuel outer rest
  rw [List.length_append] at hfuel
  have hname : ∀ cs,
      readString? paired? (escaped name.toList ++ '"' :: cs) = some (some name, cs) :=
    readString?_escaped name
  have hread : ∀ cs, EndsNumber cs →
      readValue paired? fuel (l.colonGap ++ (l.text level value ++ cs)) = (ofJson value, cs) := by
    intro cs hcs
    rw [readValue_of_skipSpace (skipSpace_append l.isSpace_colonGap)]
    exact hvalues level hvalue (by omega) cs hcs
  cases fields with
  | nil =>
    have hlast := hread (l.gap outer ++ '\x7d' :: rest) (endsNumber_gap l outer (by decide))
    rw [Layout.fieldsText, List.nil_append, quotedString, readFields]
    simp only [List.cons_append, List.append_assoc, List.nil_append, hname,
      skipSpace_cons (by decide : isSpace '"' = false),
      skipSpace_cons (by decide : isSpace ':' = false), hlast,
      skipSpace_append (l.isSpace_gap outer), skipSpace_cons (by decide : isSpace '\x7d' = false)]
    rfl
  | cons next fields =>
    obtain ⟨nextName, nextValue⟩ := next
    simp only [Layout.fieldsText, List.length_append, List.length_cons] at hfuel
    have hmore := hfields level nextName hrest.1 hrest.2 (by rw [List.length_append]; omega)
      outer rest
    rw [Layout.fieldsText, quotedString, readFields]
    simp only [List.cons_append, List.append_assoc, List.nil_append, hname,
      skipSpace_cons (by decide : isSpace '"' = false),
      skipSpace_cons (by decide : isSpace ':' = false),
      hread _ (endsNumber_comma _),
      skipSpace_cons (by decide : isSpace ',' = false),
      readFields_of_skipSpace (skipSpace_append (l.isSpace_gap level)), hmore]
    rfl

theorem readsValues_succ {fuel : Nat} (hitems : ReadsItems l fuel) (hfields : ReadsFields l fuel) :
    ReadsValues l (fuel + 1) := by
  intro level v hv hfuel rest hrest
  cases v with
  | null => simp [Layout.text, scalarText, readValue, skipSpace, isSpace, ofJson]
  | bool b => cases b <;> simp [Layout.text, scalarText, readValue, skipSpace, isSpace, ofJson]
  | number n =>
    obtain ⟨c, cs, htext, hc⟩ := exists_startsValue_number hv
    cases n with
    | fraction x => exact absurd hv id
    | whole n =>
      have hprinted : l.text level (.number (.whole n)) = (Number.whole n).text := by
        simp [Layout.text, scalarText]
      have hread := readNumber_text hv hrest
      rw [htext] at hread
      rw [hprinted, htext, List.cons_append, readValue_number hc]
      exact hread
  | string s =>
    have hread := readString?_escaped s rest
    simp [Layout.text, scalarText, quotedString, readValue, skipSpace, isSpace, ofJson, hread]
  | array items =>
    cases items with
    | nil => simp [Layout.text, readValue, skipSpace, isSpace, ofJson, ofItems]
    | cons item items =>
      simp only [Layout.text, List.length_append, List.length_cons] at hfuel
      have hall := hitems (level + 1) hv.1 hv.2 (by rw [List.length_append]; omega) level rest
      obtain ⟨c, cs, htext, hc⟩ := exists_startsValue l (level + 1) hv.1
      have hspace : ∀ ds, skipSpace (l.text (level + 1) item ++ ds) =
          l.text (level + 1) item ++ ds := by
        intro ds
        rw [htext]
        exact skipSpace_cons hc.facts.1
      rw [Layout.text, readValue]
      simp only [List.cons_append, List.append_assoc, List.nil_append,
        skipSpace_cons (by decide : isSpace '[' = false),
        skipSpace_append (l.isSpace_gap (level + 1)), hspace]
      -- The text of an item does not begin with the bracket that would close an empty array.
      split
      next heq =>
        rw [htext] at heq
        exact absurd (List.cons.inj heq).1 hc.facts.2.1
      next =>
        rw [hall]
        rfl
  | object fields =>
    rcases fields with _ | ⟨⟨name, value⟩, fields⟩
    · simp [Layout.text, readValue, skipSpace, isSpace, ofJson, ofFields]
    · simp only [Layout.text, List.length_append, List.length_cons] at hfuel
      have hall := hfields (level + 1) name hv.1 hv.2 (by rw [List.length_append]; omega) level rest
      have hquote : ∀ ds, skipSpace (quotedString name ++ ds) = quotedString name ++ ds :=
        fun ds => skipSpace_cons (by decide)
      rw [Layout.text, readValue]
      simp only [List.cons_append, List.append_assoc, List.nil_append,
        skipSpace_cons (by decide : isSpace '\x7b' = false),
        skipSpace_append (l.isSpace_gap (level + 1)), hquote]
      split
      next heq => exact absurd (List.cons.inj heq).1 (by decide)
      next =>
        rw [hall]
        rfl

theorem reads_all (l : Layout) (fuel : Nat) :
    ReadsValues l fuel ∧ ReadsItems l fuel ∧ ReadsFields l fuel := by
  induction fuel with
  | zero =>
    refine ⟨?_, fun _ _ _ _ _ h => absurd h (by omega), fun _ _ _ _ _ _ h => absurd h (by omega)⟩
    intro level v hv hfuel
    obtain ⟨c, cs, htext, -⟩ := exists_startsValue l level hv
    simp [htext] at hfuel
  | succ fuel ih =>
    obtain ⟨hvalues, hitems, hfields⟩ := ih
    exact ⟨readsValues_succ hitems hfields, readsItems_succ hvalues hitems,
      readsFields_succ hvalues hfields⟩

/-- A printed value reads back as its draft, and nothing is left. -/
theorem read_text (l : Layout) {v : Json} (hv : IsExact v) :
    read (l.text 0 v) = (ofJson v, []) := by
  have h := (reads_all l (2 * (l.text 0 v).length + 2)).1 0 hv (by omega) [] nofun
  rwa [List.append_nil] at h

theorem read_prettyText {v : Json} (hv : IsExact v) : read (prettyText 0 v) = (ofJson v, []) := by
  rw [← Layout.text_lines, read_text .lines hv]

theorem read_compactText {v : Json} (hv : IsExact v) : read (compactText v) = (ofJson v, []) := by
  rw [← Layout.text_line 0, read_text .line hv]

end Draft

namespace Decoder

variable {α : Type} {decoder : Decoder α} {v : Json}

theorem ofText_of_read {cs : List Char} (h : Draft.read cs = (.ofJson v, [])) :
    decoder.ofText cs = decoder (.text 128) (.ofJson v) := by
  rw [Decoder.ofText, h]
  simp only [Decoder.ofDraft, List.all_nil, if_true]
  cases decoder (.text 128) (.ofJson v) <;> rfl

theorem ofText_pretty (hv : v.IsExact) :
    decoder.ofText v.pretty.toList = decoder (.text 128) (.ofJson v) := by
  rw [pretty, String.toList_ofList, ofText_of_read (Draft.read_prettyText hv)]

theorem ofText_compact (hv : v.IsExact) :
    decoder.ofText v.compact.toList = decoder (.text 128) (.ofJson v) := by
  rw [compact, String.toList_ofList, ofText_of_read (Draft.read_compactText hv)]

end Decoder

end Gazetteer.Json
