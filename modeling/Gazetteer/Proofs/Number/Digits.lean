import Mathlib.Data.List.Induction
import Gazetteer.Number.Numeral

/-!
# Numerals read back

What `Nat.toDigits` writes in a base of at most sixteen, `Numeral.read?` reads as the same number.
A word read back is the word itself.

Nothing is read but numerals, which may have a plus sign, leading zeros and capital digits, and each
as the number it denotes by place value (`readWord?_eq_some_iff`).
-/

namespace Gazetteer.Numeral

theorem digitValue_digitChar {n : Nat} (h : n < 16) : digitValue n.digitChar = n := by
  have all : ∀ n, n < 16 → digitValue n.digitChar = n := by decide
  exact all n h

theorem value_concat (base : Nat) (cs : List Char) (c : Char) :
    value base (cs ++ [c]) = base * value base cs + digitValue c := by
  simp [value, List.foldl_append]

variable {base : Nat}

theorem value_toDigits (hb : 1 < base) (hb' : base ≤ 16) (n : Nat) :
    value base (Nat.toDigits base n) = n := by
  induction n using Nat.strongRecOn with
  | _ n ih =>
    rw [Nat.toDigits_eq_if hb]
    split
    next hlt => simp [value, digitValue_digitChar (Nat.lt_of_lt_of_le hlt hb')]
    next hge =>
      have hmod : n % base < base := Nat.mod_lt _ (by omega)
      have hdiv : n / base < n := Nat.div_lt_self (by omega) hb
      rw [value_concat, ih _ hdiv, digitValue_digitChar (by omega)]
      exact Nat.div_add_mod n base

theorem digitValue_lt_of_mem_toDigits (hb : 1 < base) (hb' : base ≤ 16) {n : Nat} {c : Char}
    (h : c ∈ Nat.toDigits base n) : digitValue c < base := by
  induction n using Nat.strongRecOn with
  | _ n ih =>
    rw [Nat.toDigits_eq_if hb] at h
    split at h
    next hlt =>
      obtain rfl := List.mem_singleton.1 h
      rwa [digitValue_digitChar (Nat.lt_of_lt_of_le hlt hb')]
    next hge =>
      have hmod : n % base < base := Nat.mod_lt _ (by omega)
      rcases List.mem_append.1 h with h | h
      · exact ih _ (Nat.div_lt_self (by omega) hb) h
      · obtain rfl := List.mem_singleton.1 h
        rwa [digitValue_digitChar (by omega)]

theorem read?_toDigits (hb : 1 < base) (hb' : base ≤ 16) (n : Nat) :
    read? base (Nat.toDigits base n) = some n := by
  have hall : (Nat.toDigits base n).all (fun c => digitValue c < base) = true :=
    List.all_eq_true.2 fun c hc => decide_eq_true (digitValue_lt_of_mem_toDigits hb hb' hc)
  rw [read?, if_pos ⟨Nat.toDigits_ne_nil, hall⟩, value_toDigits hb hb']

/-- No digit of a base of at most sixteen is a sign, so none is taken off before reading. -/
theorem not_mem_toDigits (hb : 1 < base) (hb' : base ≤ 16) {n : Nat} {c : Char}
    (h : digitValue c = 36) : c ∉ Nat.toDigits base n := by
  intro hc
  have := digitValue_lt_of_mem_toDigits hb hb' hc
  omega

theorem readWord?_toDigits (hb : 1 < base) (hb' : base ≤ 16) (n : UInt64) :
    readWord? base (Nat.toDigits base n.toNat) = some n := by
  have hsign : '+' ∉ Nat.toDigits base n.toNat := not_mem_toDigits hb hb' (by decide)
  rw [readWord?, read?_toDigits hb hb', Option.bind_some, if_pos n.toNat_lt]
  · simp
  · intro rest heq
    exact hsign (heq ▸ List.mem_cons_self)

/-! ## Everything that is read -/

/-- Whether a character is the digit with a value. Letters may be of either case. -/
def IsDigit (base : Nat) (c : Char) (v : Nat) : Prop :=
  v < base ∧ ("0123456789abcdef".toList[v]? = some c ∨ "0123456789ABCDEF".toList[v]? = some c)

/-- The runs of digits, each with the number it denotes by place value. -/
inductive Denotes (base : Nat) : List Char → Nat → Prop where
  | digit {c : Char} {v : Nat} (hc : IsDigit base c v) : Denotes base [c] v
  | concat {cs : List Char} {c : Char} {n v : Nat} (hcs : Denotes base cs n)
    (hc : IsDigit base c v) : Denotes base (cs ++ [c]) (base * n + v)

/-- The numerals of words: runs of digits, with a plus sign or without. -/
inductive DenotesWord (base : Nat) : List Char → UInt64 → Prop where
  | plain {cs : List Char} {n : UInt64} (h : Denotes base cs n.toNat) : DenotesWord base cs n
  | plus {cs : List Char} {n : UInt64} (h : Denotes base cs n.toNat) :
    DenotesWord base ('+' :: cs) n

variable {cs : List Char} {c : Char} {n v : Nat}

theorem digitValue_of_not_ascii (h : 128 ≤ c.toNat) : digitValue c = 36 := by
  have hbeyond : ∀ low high : Char, high.toNat < 128 → ¬ (low ≤ c ∧ c ≤ high) := by
    rintro low high hhigh ⟨-, hle⟩
    have hnat : c.toNat ≤ high.toNat := hle
    omega
  unfold digitValue
  rw [if_neg (hbeyond _ _ (by decide)), if_neg (hbeyond _ _ (by decide)),
    if_neg (hbeyond _ _ (by decide))]

theorem isDigit_iff (hb : base ≤ 16) : IsDigit base c v ↔ digitValue c = v ∧ v < base := by
  constructor
  · rintro ⟨hv, hc⟩
    have all : ∀ v, v < 16 → "0123456789abcdef".toList[v]?.map digitValue = some v ∧
        "0123456789ABCDEF".toList[v]?.map digitValue = some v := by decide
    obtain ⟨hsmall, hcapital⟩ := all v (by omega)
    refine ⟨?_, hv⟩
    rcases hc with hc | hc
    · rw [hc] at hsmall
      exact Option.some.inj hsmall
    · rw [hc] at hcapital
      exact Option.some.inj hcapital
  · rintro ⟨rfl, hv⟩
    -- Every character of ASCII that has a value stands in one of the tables at that place.
    have all : ∀ n, n < 128 → digitValue (Char.ofNat n) < 16 →
        "0123456789abcdef".toList[digitValue (Char.ofNat n)]? = some (Char.ofNat n) ∨
          "0123456789ABCDEF".toList[digitValue (Char.ofNat n)]? = some (Char.ofNat n) := by
      decide
    have hascii : c.toNat < 128 := by
      by_contra hc
      have hvalue := digitValue_of_not_ascii (Nat.le_of_not_lt hc)
      omega
    have hc := all c.toNat hascii
    rw [Char.ofNat_toNat] at hc
    exact ⟨hv, hc (by omega)⟩

theorem denotes_value (hb : base ≤ 16) (hne : cs ≠ [])
    (hdigits : ∀ c ∈ cs, digitValue c < base) : Denotes base cs (value base cs) := by
  -- A run of digits grows at its end, where the place value is one.
  induction cs using List.reverseRecOn with
  | nil => exact absurd rfl hne
  | append_singleton cs c ih =>
    have hc : IsDigit base c (digitValue c) := (isDigit_iff hb).2 ⟨rfl, hdigits c (by simp)⟩
    by_cases hnil : cs = []
    · subst hnil
      simpa [value] using Denotes.digit hc
    · rw [value_concat]
      exact .concat (ih hnil fun d hd => hdigits d (List.mem_append_left _ hd)) hc

theorem Denotes.digits (hb : base ≤ 16) (h : Denotes base cs n) :
    cs ≠ [] ∧ (∀ c ∈ cs, digitValue c < base) ∧ value base cs = n := by
  induction h with
  | digit hc =>
    obtain ⟨rfl, hlt⟩ := (isDigit_iff hb).1 hc
    simpa [value] using hlt
  | concat hcs hc ih =>
    obtain ⟨rfl, hlt⟩ := (isDigit_iff hb).1 hc
    obtain ⟨hne, hdigits, rfl⟩ := ih
    refine ⟨by simp, fun d hd => ?_, value_concat ..⟩
    rcases List.mem_append.1 hd with hd | hd
    · exact hdigits d hd
    · rwa [List.mem_singleton.1 hd]

theorem read?_eq_some_iff (hb : base ≤ 16) : read? base cs = some n ↔ Denotes base cs n := by
  simp only [read?, List.all_eq_true, decide_eq_true_eq, Option.ite_none_right_eq_some,
    Option.some.injEq]
  constructor
  · rintro ⟨⟨hne, hdigits⟩, rfl⟩
    exact denotes_value hb hne hdigits
  · intro h
    obtain ⟨hne, hdigits, hvalue⟩ := h.digits hb
    exact ⟨⟨hne, hdigits⟩, hvalue⟩

/-- No sign is a digit. -/
theorem Denotes.not_mem (hb : base ≤ 16) (h : Denotes base cs n) (hc : digitValue c = 36) :
    c ∉ cs := by
  intro hmem
  have hlt := (h.digits hb).2.1 c hmem
  omega

theorem DenotesWord.not_mem_dash {n : UInt64} (hb : base ≤ 16) (h : DenotesWord base cs n) :
    '-' ∉ cs := by
  cases h with
  | plain h => exact h.not_mem hb (by decide)
  | plus h =>
    rw [List.mem_cons, not_or]
    exact ⟨by decide, h.not_mem hb (by decide)⟩

theorem bind_toWord_eq_some_iff {read : Option Nat} {n : UInt64} :
    (read.bind fun m => if m < UInt64.size then some (UInt64.ofNat m) else none) = some n ↔
      read = some n.toNat := by
  cases read with
  | none => simp
  | some m =>
    rw [Option.bind_some, Option.ite_none_right_eq_some, Option.some.injEq, Option.some.injEq]
    constructor
    · rintro ⟨hm, rfl⟩
      exact (Nat.mod_eq_of_lt hm).symm
    · rintro rfl
      exact ⟨n.toNat_lt, UInt64.ofNat_toNat⟩

/-- A word is read from its numerals and from nothing else. -/
theorem readWord?_eq_some_iff {n : UInt64} (hb : base ≤ 16) :
    readWord? base cs = some n ↔ DenotesWord base cs n := by
  unfold readWord?
  simp only [bind_toWord_eq_some_iff, read?_eq_some_iff hb]
  constructor
  · intro h
    split at h
    · exact .plus h
    · exact .plain h
  · intro h
    cases h with
    | plus h => exact h
    | plain h =>
      split
      next rest => exact absurd List.mem_cons_self (h.not_mem hb (by decide : digitValue '+' = 36))
      · exact h

end Gazetteer.Numeral
