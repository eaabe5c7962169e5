import Gazetteer.Proofs.Cache.Stored

/-!
# Texts of fingerprints

A fingerprint is written as three numerals with dashes between them. What is written is read back,
and what is read is nothing but such a text, which may have white space around it and numerals that
are never written: with plus signs, leading zeros and capital digits (`ofText_reads_spellings`).
-/

namespace Gazetteer.Cache.Fingerprint

open Numeral (DenotesWord)

/-- The spellings of a fingerprint: numerals of its three words, the middle one hexadecimal, with
dashes between them. -/
inductive Spells : List Char → Fingerprint → Prop where
  | mk {count xor latest : List Char} {f : Fingerprint} (hcount : DenotesWord 10 count f.fileCount)
    (hxor : DenotesWord 16 xor f.mtimeXor) (hlatest : DenotesWord 10 latest f.maxMtime) :
    Spells (count ++ '-' :: (xor ++ '-' :: latest)) f

variable {s : String} {f : Fingerprint}

theorem splitOn_eq_three_iff {cs count xor latest : List Char} :
    Text.splitOn '-' cs = [count, xor, latest] ↔
      cs = count ++ '-' :: (xor ++ '-' :: latest) ∧ '-' ∉ count ∧ '-' ∉ xor ∧ '-' ∉ latest := by
  simp only [Text.splitOn_eq_cons_cons_iff, Text.splitOn_eq_singleton_iff]
  constructor
  · rintro ⟨_, rfl, hcount, _, rfl, hxor, rfl, hlatest⟩
    exact ⟨rfl, hcount, hxor, hlatest⟩
  · rintro ⟨rfl, hcount, hxor, hlatest⟩
    exact ⟨_, rfl, hcount, _, rfl, hxor, rfl, hlatest⟩

theorem ofText_of_spells (h : Spells (Text.trim s.toList) f) : ofText s = .ok f := by
  generalize htrim : Text.trim s.toList = cs at h
  cases h with
  | mk hcount hxor hlatest =>
    have hsplit := splitOn_eq_three_iff.2 ⟨htrim, hcount.not_mem_dash (by decide),
      hxor.not_mem_dash (by decide), hlatest.not_mem_dash (by decide)⟩
    simp only [ofText, hsplit, (Numeral.readWord?_eq_some_iff (by decide)).2 hcount,
      (Numeral.readWord?_eq_some_iff (by decide)).2 hxor,
      (Numeral.readWord?_eq_some_iff (by decide)).2 hlatest]

theorem ofText_cases (s : String) :
    (∃ f, ofText s = .ok f ∧ Spells (Text.trim s.toList) f) ∨ ofText s = .error ⟨s⟩ := by
  unfold ofText
  split
  next count xor latest hsplit =>
    obtain ⟨htrim, -, -, -⟩ := splitOn_eq_three_iff.1 hsplit
    split
    next count' xor' latest' hcount hxor hlatest =>
      rw [htrim]
      exact .inl ⟨_, rfl, .mk ((Numeral.readWord?_eq_some_iff (by decide)).1 hcount)
        ((Numeral.readWord?_eq_some_iff (by decide)).1 hxor)
        ((Numeral.readWord?_eq_some_iff (by decide)).1 hlatest)⟩
    · exact .inr rfl
  · exact .inr rfl

theorem ofText_eq_ok_iff : ofText s = .ok f ↔ Spells (Text.trim s.toList) f := by
  refine ⟨fun h => ?_, ofText_of_spells⟩
  rcases ofText_cases s with ⟨f', hok, hspells⟩ | herror
  · obtain rfl : f' = f := by simpa [hok] using h
    exact hspells
  · rw [herror] at h
    cases h

theorem ofText_eq_error_iff {e : InvalidFingerprint} :
    ofText s = .error e ↔ e = ⟨s⟩ ∧ ¬ ∃ f, Spells (Text.trim s.toList) f := by
  simp only [← ofText_eq_ok_iff]
  rcases ofText_cases s with ⟨f, hok, -⟩ | herror
  · simp [hok]
  · simp [herror, eq_comm]

/-- A fingerprint is read back from its own text. Any text is read as a fingerprint exactly if it is
a spelling of that fingerprint with white space around it, and else refused by its own words. -/
theorem ofText_reads_spellings :
    (∀ f : Fingerprint, ofText f.text = .ok f) ∧
    ∀ s : String, (∀ f, ofText s = .ok f ↔ Spells (Text.trim s.toList) f) ∧
      ∀ e, ofText s = .error e ↔ e = ⟨s⟩ ∧ ¬ ∃ f, Spells (Text.trim s.toList) f :=
  ⟨ofText_text, fun _ => ⟨fun _ => ofText_eq_ok_iff, fun _ => ofText_eq_error_iff⟩⟩

/-- The greatest word is read and the next number is not, nor is a numeral with two signs. -/
example : (ofText "0018446744073709551615-+fF-0").toOption = some ⟨18446744073709551615, 255, 0⟩ ∧
    ofText "18446744073709551616-0-0" = .error ⟨"18446744073709551616-0-0"⟩ ∧
    ofText "1-++f-0" = .error ⟨"1-++f-0"⟩ := by
  decide

end Gazetteer.Cache.Fingerprint
