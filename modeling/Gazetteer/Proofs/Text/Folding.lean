import Mathlib.Data.List.Basic
import Gazetteer.Proofs.Text.Ascii
import Gazetteer.Text.Fold

/-!
# Folding

White space around a text makes no difference to its folded form. An ASCII text has nothing to
decompose and no marks, so folding does to it what trimming and lower-casing do.
-/

namespace Gazetteer.Text

variable {cs : List Char}

theorem fold_trim (cs : List Char) : fold (trim cs) = fold cs := by
  rw [fold, trim_trim, fold]

theorem decompose_of_isAscii (h : IsAscii cs) : cs.flatMap decompose = cs := by
  have hone : ∀ c ∈ cs, decompose c = [c] := by
    intro c hc
    have hcode : c.toNat < 0xC0 := Nat.lt_trans (h c hc) (by decide)
    rw [decompose, if_pos hcode]
  rw [List.flatMap_congr hone, List.flatMap_singleton']

theorem filter_isMark_of_isAscii (h : IsAscii cs) : cs.filter (fun c => !isMark c) = cs := by
  refine List.filter_eq_self.2 fun c hc => ?_
  exact forall_isAscii (h c hc) (by decide)

theorem fold_of_isAscii (h : IsAscii cs) : fold cs = (trim cs).map Char.toLower := by
  have htrim : IsAscii (trim cs) := h.mono (trim_subset cs)
  rw [fold, decompose_of_isAscii htrim, filter_isMark_of_isAscii htrim, lower_of_isAscii htrim]

end Gazetteer.Text
