import Gazetteer.Lookup.Name
import Gazetteer.Proofs.Text.Cutting

/-!
# ASCII texts

On ASCII texts lower-casing works letter by letter and neither makes nor removes a separator or
white space. So it commutes with trimming, with taking the file name of a path and with taking its
extension off, which fails once one letter may turn into two.
-/

namespace Gazetteer

namespace Text

/-- Whether lower-casing works character by character. -/
def IsAscii (cs : List Char) : Prop := ∀ c ∈ cs, c.toNat < 128

instance (cs : List Char) : Decidable (IsAscii cs) :=
  List.decidableBAll (fun c : Char => c.toNat < 128) cs

variable {cs : List Char}

theorem IsAscii.mono {part : List Char} (h : IsAscii cs) (hsub : part ⊆ cs) : IsAscii part :=
  fun c hc => h c (hsub hc)

/-- ASCII characters in front are lower-cased one by one. -/
theorem lowerAfter_append_of_isAscii {front : List Char} (h : IsAscii front)
    (before rest : List Char) : lowerAfter before (front ++ rest) =
      front.map Char.toLower ++ lowerAfter (front.reverse ++ before) rest := by
  induction front generalizing before with
  | nil => rfl
  | cons c front ih =>
    have hrest : IsAscii front := fun d hd => h d (List.mem_cons_of_mem _ hd)
    rw [List.cons_append, lowerAfter, lowerAt_of_isAscii (h c List.mem_cons_self), ih hrest,
      List.reverse_cons, List.append_assoc]
    rfl

theorem lower_of_isAscii (h : IsAscii cs) : lower cs = cs.map Char.toLower := by
  have hwhole := lowerAfter_append_of_isAscii h [] []
  rwa [List.append_nil, lowerAfter, List.append_nil] at hwhole

/-- What is so of every ASCII character can be checked one by one. -/
@[elab_as_elim]
theorem forall_isAscii {P : Char → Prop} {c : Char} (hc : c.toNat < 128)
    (h : ∀ n, n < 128 → P (Char.ofNat n)) : P c := by
  have hchar := h c.toNat hc
  rwa [Char.ofNat_toNat] at hchar

/-- No question that is asked of the characters of a path depends on their case. -/
theorem toLower_keeps {c : Char} (h : c.toNat < 128) : (c.toLower = '/' ↔ c = '/') ∧
    (c.toLower = '.' ↔ c = '.') ∧ isBlank c.toLower = isBlank c ∧
      c.toLower.isAlphanum = c.isAlphanum :=
  forall_isAscii h (by decide)

end Text

namespace Path

/-- What is taken off the front of a path ends with a slash. -/
theorem fileName_dropLead (cs : List Char) : fileName (dropLead cs) = fileName cs := by
  have hslashes : ∀ rest : List Char, fileName (rest.dropWhile (· = '/')) = fileName rest := by
    intro rest
    induction rest with
    | nil => rfl
    | cons c rest ih =>
      rw [List.dropWhile_cons]
      split
      next hc =>
        obtain rfl : c = '/' := by simpa using hc
        exact ih.trans (Text.afterLast_append_cons '/' [] rest).symm
      · rfl
  have hhere : fileName (dropHere cs) = fileName cs := by
    fun_induction dropHere cs with
    | case1 rest ih => exact ih.trans (Text.afterLast_append_cons '/' ['.'] rest).symm
    | case2 => rfl
  exact (hslashes _).trans hhere

end Path

namespace Lookup

theorem withoutExtension_prefix (name : List Char) : withoutExtension name <+: name := by
  unfold withoutExtension
  rcases Text.not_mem_or_exists_cut '.' name with hname | ⟨stem, ext, rfl, hext⟩
  · refine ⟨[], ?_⟩
    rw [Text.cutLast?_of_not_mem hname]
    exact List.append_nil name
  · rw [Text.cutLast?_append_cons hext]
    show (if !stem.isEmpty && looksLikeExtension ext then stem else stem ++ '.' :: ext) <+: _
    split
    · exact List.prefix_append _ _
    · exact List.prefix_rfl

theorem withoutExtension_subset (name : List Char) : withoutExtension name ⊆ name :=
  List.IsPrefix.subset <| withoutExtension_prefix name

theorem withoutExtension_map {g : Char → Char} {name : List Char}
    (hdot : ∀ c ∈ name, g c = '.' ↔ c = '.')
    (halpha : ∀ c ∈ name, (g c).isAlphanum = c.isAlphanum) :
    withoutExtension (name.map g) = (withoutExtension name).map g := by
  unfold withoutExtension
  rw [Text.cutLast?_map hdot]
  rcases Text.not_mem_or_exists_cut '.' name with hname | ⟨stem, ext, rfl, hext⟩
  · rw [Text.cutLast?_of_not_mem hname]
    rfl
  · have hall : (ext.map g).all Char.isAlphanum = ext.all Char.isAlphanum := by
      rw [Bool.eq_iff_iff, List.all_map, List.all_eq_true, List.all_eq_true]
      refine forall₂_congr fun c hc => ?_
      rw [Function.comp_apply, halpha c (List.mem_append_right _ (List.mem_cons_of_mem _ hc))]
    have hlooks : looksLikeExtension (ext.map g) = looksLikeExtension ext := by
      unfold looksLikeExtension
      rw [hall, List.length_map, List.isEmpty_map]
    rw [Text.cutLast?_append_cons hext]
    show (if !(stem.map g).isEmpty && looksLikeExtension (ext.map g) then stem.map g
      else (stem ++ '.' :: ext).map g) =
        (if !stem.isEmpty && looksLikeExtension ext then stem else stem ++ '.' :: ext).map g
    rw [hlooks, List.isEmpty_map]
    split <;> rfl

end Lookup
end Gazetteer
