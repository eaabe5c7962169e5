import Gazetteer.Proofs.Path.Relative
import Gazetteer.Proofs.Text.Lowering

/-!
# Compared forms of paths

The form in which paths are compared forgets how a path was written: which slashes it has, the case
of its ASCII letters, `./` in front and white space around it. A path below a directory ends in the
form of the path itself (`endsIn_normalize`), and so the two have one file name.
-/

namespace Gazetteer

namespace Text

variable {c : Char}

theorem trimStart_append_cons (hc : isBlank c = false) (front rest : List Char) :
    trimStart (front ++ c :: rest) = trimStart front ++ c :: rest := by
  unfold trimStart
  rw [List.dropWhile_append]
  split
  next hfront =>
    rw [List.isEmpty_iff.1 hfront, List.dropWhile_cons_of_neg (by simp [hc]), List.nil_append]
  · rfl

theorem trimEnd_append_cons (hc : isBlank c = false) (front rest : List Char) :
    trimEnd (front ++ c :: rest) = front ++ c :: trimEnd rest := by
  have hreverse : (front ++ c :: rest).reverse = rest.reverse ++ c :: front.reverse := by simp
  have hstart := trimStart_append_cons hc rest.reverse front.reverse
  unfold trimStart at hstart
  rw [trimEnd, hreverse, hstart, trimEnd]
  simp

/-- The two ends of a text are trimmed on their own if something stands between them. -/
theorem trim_append_cons (hc : isBlank c = false) (front rest : List Char) :
    trim (front ++ c :: rest) = trimStart front ++ c :: trimEnd rest := by
  rw [trim, trimStart_append_cons hc, trimEnd_append_cons hc]

end Text

namespace Path

/-- Whether a path ends in another one, as a whole or behind one of its slashes. -/
def EndsIn (path ending : List Char) : Prop := '/' :: ending <:+ '/' :: path

variable {path ending : List Char}

theorem EndsIn.refl (path : List Char) : EndsIn path path := List.suffix_rfl

theorem EndsIn.trans {middle : List Char} (h : EndsIn path middle) (h' : EndsIn middle ending) :
    EndsIn path ending := List.IsSuffix.trans h' h

theorem EndsIn.eq_or_suffix (h : EndsIn path ending) : ending = path ∨ '/' :: ending <:+ path :=
  (List.suffix_cons_iff.1 h).imp_left fun heq => (List.cons.inj heq).2

theorem endsIn_append (front path : List Char) : EndsIn (front ++ '/' :: path) path :=
  (List.suffix_append front ('/' :: path)).trans (List.suffix_cons _ _)

theorem EndsIn.fileName_eq (h : EndsIn path ending) :
    fileName ('/' :: path) = fileName ('/' :: ending) := by
  obtain ⟨front, hfront⟩ := h
  rw [← hfront, fileName, Text.afterLast_append_cons]
  exact (Text.afterLast_append_cons '/' [] ending).symm

/-! ## What is taken off the front

It ends with a slash, so a path still ends in what is left of it. -/

theorem endsIn_dropHere (path : List Char) : EndsIn path (dropHere path) := by
  fun_induction dropHere path with
  | case1 rest ih => exact (endsIn_append ['.'] rest).trans ih
  | case2 => exact .refl _

theorem endsIn_dropSlashes (path : List Char) : EndsIn path (path.dropWhile (· = '/')) := by
  induction path with
  | nil => exact .refl _
  | cons c rest ih =>
    rw [List.dropWhile_cons]
    split
    next hc =>
      obtain rfl : c = '/' := by simpa using hc
      exact (endsIn_append [] rest).trans ih
    · exact .refl _

theorem endsIn_dropLead (path : List Char) : EndsIn path (dropLead path) :=
  (endsIn_dropHere path).trans (endsIn_dropSlashes _)

theorem EndsIn.dropSlashes (h : EndsIn path ending) :
    EndsIn (path.dropWhile (· = '/')) (Path.dropLead ending) := by
  induction path with
  | nil =>
    obtain rfl | hsuffix := h.eq_or_suffix
    · exact .refl _
    · exact absurd (List.suffix_nil.1 hsuffix) (List.cons_ne_nil _ _)
  | cons c rest ih =>
    by_cases hc : c = '/'
    · subst hc
      rw [List.dropWhile_cons_of_pos (by simp)]
      obtain rfl | hsuffix := h.eq_or_suffix
      · exact .refl _
      · exact ih hsuffix
    · rw [List.dropWhile_cons_of_neg (by simpa using hc)]
      exact h.trans (endsIn_dropLead ending)

theorem EndsIn.dropLead (h : EndsIn path ending) :
    EndsIn (Path.dropLead path) (Path.dropLead ending) := by
  unfold Path.dropLead
  fun_induction dropHere path with
  | case1 rest ih =>
    obtain rfl | hsuffix := h.eq_or_suffix
    · exact .refl _
    · refine ih ((List.suffix_cons_iff.1 hsuffix).resolve_left fun heq => ?_)
      cases heq
  | case2 => exact h.dropSlashes

end Path

namespace Lookup

open Gazetteer.Path (EndsIn)
open Text (isBlank)

/-! ## Directories in front -/

/-- Behind a slash a path is normalised as it is on its own, but for what is taken off its front. -/
theorem normalize_append_slash (front : List Char) {path : List Char}
    (h : ∀ c, path.head? = some c → isBlank c = false) : normalize (front ++ '/' :: path) =
      Path.dropLead (Text.lower (Text.exchange '\\' '/' (Text.trimStart front)) ++
        '/' :: Text.lower (Path.unify path)) := by
  have htrim : Text.trim path = Text.trimEnd path := by rw [Text.trim, Text.trimStart_of_head? h]
  have hunify : Path.unify (front ++ '/' :: path) =
      Text.exchange '\\' '/' (Text.trimStart front) ++ '/' :: Path.unify path := by
    rw [Path.unify, Path.unify, htrim, Text.trim_append_cons (by decide)]
    exact List.map_append
  rw [normalize, hunify, Text.lower_append_slash]

/-- The form of a path below a directory ends in the form of the path. -/
theorem endsIn_normalize (front : List Char) {path : List Char}
    (h : ∀ c, path.head? = some c → isBlank c = false) :
    EndsIn (normalize (front ++ '/' :: path)) (normalize path) := by
  rw [normalize_append_slash front h]
  exact (Path.endsIn_append _ _).dropLead

/-! ## Other spellings -/

/-- A path may have `./` in front. -/
theorem normalize_here {path : List Char} (h : ∀ c, path.head? = some c → isBlank c = false) :
    normalize ('.' :: '/' :: path) = normalize path := by
  have hdot : Text.lower (Text.exchange '\\' '/' (Text.trimStart ['.'])) = ['.'] := by
    decide
  have hslash := normalize_append_slash ['.'] h
  rw [hdot] at hslash
  exact hslash

/-- A path may have white space around it. -/
theorem normalize_pad {start ending : List Char} (path : List Char)
    (hstart : ∀ c ∈ start, isBlank c = true) (hending : ∀ c ∈ ending, isBlank c = true) :
    normalize (start ++ path ++ ending) = normalize path := by
  have htrim : Text.trim (start ++ path ++ ending) = Text.trim path := by
    rw [Text.trim_append _ hending, Text.trim, Text.trimStart_append hstart, Text.trim]
  rw [normalize, normalize, Path.unify, Path.unify, htrim]

/-- What is left of a character when case and the kind of slash are forgotten. -/
def blur (c : Char) : Char := if c = '\\' then '/' else c.toLower

theorem isBlank_blur (c : Char) : isBlank (blur c) = isBlank c := by
  unfold blur
  split
  next hc => rw [hc]; decide
  · by_cases hc : c.toNat < 128
    · exact (Text.toLower_keeps hc).2.2.1
    · rw [Text.toLower_of_not_isAscii (Nat.le_of_not_lt hc)]

theorem toLower_eq_backslash {c : Char} (h : c.toLower = '\\') : c = '\\' := by
  by_cases hc : c.toNat < 128
  · have hascii : c.toLower = '\\' → c = '\\' := Text.forall_isAscii hc (by decide)
    exact hascii h
  · rwa [Text.toLower_of_not_isAscii (Nat.le_of_not_lt hc)] at h

theorem unify_map_blur (path : List Char) :
    Path.unify (path.map blur) = (Path.unify path).map Char.toLower := by
  have hexchange : (fun c => if c = '\\' then '/' else c) ∘ blur =
      Char.toLower ∘ fun c => if c = '\\' then '/' else c := by
    funext c
    simp only [Function.comp_apply, blur]
    split
    · decide
    next hc => exact if_neg (mt toLower_eq_backslash hc)
  rw [Path.unify, Path.unify, Text.trim_map fun c _ => isBlank_blur c, Text.exchange, Text.exchange,
    List.map_map, List.map_map, hexchange]

/-- A path may be written with other slashes and in another case. -/
theorem normalize_map_blur (path : List Char) : normalize (path.map blur) = normalize path := by
  rw [normalize, normalize, unify_map_blur, Text.lower_map_toLower]

end Lookup
end Gazetteer
