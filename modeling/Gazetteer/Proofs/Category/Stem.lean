import Gazetteer.Proofs.Category.Deciding

/-!
# Stems as they are written

Rules see the stem of a file name in lower case. An ASCII stem is lower-cased letter by letter,
whatever directories stand in front of it and whatever extension behind it (`stem_ofPath`), so what
a rule makes of it can be read off the stem as it is written.
-/

namespace Gazetteer

namespace Text

/-- ASCII characters in front of a dot are lower-cased one by one, whatever follows it. -/
theorem lower_append_dot {stem : List Char} (h : IsAscii stem) (ext : List Char) :
    lower (stem ++ '.' :: ext) =
      stem.map Char.toLower ++ '.' :: lowerAfter ('.' :: stem.reverse) ext := by
  have hdot : lowerAt stem.reverse '.' ext = ['.'] := lowerAt_of_isAscii (by decide)
  rw [lower, lowerAfter_append_of_isAscii h, List.append_nil, lowerAfter, hdot]
  rfl

end Text

namespace Path

/-- Lower-casing neither makes nor removes a slash. -/
theorem fileName_lower (path : List Char) :
    fileName (Text.lower path) = Text.lower (fileName path) := by
  have hslash : ∀ part : List Char, '/' ∉ part → '/' ∉ Text.lower part :=
    fun part hpart hmem => hpart (Text.mem_of_mem_lowerAfter (.inl rfl) hmem)
  rcases Text.not_mem_or_exists_cut '/' path with hpath | ⟨front, name, rfl, hname⟩
  · rw [fileName, fileName, Text.afterLast_of_not_mem hpath,
      Text.afterLast_of_not_mem (hslash path hpath)]
  · rw [Text.lower_append_slash, fileName, fileName, Text.afterLast_of_cut hname,
      Text.afterLast_of_cut (hslash name hname)]

theorem stemAndExtension_of_not_mem {name : List Char} (h : '.' ∉ name) :
    stemAndExtension name = (name, []) := by
  rw [stemAndExtension, Text.cutLast?_of_not_mem h]

theorem stemAndExtension_of_cut {stem ext : List Char} (h : '.' ∉ ext) :
    stemAndExtension (stem ++ '.' :: ext) =
      if stem = [] then (stem ++ '.' :: ext, []) else (stem, ext) := by
  rw [stemAndExtension, Text.cutLast?_append_cons h]

/-- An ASCII stem is lower-cased letter by letter, whatever extension stands behind it. -/
theorem stem_lower {name : List Char} (h : Text.IsAscii (stemAndExtension name).1) :
    (stemAndExtension (Text.lower name)).1 = (stemAndExtension name).1.map Char.toLower := by
  have hdot : ∀ before part : List Char, '.' ∉ part → '.' ∉ Text.lowerAfter before part :=
    fun before part hpart hmem => hpart (Text.mem_of_mem_lowerAfter (.inr rfl) hmem)
  rcases Text.not_mem_or_exists_cut '.' name with hname | ⟨stem, ext, rfl, hext⟩
  · have hlower : '.' ∉ Text.lower name := hdot [] name hname
    rw [stemAndExtension_of_not_mem hname] at h ⊢
    rw [stemAndExtension_of_not_mem hlower, Text.lower_of_isAscii h]
  · rw [stemAndExtension_of_cut hext] at h ⊢
    by_cases hstem : stem = []
    · subst hstem
      rw [if_pos rfl] at h ⊢
      have hnone : Text.IsAscii [] := fun c hc => absurd hc List.not_mem_nil
      rw [← Text.lower_of_isAscii h, Text.lower_append_dot hnone,
        stemAndExtension_of_cut (hdot _ ext hext), List.map_nil, if_pos rfl]
    · rw [if_neg hstem] at h ⊢
      rw [Text.lower_append_dot h, stemAndExtension_of_cut (hdot _ ext hext),
        if_neg (mt List.map_eq_nil_iff.1 hstem)]

end Path

namespace Category

variable {path : String}

/-- The stem of the file name on a path, in the case in which it was written. -/
def writtenStem (path : String) : List Char :=
  (Path.stemAndExtension (Path.fileName (Path.unify path.toList))).1

/-- Rules see an ASCII stem in lower case, letter by letter. -/
theorem stem_ofPath (h : Text.IsAscii (writtenStem path)) :
    (Facts.ofPath path).stem = (writtenStem path).map Char.toLower := by
  have hname : (Facts.ofPath path).name = Text.lower (Path.fileName (Path.unify path.toList)) :=
    calc (Facts.ofPath path).name
      _ = Path.fileName ('/' :: Lookup.normalize path.toList) := Facts.ofPath_name path
      _ = Path.fileName (Lookup.normalize path.toList) := Text.afterLast_append_cons '/' [] _
      _ = Path.fileName (Text.lower (Path.unify path.toList)) := Path.fileName_dropLead _
      _ = Text.lower (Path.fileName (Path.unify path.toList)) := Path.fileName_lower _
  rw [Facts.ofPath_stem, hname, Path.stem_lower h, writtenStem]

end Category
end Gazetteer
