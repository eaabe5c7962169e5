import Gazetteer.Hint.Recovery
import Gazetteer.Proofs.Lookup.Ranking
import Gazetteer.Proofs.Lookup.Resolution
import Gazetteer.Proofs.Path.Relative
import Gazetteer.Proofs.Text.Ascii

/-!
# Suggestions that lead back

The search for similar names compares trimmed file names without extensions, and the search for
targets compares whole paths. Where paths are plain, what the first one compares is a function of
what the second one compares (`candidateKey_fileKey`). So of the paths that are the same to the
second search only the earliest is ever suggested, and it is the one that the suggestion, taken as a
query, refers to (`didYouMean_leads_back`).
-/

namespace Gazetteer

/-! ## What the two searches compare -/

namespace Path

/-- Whether case is all that a path leaves open: it has ASCII characters and no backslashes. -/
def IsPlain (path : String) : Prop := Text.IsAscii path.toList ∧ '\\' ∉ path.toList

instance (path : String) : Decidable (IsPlain path) := inferInstanceAs (Decidable (_ ∧ _))

end Path

namespace Hint.Formatter

open Lookup (candidateKey withoutExtension findTarget? requireQuery)

variable {path : String}

/-- The key under which a plain path is looked for can be read off its normal form. -/
theorem candidateKey_fileKey (h : Path.IsPlain path) : candidateKey .bestMatch (fileKey path) =
    withoutExtension (Text.trim (Path.fileName (Lookup.normalize path.toList))) := by
  obtain ⟨hascii, hbackslash⟩ := h
  have htrim : Text.trim path.toList ⊆ path.toList := Text.trim_subset _
  have hname : Path.fileName path.toList ⊆ path.toList := Text.afterLast_subset '/' _
  have htrimmed : Text.trim (Path.fileName path.toList) ⊆ path.toList :=
    List.Subset.trans (Text.trim_subset _) hname
  have hshort : withoutExtension (Text.trim (Path.fileName path.toList)) ⊆ path.toList :=
    List.Subset.trans (Lookup.withoutExtension_subset _) htrimmed
  have hfront : (Path.fileName (Text.trim path.toList)) ⊆ path.toList :=
    List.Subset.trans (Text.afterLast_subset '/' _) htrim
  have hnormal : Lookup.normalize path.toList =
      Path.dropLead ((Text.trim path.toList).map Char.toLower) := by
    rw [Lookup.normalize, Path.unify, Text.exchange_of_not_mem fun hmem => hbackslash (htrim hmem),
      Text.lower_of_isAscii (hascii.mono htrim)]
  have hlast : Path.fileName (Lookup.normalize path.toList) =
      (Path.fileName (Text.trim path.toList)).map Char.toLower := by
    rw [hnormal, Path.fileName_dropLead]
    exact Text.afterLast_map fun c hc => (Text.toLower_keeps (hascii c (htrim hc))).1
  calc candidateKey .bestMatch (fileKey path)
      = Text.lower (withoutExtension (Text.trim (Path.fileName path.toList))) := by
        rw [fileKey, candidateKey, String.toList_ofList]
        rfl
    _ = (withoutExtension (Text.trim (Path.fileName path.toList))).map Char.toLower :=
        Text.lower_of_isAscii (hascii.mono hshort)
    _ = withoutExtension ((Text.trim (Path.fileName path.toList)).map Char.toLower) :=
        (Lookup.withoutExtension_map
          (fun c hc => (Text.toLower_keeps (hascii c (htrimmed hc))).2.1)
          fun c hc => (Text.toLower_keeps (hascii c (htrimmed hc))).2.2.2).symm
    _ = withoutExtension
          ((Text.trim (Path.fileName (Text.trim path.toList))).map Char.toLower) := by
        unfold Path.fileName
        rw [Text.trim_afterLast_trim (by decide)]
    _ = withoutExtension (Text.trim (Path.fileName (Lookup.normalize path.toList))) := by
        rw [hlast, Text.trim_map fun c hc => (Text.toLower_keeps (hascii c (hfront hc))).2.2.1]

/-- What is asked for comes back as it is, or trimmed where it is accepted as a reference. -/
theorem normalize_trim (query : String) :
    Lookup.normalize (String.ofList (Text.trim query.toList)).toList =
      Lookup.normalize query.toList := by
  rw [String.toList_ofList, Lookup.normalize, Lookup.normalize, Path.unify, Path.unify,
    Text.trim_trim]

/-- The one file that a hint suggests is the file that its path refers to, both as it stands and as
the next request accepts it. -/
theorem didYouMean_leads_back (f : Formatter) (query : String) {files : List String}
    (hplain : ∀ path ∈ files, Path.IsPlain path)
    (h : (f.missingFile query files).didYouMean = some path) :
    findTarget? path files = some path ∧
      ∀ what, ∃ reference, requireQuery path what = .ok reference ∧
        findTarget? reference files = some path := by
  unfold missingFile at h
  simp only at h
  obtain ⟨earlier, later, rfl, hkey, hearlier⟩ := Lookup.exists_earlier_of_bestMatchBy? h
  have hpath : Path.IsPlain path :=
    hplain path (List.mem_append_right _ List.mem_cons_self)
  have hne : Lookup.normalize path.toList ≠ [] := by
    intro hnil
    rw [candidateKey_fileKey hpath, hnil] at hkey
    exact hkey rfl
  have hfirst : ∀ other ∈ earlier,
      Lookup.normalize other.toList ≠ Lookup.normalize path.toList := by
    intro other hother hsame
    refine hearlier other hother ?_
    rw [candidateKey_fileKey hpath,
      candidateKey_fileKey (hplain other (List.mem_append_left _ hother)), hsame]
  have hself : findTarget? path (earlier ++ path :: later) = some path :=
    Lookup.findTarget?_self hne hfirst
  refine ⟨hself, fun what => ⟨.ofList (Text.trim path.toList), if_neg fun hnil => ?_, ?_⟩⟩
  · rw [← normalize_trim, hnil] at hne
    exact hne rfl
  · rw [Lookup.findTarget?_congr (normalize_trim path), hself]

/-- Two files that the search for similar names cannot tell apart. -/
def Sample.buttons : List String := ["src/Button.tsx", "src/button.ts"]

theorem first_button_leads_back : (∀ path ∈ Sample.buttons, Path.IsPlain path) ∧
    ((ofDialect .terminal).missingFile "buton" Sample.buttons).didYouMean =
      some "src/Button.tsx" ∧
    findTarget? "src/Button.tsx" Sample.buttons = some "src/Button.tsx" := by
  have hplain : ∀ path ∈ Sample.buttons, Path.IsPlain path := by decide
  have hnear : Lookup.survivors (needle "buton") Sample.buttons .bestMatch fileKey =
      [⟨"src/Button.tsx", 1⟩, ⟨"src/button.ts", 1⟩] := by decide
  have hasked : Lookup.queryKey .bestMatch (needle "buton") ≠ [] := by decide
  have hmeant : ((ofDialect .terminal).missingFile "buton" Sample.buttons).didYouMean =
      some "src/Button.tsx" := by
    unfold missingFile Lookup.bestMatchBy? Lookup.similarBy
    simp only
    rw [if_neg hasked, hnear, List.mergeSort_of_pairwise (by decide)]
    rfl
  exact ⟨hplain, hmeant, (didYouMean_leads_back _ _ hplain hmeant).1⟩

/-- Two paths may be the same but for a backslash, and then the file name tells them apart while the
whole path does not. -/
example : ((ofDialect .terminal).missingFile "xxxcdf" ["a/xxx/de.ts", "a/xxx\\de.ts"]).didYouMean =
      some "a/xxx\\de.ts" ∧
    findTarget? "a/xxx\\de.ts" ["a/xxx/de.ts", "a/xxx\\de.ts"] = some "a/xxx/de.ts" := by
  decide +kernel

end Hint.Formatter
end Gazetteer
