import Gazetteer.Proofs.Area.Inferred
import Gazetteer.Proofs.Text.Refolding

/-!
# Names that are folded twice

Ids are made of folded names and folded once more when they are looked up among the built-in areas
and when references are compared with them. All that the second time does is to trim. A name is
known in its folded form as it is known itself exactly if dropping its marks leaves no white space
at its ends (`refolding_only_trims`).
-/

namespace Gazetteer.Area

variable {name : List Char} {path id : String}

/-- Whether a name is known in its folded form as it is known itself: folding leaves that form as it
is, the built-in areas are found by it, and it contains the folded texts that the name contains. -/
structure IsKnownFolded (name : List Char) : Prop where
  folded : Text.fold (Text.fold name) = Text.fold name
  found : Builtin.ofName? (.ofList (Text.fold name)) = Builtin.ofName? (.ofList name)
  compared : ∀ text, Text.occursIn (Text.fold text) (Text.fold (Text.fold name)) =
    Text.occursIn (Text.fold text) (Text.fold name)

theorem isKnownFolded_iff : IsKnownFolded name ↔ Text.fold (Text.fold name) = Text.fold name := by
  refine ⟨IsKnownFolded.folded, fun h => ⟨h, ?_, fun text => ?_⟩⟩
  · rw [Builtin.ofName?, Builtin.ofName?, String.toList_ofList, String.toList_ofList, h]
  · rw [h]

/-- Built-in areas go by names without white space around them. -/
theorem trim_of_ofFolded? {b : Builtin} (h : Builtin.ofFolded? name = some b) :
    Text.trim name = name := by
  have hnames : ∀ e ∈ Builtin.foldedNames, Text.trim e.1 = e.1 := by decide
  rw [Builtin.ofFolded?] at h
  split at h
  · cases h
  · obtain ⟨before, after, hmem, -⟩ := List.lookup_eq_some_iff.1 h
    refine hnames (name, b) ?_
    rw [hmem]
    exact List.mem_append_right _ List.mem_cons_self

/-- What is found by a name is found by its folded form. -/
theorem ofName?_fold {b : Builtin} (h : Builtin.ofName? (.ofList name) = some b) :
    Builtin.ofName? (.ofList (Text.fold name)) = some b := by
  have hfolded : Text.fold (Text.fold name) = Text.fold name := by
    rw [Text.fold_fold]
    rw [Builtin.ofName?, String.toList_ofList] at h
    exact trim_of_ofFolded? h
  rw [(isKnownFolded_iff.2 hfolded).found, h]

theorem fold_of_mem_infer (h : id ∈ infer path) : Text.fold id.toList = Text.trim id.toList := by
  rcases mem_infer_cases h with ⟨b, hb, rfl⟩ | ⟨name, -, -, -, rfl⟩
  · have hfold : Text.fold b.id.toList = b.id.toList := (isProper_builtin hb).folded
    have hagain := Text.fold_fold b.id.toList
    rwa [hfold] at hagain
  · rw [String.toList_ofList, Text.fold_fold]

/-- To fold a folded name is to trim it. A name is known in its folded form as it is known itself
exactly if, once it is trimmed, dropping its marks leaves no white space at its ends; what is found
by the name is found by the folded form in any case. Folding only trims the ids of a path, too. -/
theorem refolding_only_trims (name : List Char) (path : String) :
    Text.fold (Text.fold name) = Text.trim (Text.fold name) ∧
      (IsKnownFolded name ↔
        Text.trim (Text.unmarked (Text.trim name)) = Text.unmarked (Text.trim name)) ∧
      (∀ b, Builtin.ofName? (.ofList name) = some b →
        Builtin.ofName? (.ofList (Text.fold name)) = some b) ∧
      ∀ id ∈ infer path, Text.fold id.toList = Text.trim id.toList := by
  refine ⟨Text.fold_fold name, ?_, fun b => ofName?_fold, fun id => fold_of_mem_infer⟩
  rw [isKnownFolded_iff, Text.fold_fold_eq_iff]

/-- A mark behind white space. The name is the name of nothing, but its folded form is one of a
built-in area, and a directory of that name stands for it. -/
theorem exists_name_unknown_but_folded : ∃ name : List Char,
    Text.fold (Text.fold name) ≠ Text.fold name ∧ Builtin.ofName? (.ofList name) = none ∧
      (Builtin.ofName? (.ofList (Text.fold name))).map Builtin.id = some "auth" ∧
      Text.occursIn (Text.fold name) (Text.fold (Text.fold name)) = false ∧
      infer "features/auth \u0301/a.ts" = .ofList ["auth"] := by
  refine ⟨"auth \u0301".toList, ?_⟩
  decide +kernel

end Gazetteer.Area
