import Gazetteer.Cache.Graph
import Mathlib.Data.List.Induction

/-!
# Imports and importers

A graph stores the files that each file imports and finds the files that import one by looking
through all of them. The two are converse on every graph, one that was read from a file included
(`mem_dependentsOf_iff`). Each edge that is added says one thing more and takes nothing back, so a
graph that was made edge by edge is no more than the set of the edges that were added, in whatever
order and however often (`edges_are_those_added`).
-/

namespace Gazetteer.Cache.Graph

variable {g h : Graph} {file source target : String} {edges : List (String × String)}

/-- The graph with these edges, added one after the other. -/
def ofEdges (edges : List (String × String)) : Graph :=
  edges.foldl (fun g e => g.addEdge e.1 e.2) empty

theorem ofEdges_concat (edges : List (String × String)) (e : String × String) :
    ofEdges (edges ++ [e]) = (ofEdges edges).addEdge e.1 e.2 := by
  simp [ofEdges, List.foldl_append]

/-! ## One direction and the other -/

theorem mem_dependenciesOf_iff : target ∈ g.dependenciesOf file ↔
    ∃ targets, g.edges.find? file = some targets ∧ target ∈ targets := by
  unfold dependenciesOf
  cases g.edges.find? file with
  | none => simp
  | some targets =>
    constructor
    · exact fun hmem => ⟨targets, rfl, hmem⟩
    · rintro ⟨others, hrow, hmem⟩
      cases hrow
      exact hmem

/-- A file is imported by those that import it. -/
theorem mem_dependentsOf_iff : source ∈ g.dependentsOf target ↔
    target ∈ g.dependenciesOf source := by
  rw [mem_dependenciesOf_iff]
  simp [dependentsOf, OrdMap.find?_eq_some_iff]

theorem increasing_dependenciesOf (g : Graph) (file : String) :
    (g.dependenciesOf file).Pairwise fun a b => compare a b = .lt := by
  unfold dependenciesOf
  cases g.edges.find? file with
  | none => exact List.Pairwise.nil
  | some targets => exact targets.increasing

theorem increasing_dependentsOf (g : Graph) (file : String) :
    (g.dependentsOf file).Pairwise fun a b => compare a b = .lt :=
  List.pairwise_map.2 (g.edges.increasing.filter _)

/-! ## Adding an edge -/

theorem find?_addEdge (g : Graph) (source target file : String) :
    (g.addEdge source target).edges.find? file =
      if file = source then some (((g.edges.find? source).getD .empty).insert target)
      else g.edges.find? file :=
  OrdMap.find?_insert g.edges source file _

/-- An edge that is added is there, and no other edge comes or goes. -/
theorem mem_dependenciesOf_addEdge {imported : String} :
    imported ∈ (g.addEdge source target).dependenciesOf file ↔
      (file, imported) = (source, target) ∨ imported ∈ g.dependenciesOf file := by
  simp only [mem_dependenciesOf_iff, find?_addEdge, Prod.mk.injEq]
  by_cases hfile : file = source
  · subst hfile
    cases hrow : g.edges.find? file <;> simp
  · simp [hfile]

/-! ## Graphs as relations -/

/-- Whether every file that has a row imports something. -/
def IsTight (g : Graph) : Prop := ∀ file targets, g.edges.find? file = some targets →
  ∃ target, target ∈ targets

theorem isTight_empty : empty.IsTight := nofun

theorem IsTight.addEdge (hg : g.IsTight) : (g.addEdge source target).IsTight := by
  intro file targets hrow
  rw [find?_addEdge] at hrow
  split at hrow
  · cases hrow
    exact ⟨target, OrdSet.mem_insert.2 (.inl rfl)⟩
  · exact hg file targets hrow

/-- Without empty rows a graph has a row for a file exactly if the file imports something. -/
theorem IsTight.find?_eq_none_iff (hg : g.IsTight) :
    g.edges.find? file = none ↔ ∀ target, target ∉ g.dependenciesOf file := by
  constructor
  · intro hnone target
    rw [mem_dependenciesOf_iff, hnone]
    exact nofun
  · intro hall
    by_contra hne
    obtain ⟨targets, hrow⟩ := Option.ne_none_iff_exists'.1 hne
    obtain ⟨target, hmem⟩ := hg file targets hrow
    exact hall target (mem_dependenciesOf_iff.2 ⟨targets, hrow, hmem⟩)

/-- Without empty rows graphs with the same edges are the same. -/
theorem IsTight.ext (hg : g.IsTight) (hh : h.IsTight)
    (hedges : ∀ file target, target ∈ g.dependenciesOf file ↔ target ∈ h.dependenciesOf file) :
    g = h := by
  have hrows : ∀ file, g.edges.find? file = h.edges.find? file := by
    intro file
    cases hrow : g.edges.find? file with
    | none =>
      rw [eq_comm, hh.find?_eq_none_iff]
      intro target
      rw [← hedges]
      exact hg.find?_eq_none_iff.1 hrow target
    | some targets =>
      cases hother : h.edges.find? file with
      | none =>
        have hnone : g.edges.find? file = none := by
          rw [hg.find?_eq_none_iff]
          intro target
          rw [hedges]
          exact hh.find?_eq_none_iff.1 hother target
        rw [hrow] at hnone
        cases hnone
      | some others =>
        refine congrArg some (OrdSet.ext_mem fun target => ?_)
        have hedge := hedges file target
        simpa [mem_dependenciesOf_iff, hrow, hother] using hedge
  cases g
  cases h
  exact congrArg Graph.mk (OrdMap.ext_find? hrows)

theorem isTight_ofEdges (edges : List (String × String)) : (ofEdges edges).IsTight := by
  induction edges using List.reverseRecOn with
  | nil => exact isTight_empty
  | append_singleton edges e ih =>
    rw [ofEdges_concat]
    exact ih.addEdge

/-- What is imported is what was added. -/
theorem mem_dependenciesOf_ofEdges :
    target ∈ (ofEdges edges).dependenciesOf source ↔ (source, target) ∈ edges := by
  induction edges using List.reverseRecOn with
  | nil => exact iff_of_false List.not_mem_nil List.not_mem_nil
  | append_singleton edges e ih =>
    rw [ofEdges_concat, mem_dependenciesOf_addEdge, ih, List.mem_append, List.mem_singleton,
      or_comm]

/-- In a graph that was made edge by edge a file imports another, and the other is imported by it,
exactly if that edge was added. Both are listed in strictly increasing order. Two such graphs are
the same exactly if the same edges were added, so neither order nor repetition counts. -/
theorem edges_are_those_added (edges : List (String × String)) :
    (∀ source target,
      (target ∈ (ofEdges edges).dependenciesOf source ↔ (source, target) ∈ edges) ∧
      (source ∈ (ofEdges edges).dependentsOf target ↔ (source, target) ∈ edges)) ∧
    (∀ file,
      ((ofEdges edges).dependenciesOf file).Pairwise (fun a b => compare a b = .lt) ∧
      ((ofEdges edges).dependentsOf file).Pairwise (fun a b => compare a b = .lt)) ∧
    ∀ others, ofEdges others = ofEdges edges ↔ ∀ e, e ∈ others ↔ e ∈ edges := by
  refine ⟨fun source target => ?_, fun file => ?_, fun others => ?_⟩
  · rw [mem_dependentsOf_iff, mem_dependenciesOf_ofEdges]
    exact ⟨Iff.rfl, Iff.rfl⟩
  · exact ⟨increasing_dependenciesOf _ file, increasing_dependentsOf _ file⟩
  · constructor
    · intro heq e
      rw [← mem_dependenciesOf_ofEdges, heq, mem_dependenciesOf_ofEdges]
    · intro hsame
      apply (isTight_ofEdges others).ext (isTight_ofEdges edges)
      intro file target
      rw [mem_dependenciesOf_ofEdges, mem_dependenciesOf_ofEdges, hsame]

/-- A file that imports itself imports and is imported, and an edge that is added twice is one. -/
example :
    let g := ofEdges [("b.ts", "a.ts"), ("a.ts", "a.ts"), ("b.ts", "a.ts")]
    g.dependenciesOf "a.ts" = ["a.ts"] ∧ g.dependentsOf "a.ts" = ["a.ts", "b.ts"] ∧
      g = ofEdges [("a.ts", "a.ts"), ("b.ts", "a.ts")] := by
  decide

end Gazetteer.Cache.Graph
