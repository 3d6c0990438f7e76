import SearchBox.Proofs.Operator.Shape
import SearchBox.Query

/-!
This module contains the shape of what a query is parsed and compiled to. The main statement says
which filters and operators occur, that neither two texts nor two plain operators follow each other,
and that no stage makes more than it gets.
-/

namespace SearchBox

namespace Filter

theorem recognized_of_mem_ofQuery (query : String)
    : ∀ filter ∈ ofQuery query, filter.Recognized := by
  rw [ofQuery_eq]
  apply recognized_of_mem_merge
  intro filter hfilter
  obtain ⟨token, _, rfl⟩ := List.mem_map.1 hfilter
  exact recognized_ofToken token

theorem isChain_ofQuery (query : String) : (ofQuery query).IsChain (Stretch.Apart text?) := by
  rw [ofQuery_eq]
  apply isChain_merge

theorem length_ofQuery_le (query : String)
    : (ofQuery query).length ≤ (Token.tokenize query).length := by
  rw [ofQuery_eq]
  apply Nat.le_trans (length_merge_le _)
  rw [List.length_map]

end Filter

namespace Operator

theorem compiled_ofQuery (base : Options) (query : String)
    : Compiled base (Filter.ofQuery query) (ofQuery base query) := by
  rw [ofQuery_eq]
  exact compiled_ofFilters base (Filter.recognized_of_mem_ofQuery query)

/--
The shape of the filters and operators of a query, if the options to start from do not restrict the
search.
-/
theorem shape_ofQuery {base : Options} (hpattern : base.prefixPattern = none)
    (hfile : base.fileType = none) (query : String)
    : ((Filter.ofQuery query).IsChain (Stretch.Apart Filter.text?)
          ∧ ∀ filter ∈ Filter.ofQuery query, filter.Recognized)
      ∧ (∀ op ∈ ofQuery base query, op.Shaped base)
      ∧ (ofQuery base query).IsChain Apart
      ∧ (ofQuery base query).length ≤ (Filter.ofQuery query).length
      ∧ (Filter.ofQuery query).length ≤ (Token.tokenize query).length := by
  have hfilters := Filter.isChain_ofQuery query
  have hcompiled := compiled_ofQuery base query
  refine ⟨⟨hfilters, Filter.recognized_of_mem_ofQuery query⟩, ?_, ?_, ?_, ?_⟩
  . exact hcompiled.shaped hpattern hfile
  . exact hcompiled.isChain_apart hfilters
  . exact hcompiled.length_le
  . exact Filter.length_ofQuery_le query

theorem shape_ofQuery_between_texts
    : let base : Options := { matchCase := true }
      let query := "a b:c type:metric type:measure d tag:e owner:'f g' owner:: type:model"
      base.prefixPattern = none ∧ base.fileType = none
        ∧ ((Filter.ofQuery query).IsChain (Stretch.Apart Filter.text?)
            ∧ ∀ filter ∈ Filter.ofQuery query, filter.Recognized)
        ∧ (∀ op ∈ ofQuery base query, op.Shaped base)
        ∧ (ofQuery base query).IsChain Apart
        ∧ (ofQuery base query).length ≤ (Filter.ofQuery query).length
        ∧ (Filter.ofQuery query).length ≤ (Token.tokenize query).length :=
  ⟨rfl, rfl, shape_ofQuery rfl rfl _⟩

end Operator

end SearchBox
