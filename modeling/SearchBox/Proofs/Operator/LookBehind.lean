import SearchBox.Proofs.Operator.Shape

/-!
This module contains the reading of filters one by one, where each of them knows the filter right
before it and nothing else. The main statement is that the compilation, which takes or discards a
filter by what follows it, gives the same operators.
-/

namespace SearchBox

namespace Filter

/--
The type of the property in whose lines a text right behind this filter is searched.
-/
def markedType? : Filter → Option String
  | .object objectType _ =>
    if objectType ∈ Pattern.markedObjectTypes then some objectType else none
  | .field .. => none
  | .text .. => none

/--
The text that is searched for a filter. The filter for a property has none of its own.
-/
def payload? : Filter → Option String
  | .object objectType objectName =>
    if Vocabulary.isPropertyType objectType then none else some objectName
  | .field _ fieldName => some fieldName
  | .text searchText => some searchText

theorem markedType?_of_isFileObjectType {objectType : String}
    (hfile : Vocabulary.isFileObjectType objectType = true) (objectName : String)
    : markedType? (.object objectType objectName) = none := by
  rw [markedType?, if_neg]
  intro hmarked
  have hproperty := Pattern.isPropertyType_of_mem_markedObjectTypes hmarked
  rw [Vocabulary.isPropertyType_eq_false_of_isFileObjectType hfile] at hproperty
  contradiction

theorem markedType?_of_not_isPropertyType {objectType : String}
    (hproperty : ¬Vocabulary.isPropertyType objectType = true) (objectName : String)
    : markedType? (.object objectType objectName) = none := by
  rw [markedType?, if_neg]
  intro hmarked
  exact hproperty (Pattern.isPropertyType_of_mem_markedObjectTypes hmarked)

end Filter

namespace Operator

/--
The options for a text, of which only the filter right before it is known.
-/
def textOptions (base : Options) (before : Option Filter) : Options :=
  match before.bind Filter.markedType? with
  | some objectType => { base with prefixPattern := some (Pattern.marked objectType).source }
  | none => base

/--
The operator that a filter stands for, of which only the filter right before it is known.
-/
def ofFilter? (base : Options) (before : Option Filter) : Filter → Option Operator
  | .text searchText => some ⟨searchText, textOptions base before⟩
  | .field fieldType fieldName =>
    some ⟨fieldName,
      { base with prefixPattern := (Pattern.ofFieldType? fieldType).map Pattern.source }⟩
  | .object objectType objectName =>
    if Vocabulary.isFileObjectType objectType then
      some ⟨objectName, { base with fileType := some objectType }⟩
    else if Vocabulary.isPropertyType objectType then
      none
    else
      some ⟨objectName, { base with prefixPattern := none }⟩

/--
The operators of filters that are read one by one, where the first one stands behind `before`.
-/
def readingsBehind (base : Options) (before : Option Filter) (filters : List Filter)
    : List Operator :=
  (List.zipWith (ofFilter? base) (before :: filters.map some) filters).filterMap id

def readings (base : Options) (filters : List Filter) : List Operator :=
  readingsBehind base none filters

variable {base : Options} {before : Option Filter}

theorem readingsBehind_of_some {filter : Filter} {op : Operator}
    (h : ofFilter? base before filter = some op) (filters : List Filter)
    : readingsBehind base before (filter :: filters)
      = op :: readingsBehind base (some filter) filters := by
  unfold readingsBehind
  rw [List.map_cons, List.zipWith_cons_cons, h]
  rfl

theorem readingsBehind_of_none {filter : Filter} (h : ofFilter? base before filter = none)
    (filters : List Filter)
    : readingsBehind base before (filter :: filters)
      = readingsBehind base (some filter) filters := by
  unfold readingsBehind
  rw [List.map_cons, List.zipWith_cons_cons, h]
  rfl

theorem textOptions_of_markedType?_eq_none (h : before.bind Filter.markedType? = none)
    : textOptions base before = base := by
  rw [textOptions, h]

theorem propertyOperator_eq_textOptions (base : Options) (objectType objectName searchText : String)
    : Compile.propertyOperator base objectType searchText
      = ⟨searchText, textOptions base (some (.object objectType objectName))⟩ := by
  unfold Compile.propertyOperator textOptions Pattern.ofObjectType?
  rw [Option.bind_some, Filter.markedType?]
  by_cases hmarked : objectType ∈ Pattern.markedObjectTypes
  . rw [if_pos hmarked, if_pos hmarked]
  . rw [if_neg hmarked, if_neg hmarked]

theorem objectOperator_of_not_isPropertyType (base : Options) {objectType : String}
    (hproperty : ¬Vocabulary.isPropertyType objectType = true) (objectName : String)
    : Compile.objectOperator base objectType objectName
      = ⟨objectName, { base with prefixPattern := none }⟩ := by
  have hmarked : objectType ∉ Pattern.markedObjectTypes := by
    intro h
    exact hproperty (Pattern.isPropertyType_of_mem_markedObjectTypes h)
  unfold Compile.objectOperator Pattern.ofObjectFilterType? Pattern.ofObjectType?
  rw [if_neg hmarked]
  split <;> rfl

/--
What stands before a list makes a difference only if it restricts a text at the front of the list.
-/
theorem ofFilters_eq_readingsBehind (base : Options) (filters : List Filter)
    : ∀ before : Option Filter,
        before.bind Filter.markedType? = none ∨ (∀ filter ∈ filters.head?, filter.text? = none)
        → ofFilters base filters = readingsBehind base before filters := by
  induction filters using Compile.filters_induction with
  | nil =>
    intro before _
    rfl
  | text searchText filters ih =>
    intro before hbefore
    have hunmarked : before.bind Filter.markedType? = none := by
      simpa [Filter.text?] using hbefore
    rw [ofFilters_of_emit (Compile.filterSteps_text base searchText filters),
      readingsBehind_of_some rfl, textOptions_of_markedType?_eq_none hunmarked, ← ih _ (.inl rfl)]
  | field fieldType fieldName filters ih =>
    intro before _
    rw [ofFilters_of_emit (Compile.filterSteps_field base fieldType fieldName filters),
      readingsBehind_of_some rfl, ← ih _ (.inl rfl)]
    rfl
  | file objectType objectName filters hfile ih =>
    intro before _
    have hsome : ofFilter? base before (.object objectType objectName)
        = some ⟨objectName, { base with fileType := some objectType }⟩ := by
      rw [ofFilter?, if_pos hfile]
    have hunmarked := Filter.markedType?_of_isFileObjectType hfile objectName
    rw [ofFilters_of_emit (Compile.filterSteps_file base hfile objectName filters),
      readingsBehind_of_some hsome,
      ← ih (some (.object objectType objectName)) (.inl hunmarked)]
    rfl
  | taken objectType objectName searchText filters hfile hproperty ih =>
    intro before _
    have hnone : ofFilter? base before (.object objectType objectName) = none := by
      rw [ofFilter?, if_neg hfile, if_pos hproperty]
    -- one step takes both filters, which are read as no operator and as the one for the text
    rw [ofFilters_of_emit (Compile.filterSteps_property_text base hfile hproperty objectName
      searchText filters), readingsBehind_of_none hnone, readingsBehind_of_some rfl,
      ← propertyOperator_eq_textOptions, ← ih _ (.inl rfl)]
  | discarded objectType objectName filters hfile hproperty hnext ih =>
    intro before _
    have hnone : ofFilter? base before (.object objectType objectName) = none := by
      rw [ofFilter?, if_neg hfile, if_pos hproperty]
    rw [ofFilters_of_discard
      (Compile.filterSteps_property_of_not_text base hfile hproperty objectName hnext),
      readingsBehind_of_none hnone,
      -- no text follows, so it does not matter that the type may be marked
      ← ih _ (.inr hnext)]
  | other objectType objectName filters hfile hproperty ih =>
    intro before _
    have hsome : ofFilter? base before (.object objectType objectName)
        = some ⟨objectName, { base with prefixPattern := none }⟩ := by
      rw [ofFilter?, if_neg hfile, if_neg hproperty]
    have hunmarked := Filter.markedType?_of_not_isPropertyType hproperty objectName
    rw [ofFilters_of_emit (Compile.filterSteps_object base hfile hproperty objectName filters),
      readingsBehind_of_some hsome, objectOperator_of_not_isPropertyType base hproperty,
      ← ih (some (.object objectType objectName)) (.inl hunmarked)]

theorem map_searchText_ofFilter? (base : Options) (before : Option Filter) (filter : Filter)
    : (ofFilter? base before filter).map searchText = filter.payload? := by
  cases filter with
  | text searchText => rfl
  | field fieldType fieldName => rfl
  | object objectType objectName =>
    rw [ofFilter?, Filter.payload?]
    split
    . next hfile =>
      rw [Vocabulary.isPropertyType_eq_false_of_isFileObjectType hfile]
      rfl
    . split <;> rfl

theorem map_searchText_readingsBehind (base : Options) (before : Option Filter)
    (filters : List Filter)
    : (readingsBehind base before filters).map searchText
      = filters.filterMap Filter.payload? := by
  induction filters generalizing before with
  | nil => rfl
  | cons filter filters ih =>
    have hpayload := map_searchText_ofFilter? base before filter
    cases hop : ofFilter? base before filter with
    | none =>
      rw [hop, Option.map_none] at hpayload
      rw [readingsBehind_of_none hop, ih, List.filterMap_cons_none hpayload.symm]
    | some op =>
      rw [hop, Option.map_some] at hpayload
      rw [readingsBehind_of_some hop, List.map_cons, ih, List.filterMap_cons_some hpayload.symm]

/--
The compilation gives the operators of the filters as they are read one by one. So it searches their
own texts and names in their order, each of them once.
-/
theorem ofEntries_eq_readings {α : Type} (base : Options) (filters : List Filter)
    : ofEntries base (filters.map (Entry.filter (α := α))) = .ok (readings base filters)
      ∧ ofFilters base filters = readings base filters
      ∧ (readings base filters).map searchText = filters.filterMap Filter.payload? := by
  have hreadings : ofFilters base filters = readings base filters :=
    ofFilters_eq_readingsBehind base filters none (.inl rfl)
  refine ⟨?_, hreadings, map_searchText_readingsBehind base none filters⟩
  rw [ofEntries_map_filter, hreadings]

end Operator

end SearchBox
