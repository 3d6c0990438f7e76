import Mathlib.Data.List.Infix
import SearchBox.Proofs.Operator.LookBehind

/-!
This module contains the account of the filters for properties. Such a filter either gives way to
the text right behind it or is discarded. Any other filter has an operator of its own, so the number
of filters follows from the numbers of operators, of discarded filters and of texts that were taken.
-/

namespace SearchBox

namespace Filter

/--
The property that the first filter is for, with the text right behind it.
-/
def property? : List Filter → Option (String × Option String)
  | .object objectType _ :: rest =>
    if Vocabulary.isPropertyType objectType then
      some (objectType, rest.head?.bind text?)
    else
      none
  | _ => none

/--
The properties that there are filters for, each with the text right behind its filter.
-/
def properties (filters : List Filter) : List (String × Option String) :=
  filters.tails.filterMap property?

/--
The properties without a text right behind their filters.
-/
def unusedTypes (filters : List Filter) : List String :=
  ((properties filters).filter (·.2.isNone)).map Prod.fst

/--
The texts right behind the filters for properties.
-/
def takenTexts (filters : List Filter) : List String :=
  (properties filters).filterMap Prod.snd

variable {filter : Filter} {filters : List Filter}

theorem property?_object {objectType : String}
    (hproperty : Vocabulary.isPropertyType objectType = true) (objectName : String)
    (filters : List Filter)
    : property? (.object objectType objectName :: filters)
      = some (objectType, filters.head?.bind text?) := by
  rw [property?, if_pos hproperty]

theorem property?_object_of_not {objectType : String}
    (hproperty : ¬Vocabulary.isPropertyType objectType = true) (objectName : String)
    (filters : List Filter) : property? (.object objectType objectName :: filters) = none := by
  rw [property?, if_neg hproperty]

theorem properties_of_some {property : String × Option String}
    (h : property? (filter :: filters) = some property)
    : properties (filter :: filters) = property :: properties filters := by
  unfold properties
  rw [List.tails_cons, List.filterMap_cons_some h]

theorem properties_of_none (h : property? (filter :: filters) = none)
    : properties (filter :: filters) = properties filters := by
  unfold properties
  rw [List.tails_cons, List.filterMap_cons_none h]

theorem unusedTypes_of_unused {objectType : String}
    (h : property? (filter :: filters) = some (objectType, none))
    : unusedTypes (filter :: filters) = objectType :: unusedTypes filters := by
  unfold unusedTypes
  rw [properties_of_some h]
  rfl

theorem unusedTypes_of_taken {objectType searchText : String}
    (h : property? (filter :: filters) = some (objectType, some searchText))
    : unusedTypes (filter :: filters) = unusedTypes filters := by
  unfold unusedTypes
  rw [properties_of_some h]
  rfl

theorem unusedTypes_of_none (h : property? (filter :: filters) = none)
    : unusedTypes (filter :: filters) = unusedTypes filters := by
  unfold unusedTypes
  rw [properties_of_none h]

theorem length_properties (filters : List Filter)
    : (properties filters).length = (unusedTypes filters).length + (takenTexts filters).length := by
  rw [unusedTypes, takenTexts, List.length_map, ← List.countP_eq_length_filter,
    List.length_filterMap_eq_countP, List.length_eq_countP_add_countP (·.2.isNone)]
  congr 2
  funext property
  cases property.2 with
  | none => rfl
  | some searchText => rfl

theorem payload?_or_property? (filter : Filter) (filters : List Filter)
    : (∃ searchText, payload? filter = some searchText ∧ property? (filter :: filters) = none)
      ∨ (payload? filter = none ∧ ∃ property, property? (filter :: filters) = some property) := by
  cases filter with
  | text searchText => exact .inl ⟨searchText, rfl, rfl⟩
  | field fieldType fieldName => exact .inl ⟨fieldName, rfl, rfl⟩
  | object objectType objectName =>
    by_cases hproperty : Vocabulary.isPropertyType objectType = true
    . refine .inr ⟨?_, _, property?_object hproperty objectName filters⟩
      rw [payload?, if_pos hproperty]
    . refine .inl ⟨objectName, ?_, property?_object_of_not hproperty objectName filters⟩
      rw [payload?, if_neg hproperty]

/--
Only the filters for properties have no text or name of their own to search.
-/
theorem length_eq_add_length_properties (filters : List Filter)
    : filters.length = (filters.filterMap payload?).length + (properties filters).length := by
  induction filters with
  | nil => rfl
  | cons filter filters ih =>
    rcases payload?_or_property? filter filters with
      ⟨searchText, hpayload, hproperty⟩ | ⟨hpayload, property, hproperty⟩
    . rw [properties_of_none hproperty, List.filterMap_cons_some hpayload, List.length_cons,
        List.length_cons, ih, Nat.add_right_comm]
    . rw [properties_of_some hproperty, List.filterMap_cons_none hpayload, List.length_cons,
        List.length_cons, ih, Nat.add_assoc]

end Filter

namespace Compile

/--
What the compilation reports as discarded, and in which order.
-/
theorem discarded_filterSteps (base : Options) (filters : List Filter)
    : (filterSteps base filters).filterMap Step.discarded? = Filter.unusedTypes filters := by
  induction filters using filters_induction with
  | nil => rfl
  | text searchText filters ih =>
    rw [filterSteps_text, List.filterMap_cons_none rfl, ih, Filter.unusedTypes_of_none rfl]
  | field fieldType fieldName filters ih =>
    rw [filterSteps_field, List.filterMap_cons_none rfl, ih, Filter.unusedTypes_of_none rfl]
  | file objectType objectName filters hfile ih =>
    have hproperty : ¬Vocabulary.isPropertyType objectType = true := by
      rw [Vocabulary.isPropertyType_eq_false_of_isFileObjectType hfile]
      exact Bool.false_ne_true
    rw [filterSteps_file base hfile, List.filterMap_cons_none rfl, ih,
      Filter.unusedTypes_of_none (Filter.property?_object_of_not hproperty objectName filters)]
  | taken objectType objectName searchText filters hfile hproperty ih =>
    -- the step takes the text too, which is no filter for a property
    rw [filterSteps_property_text base hfile hproperty, List.filterMap_cons_none rfl, ih,
      Filter.unusedTypes_of_taken (Filter.property?_object hproperty objectName _),
      Filter.unusedTypes_of_none rfl]
  | discarded objectType objectName filters hfile hproperty hnext ih =>
    have htext : filters.head?.bind Filter.text? = none := Option.bind_eq_none_iff.2 hnext
    have hunused := Filter.property?_object hproperty objectName filters
    rw [htext] at hunused
    rw [filterSteps_property_of_not_text base hfile hproperty objectName hnext,
      List.filterMap_cons_some (f := Step.discarded?) rfl, ih,
      Filter.unusedTypes_of_unused hunused]
  | other objectType objectName filters hfile hproperty ih =>
    rw [filterSteps_object base hfile hproperty, List.filterMap_cons_none rfl, ih,
      Filter.unusedTypes_of_none (Filter.property?_object_of_not hproperty objectName filters)]

end Compile

/--
Each filter has an operator, is discarded, or gives way to the text behind it, and no filter has two
of these fates.
-/
theorem Operator.length_filters_eq (base : Options) (filters : List Filter)
    : filters.length
      = (ofFilters base filters).length + (Filter.unusedTypes filters).length
        + (Filter.takenTexts filters).length := by
  have hops : (ofFilters base filters).map searchText = filters.filterMap Filter.payload? := by
    rw [ofFilters_eq_readingsBehind base filters none (.inl rfl), map_searchText_readingsBehind]
  calc filters.length
    _ = (filters.filterMap Filter.payload?).length + (Filter.properties filters).length :=
      Filter.length_eq_add_length_properties filters
    _ = (ofFilters base filters).length + (Filter.properties filters).length := by
      rw [← hops, List.length_map]
    _ = (ofFilters base filters).length + (Filter.unusedTypes filters).length
        + (Filter.takenTexts filters).length := by
      rw [Filter.length_properties, Nat.add_assoc]

end SearchBox
