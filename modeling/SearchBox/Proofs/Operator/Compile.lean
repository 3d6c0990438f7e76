import SearchBox.Operator.Compile

/-!
This module contains the laws of the compilation of filters into operators. It looks at most one
entry ahead, and only for a text. So a list can be cut before any entry that is not a text.
-/

namespace SearchBox

namespace Compile

variable {α : Type} (base : Options)

theorem steps_file {objectType : String} (hfile : Vocabulary.isFileObjectType objectType = true)
    (objectName : String) (rest : List (Entry α))
    : steps base (.filter (.object objectType objectName) :: rest)
      = (steps base rest).map (.emit (fileOperator base objectType objectName) :: ·) := by
  rw [steps.eq_def]
  simp only
  rw [if_pos hfile]

theorem steps_property_of_not_text {objectType : String}
    (hfile : ¬Vocabulary.isFileObjectType objectType = true)
    (hproperty : Vocabulary.isPropertyType objectType = true) (objectName : String)
    {rest : List (Entry α)} (hrest : ∀ entry ∈ rest.head?, entry.text? = none)
    : steps base (.filter (.object objectType objectName) :: rest)
      = (steps base rest).map (.discard objectType :: ·) := by
  rw [steps.eq_def]
  simp only
  rw [if_neg hfile, if_pos hproperty]
  split
  . next searchText behind =>
    have := hrest (.filter (.text searchText)) rfl
    contradiction
  . rfl

theorem steps_object {objectType : String}
    (hfile : ¬Vocabulary.isFileObjectType objectType = true)
    (hproperty : ¬Vocabulary.isPropertyType objectType = true) (objectName : String)
    (rest : List (Entry α))
    : steps base (.filter (.object objectType objectName) :: rest)
      = (steps base rest).map (.emit (objectOperator base objectType objectName) :: ·) := by
  rw [steps.eq_def]
  simp only
  rw [if_neg hfile, if_neg hproperty]

theorem map_cons_append {ε : Type} (step : Step) (front behind : Except ε (List Step))
    : (do return (← front) ++ (← behind)).map (step :: ·)
      = (do return (← front.map (step :: ·)) ++ (← behind)) := by
  cases front with
  | error e => rfl
  | ok front =>
    cases behind with
    | error e => rfl
    | ok behind => rfl

/--
The steps for a list are those for its two parts, if the second part does not start with a text. If
both parts have an error, it is the one of the first part.
-/
theorem steps_append {ys : List (Entry α)} (hys : ∀ entry ∈ ys.head?, entry.text? = none)
    (xs : List (Entry α))
    : steps base (xs ++ ys) = (do return (← steps base xs) ++ (← steps base ys)) := by
  fun_induction steps base xs with
  | case1 =>
    rw [List.nil_append]
    cases steps base ys with
    | error e => rfl
    | ok behind => rfl
  | case2 value rest => rfl
  | case3 searchText rest ih => rw [List.cons_append, steps, ih, map_cons_append]
  | case4 fieldType fieldName rest ih => rw [List.cons_append, steps, ih, map_cons_append]
  | case5 objectType objectName rest hfile ih =>
    rw [List.cons_append, steps_file base hfile, ih, map_cons_append]
  | case6 objectType objectName hfile hproperty searchText rest ih =>
    rw [List.cons_append, List.cons_append, steps, if_neg hfile, if_pos hproperty, ih,
      map_cons_append]
  | case7 objectType objectName hfile hproperty rest hrest ih =>
    have hnext : ∀ entry ∈ (rest ++ ys).head?, entry.text? = none := by
      -- the filter is the last one of the first part, or an entry that is not a text follows it
      cases rest with
      | nil => exact hys
      | cons entry rest =>
        intro next hnext
        obtain rfl : entry = next := by simpa using hnext
        cases entry with
        | foreign value => rfl
        | filter f =>
          cases f with
          | text searchText => exact absurd rfl (hrest searchText rest)
          | object objectType objectName => rfl
          | field fieldType fieldName => rfl
    rw [List.cons_append, steps_property_of_not_text base hfile hproperty objectName hnext, ih,
      map_cons_append]
  | case8 objectType objectName rest hfile hproperty ih =>
    rw [List.cons_append, steps_object base hfile hproperty, ih, map_cons_append]

theorem steps_filters (filters : List Filter)
    : steps base (filters.map (Entry.filter (α := Empty))) = .ok (filterSteps base filters) := by
  rw [filterSteps]
  cases steps base (filters.map (Entry.filter (α := Empty))) with
  | ok steps => rfl
  | error e => exact e.value.elim

theorem filterSteps_append {others : List Filter} (h : ∀ filter ∈ others.head?, filter.text? = none)
    (filters : List Filter)
    : filterSteps base (filters ++ others) = filterSteps base filters ++ filterSteps base others := by
  have hothers : ∀ entry ∈ (others.map (Entry.filter (α := Empty))).head?, entry.text? = none := by
    cases others with
    | nil => simp
    | cons filter others => simpa [Entry.text?] using h
  have hsteps := steps_append base hothers (filters.map .filter)
  rw [← List.map_append, steps_filters, steps_filters, steps_filters] at hsteps
  exact Except.ok.inj hsteps

theorem filterSteps_of_steps {filters rest : List Filter} {step : Step}
    (h : steps base (filters.map (Entry.filter (α := Empty)))
      = (steps base (rest.map .filter)).map (step :: ·))
    : filterSteps base filters = step :: filterSteps base rest := by
  rw [steps_filters, steps_filters] at h
  exact Except.ok.inj h

theorem filterSteps_text (searchText : String) (filters : List Filter)
    : filterSteps base (.text searchText :: filters)
      = .emit ⟨searchText, base⟩ :: filterSteps base filters := by
  apply filterSteps_of_steps
  rw [List.map_cons, steps]

theorem filterSteps_field (fieldType fieldName : String) (filters : List Filter)
    : filterSteps base (.field fieldType fieldName :: filters)
      = .emit (fieldOperator base fieldType fieldName) :: filterSteps base filters := by
  apply filterSteps_of_steps
  rw [List.map_cons, steps]

theorem filterSteps_file {objectType : String}
    (hfile : Vocabulary.isFileObjectType objectType = true) (objectName : String)
    (filters : List Filter)
    : filterSteps base (.object objectType objectName :: filters)
      = .emit (fileOperator base objectType objectName) :: filterSteps base filters := by
  apply filterSteps_of_steps
  rw [List.map_cons, steps_file base hfile]

theorem filterSteps_property_text {objectType : String}
    (hfile : ¬Vocabulary.isFileObjectType objectType = true)
    (hproperty : Vocabulary.isPropertyType objectType = true) (objectName searchText : String)
    (filters : List Filter)
    : filterSteps base (.object objectType objectName :: .text searchText :: filters)
      = .emit (propertyOperator base objectType searchText) :: filterSteps base filters := by
  apply filterSteps_of_steps
  rw [List.map_cons, List.map_cons, steps, if_neg hfile, if_pos hproperty]

theorem filterSteps_property_of_not_text {objectType : String}
    (hfile : ¬Vocabulary.isFileObjectType objectType = true)
    (hproperty : Vocabulary.isPropertyType objectType = true) (objectName : String)
    {filters : List Filter} (h : ∀ filter ∈ filters.head?, filter.text? = none)
    : filterSteps base (.object objectType objectName :: filters)
      = .discard objectType :: filterSteps base filters := by
  apply filterSteps_of_steps
  rw [List.map_cons, steps_property_of_not_text base hfile hproperty]
  simpa [Entry.text?] using h

theorem filterSteps_object {objectType : String}
    (hfile : ¬Vocabulary.isFileObjectType objectType = true)
    (hproperty : ¬Vocabulary.isPropertyType objectType = true) (objectName : String)
    (filters : List Filter)
    : filterSteps base (.object objectType objectName :: filters)
      = .emit (objectOperator base objectType objectName) :: filterSteps base filters := by
  apply filterSteps_of_steps
  rw [List.map_cons, steps_object base hfile hproperty]

/--
The induction along the steps of the compilation.
-/
@[elab_as_elim]
theorem filters_induction {motive : List Filter → Prop} (nil : motive [])
    (text : ∀ searchText filters, motive filters → motive (.text searchText :: filters))
    (field : ∀ fieldType fieldName filters, motive filters
      → motive (.field fieldType fieldName :: filters))
    (file : ∀ objectType objectName filters, Vocabulary.isFileObjectType objectType = true
      → motive filters → motive (.object objectType objectName :: filters))
    (taken : ∀ objectType objectName searchText filters,
      ¬Vocabulary.isFileObjectType objectType = true
      → Vocabulary.isPropertyType objectType = true → motive filters
      → motive (.object objectType objectName :: .text searchText :: filters))
    (discarded : ∀ objectType objectName filters,
      ¬Vocabulary.isFileObjectType objectType = true
      → Vocabulary.isPropertyType objectType = true
      → (∀ filter ∈ filters.head?, filter.text? = none) → motive filters
      → motive (.object objectType objectName :: filters))
    (other : ∀ objectType objectName filters, ¬Vocabulary.isFileObjectType objectType = true
      → ¬Vocabulary.isPropertyType objectType = true → motive filters
      → motive (.object objectType objectName :: filters))
    (filters : List Filter) : motive filters := by
  have ih : ∀ rest : List Filter, rest.length < filters.length → motive rest :=
    fun rest _ => filters_induction nil text field file taken discarded other rest
  match filters, ih with
  | [], _ => exact nil
  | .text searchText :: rest, ih => exact text searchText rest (ih rest (by simp))
  | .field fieldType fieldName :: rest, ih =>
    exact field fieldType fieldName rest (ih rest (by simp))
  | .object objectType objectName :: rest, ih =>
    by_cases hfile : Vocabulary.isFileObjectType objectType = true
    . exact file objectType objectName rest hfile (ih rest (by simp))
    . by_cases hproperty : Vocabulary.isPropertyType objectType = true
      . by_cases hrest : ∀ filter ∈ rest.head?, filter.text? = none
        . exact discarded objectType objectName rest hfile hproperty hrest (ih rest (by simp))
        . match rest with
          | .text searchText :: rest =>
            have hlt : rest.length < (rest.length + 1) + 1 := by omega
            exact taken objectType objectName searchText rest hfile hproperty (ih rest hlt)
          | [] | .field _ _ :: _ | .object _ _ :: _ => simp [Filter.text?] at hrest
      . exact other objectType objectName rest hfile hproperty (ih rest (by simp))
termination_by filters.length

/--
Whatever else a list of entries could hold, the steps for filters are the same and have no error.
-/
theorem steps_map_filter (filters : List Filter)
    : steps base (filters.map (Entry.filter (α := α))) = .ok (filterSteps base filters) := by
  induction filters using filters_induction with
  | nil => rfl
  | text searchText filters ih =>
    rw [List.map_cons, steps, ih, filterSteps_text]
    rfl
  | field fieldType fieldName filters ih =>
    rw [List.map_cons, steps, ih, filterSteps_field]
    rfl
  | file objectType objectName filters hfile ih =>
    rw [List.map_cons, steps_file base hfile, ih, filterSteps_file base hfile]
    rfl
  | taken objectType objectName searchText filters hfile hproperty ih =>
    rw [List.map_cons, List.map_cons, steps, if_neg hfile, if_pos hproperty, ih,
      filterSteps_property_text base hfile hproperty]
    rfl
  | discarded objectType objectName filters hfile hproperty hnext ih =>
    rw [List.map_cons, steps_property_of_not_text base hfile hproperty, ih,
      filterSteps_property_of_not_text base hfile hproperty objectName hnext]
    . rfl
    . simpa [Entry.text?] using hnext
  | other objectType objectName filters hfile hproperty ih =>
    rw [List.map_cons, steps_object base hfile hproperty, ih,
      filterSteps_object base hfile hproperty]
    rfl

end Compile

theorem Operator.ofEntries_map_filter {α : Type} (base : Options) (filters : List Filter)
    : ofEntries base (filters.map (Entry.filter (α := α))) = .ok (ofFilters base filters) := by
  rw [ofEntries, Compile.steps_map_filter]
  rfl

theorem Operator.ofFilters_append_file (base : Options) {objectType : String}
    (hfile : Vocabulary.isFileObjectType objectType = true) (objectName : String)
    (filters others : List Filter)
    : ofFilters base (filters ++ .object objectType objectName :: others)
      = ofFilters base filters ++ Compile.fileOperator base objectType objectName
        :: ofFilters base others := by
  have hnext : ∀ filter ∈ (Filter.object objectType objectName :: others).head?,
      filter.text? = none := by
    simp [Filter.text?]
  unfold ofFilters
  rw [Compile.filterSteps_append base hnext, Compile.filterSteps_file base hfile,
    List.filterMap_append]
  rfl

end SearchBox
