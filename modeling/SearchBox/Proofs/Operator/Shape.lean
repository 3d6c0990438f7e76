import SearchBox.Proofs.Filter.Shape
import SearchBox.Proofs.Operator.Compile

/-!
This module contains the shape of the operators of recognized filters. A relation says which
operators a list of such filters stands for, and the laws about their options, their search texts,
their order and their number follow by induction on it.
-/

namespace SearchBox

namespace Pattern

/--
The markers of the lines to which the filters of a query restrict a search.
-/
def lineMarkers : List String :=
  ["dimension", "measure", "metric", "owner:", "data_source_name:"]

theorem eq_of_source_marked_eq {marker other : String} (hmarker : marker ∈ lineMarkers)
    (hother : other ∈ "tag:" :: lineMarkers)
    (h : (marked marker).source = (marked other).source) : marker = other := by
  have hall : ∀ marker ∈ lineMarkers, ∀ other ∈ "tag:" :: lineMarkers,
      (marked marker).source = (marked other).source → marker = other := by
    decide +kernel
  exact hall marker hmarker other hother h

theorem mem_markedObjectTypes {objectType : String} (hobject : objectType ∈ Vocabulary.objectTypes)
    (hfile : ¬Vocabulary.isFileObjectType objectType = true)
    : objectType ∈ markedObjectTypes := by
  have hall : ∀ objectType ∈ Vocabulary.objectTypes,
      ¬Vocabulary.isFileObjectType objectType = true → objectType ∈ markedObjectTypes := by
    decide
  exact hall objectType hobject hfile

theorem isPropertyType_of_mem_markedObjectTypes {objectType : String}
    (h : objectType ∈ markedObjectTypes) : Vocabulary.isPropertyType objectType = true := by
  have hall : ∀ objectType ∈ markedObjectTypes, Vocabulary.isPropertyType objectType = true := by
    decide
  exact hall objectType h

theorem mem_lineMarkers_of_mem_markedObjectTypes {objectType : String}
    (h : objectType ∈ markedObjectTypes) : objectType ∈ lineMarkers :=
  List.mem_append_left ["owner:", "data_source_name:"] h

theorem exists_ofFieldType?_eq {fieldType : String} (h : fieldType ∈ Vocabulary.fieldKeys)
    : ∃ marker ∈ lineMarkers, ofFieldType? fieldType = some (marked marker) := by
  simp only [Vocabulary.fieldKeys, List.mem_cons, List.not_mem_nil, or_false] at h
  rcases h with rfl | rfl
  . exact ⟨"owner:", by decide, rfl⟩
  . exact ⟨"data_source_name:", by decide, rfl⟩

end Pattern

namespace Operator

variable {base : Options} {filters : List Filter} {ops : List Operator}

theorem ofFilters_of_emit {rest : List Filter} {op : Operator}
    (h : Compile.filterSteps base filters = .emit op :: Compile.filterSteps base rest)
    : ofFilters base filters = op :: ofFilters base rest := by
  unfold ofFilters
  rw [h]
  rfl

theorem ofFilters_of_discard {rest : List Filter} {objectType : String}
    (h : Compile.filterSteps base filters = .discard objectType :: Compile.filterSteps base rest)
    : ofFilters base filters = ofFilters base rest := by
  unfold ofFilters
  rw [h]
  rfl

/--
The operator for a text in the lines with a marker.
-/
def inLines (base : Options) (marker searchText : String) : Operator :=
  ⟨searchText, { base with prefixPattern := some (Pattern.marked marker).source }⟩

theorem fieldOperator_eq_inLines (base : Options) {fieldType marker : String}
    (h : Pattern.ofFieldType? fieldType = some (Pattern.marked marker)) (fieldName : String)
    : Compile.fieldOperator base fieldType fieldName = inLines base marker fieldName := by
  rw [Compile.fieldOperator, h]
  rfl

theorem propertyOperator_eq_inLines (base : Options) {objectType : String}
    (h : objectType ∈ Pattern.markedObjectTypes) (searchText : String)
    : Compile.propertyOperator base objectType searchText = inLines base objectType searchText := by
  rw [Compile.propertyOperator, Pattern.ofObjectType?, if_pos h]
  rfl

/--
The operators that a list of recognized filters stands for.
-/
inductive Compiled (base : Options) : List Filter → List Operator → Prop where
  | nil : Compiled base [] []
  | text (searchText : String) {filters : List Filter} {ops : List Operator}
    : Compiled base filters ops
      → Compiled base (.text searchText :: filters) (⟨searchText, base⟩ :: ops)
  | field {fieldType marker : String} (fieldName : String) {filters : List Filter}
    {ops : List Operator}
    : marker ∈ Pattern.lineMarkers → Pattern.ofFieldType? fieldType = some (Pattern.marked marker)
      → Compiled base filters ops
      → Compiled base (.field fieldType fieldName :: filters) (inLines base marker fieldName :: ops)
  | file {objectType : String} {filters : List Filter} {ops : List Operator}
    : objectType ∈ Vocabulary.fileObjectTypes → Compiled base filters ops
      → Compiled base (.object objectType "" :: filters)
          (Compile.fileOperator base objectType "" :: ops)
  | taken {objectType : String} (searchText : String) {filters : List Filter} {ops : List Operator}
    : objectType ∈ Pattern.markedObjectTypes → Compiled base filters ops
      → Compiled base (.object objectType "" :: .text searchText :: filters)
          (inLines base objectType searchText :: ops)
  | discarded {objectType : String} {filters : List Filter} {ops : List Operator}
    : objectType ∈ Pattern.markedObjectTypes → (∀ filter ∈ filters.head?, filter.text? = none)
      → Compiled base filters ops → Compiled base (.object objectType "" :: filters) ops

theorem compiled_ofFilters (base : Options) {filters : List Filter}
    (h : ∀ filter ∈ filters, filter.Recognized)
    : Compiled base filters (ofFilters base filters) := by
  induction filters using Compile.filters_induction with
  | nil => exact .nil
  | text searchText filters ih =>
    rw [List.forall_mem_cons] at h
    rw [ofFilters_of_emit (Compile.filterSteps_text base searchText filters)]
    exact .text searchText (ih h.2)
  | field fieldType fieldName filters ih =>
    rw [List.forall_mem_cons] at h
    obtain ⟨marker, hmarker, hpattern⟩ := Pattern.exists_ofFieldType?_eq h.1.1
    rw [ofFilters_of_emit (Compile.filterSteps_field base fieldType fieldName filters),
      fieldOperator_eq_inLines base hpattern]
    exact .field fieldName hmarker hpattern (ih h.2)
  | file objectType objectName filters hfile ih =>
    rw [List.forall_mem_cons] at h
    obtain ⟨⟨_, rfl⟩, hfilters⟩ := h
    rw [ofFilters_of_emit (Compile.filterSteps_file base hfile "" filters)]
    exact .file (by simpa [Vocabulary.isFileObjectType] using hfile) (ih hfilters)
  | taken objectType objectName searchText filters hfile hproperty ih =>
    rw [List.forall_mem_cons, List.forall_mem_cons] at h
    obtain ⟨⟨hobject, rfl⟩, _, hfilters⟩ := h
    have hmarked := Pattern.mem_markedObjectTypes hobject hfile
    rw [ofFilters_of_emit
      (Compile.filterSteps_property_text base hfile hproperty "" searchText filters),
      propertyOperator_eq_inLines base hmarked]
    exact .taken searchText hmarked (ih hfilters)
  | discarded objectType objectName filters hfile hproperty hnext ih =>
    rw [List.forall_mem_cons] at h
    obtain ⟨⟨hobject, rfl⟩, hfilters⟩ := h
    rw [ofFilters_of_discard
      (Compile.filterSteps_property_of_not_text base hfile hproperty "" hnext)]
    exact .discarded (Pattern.mem_markedObjectTypes hobject hfile) hnext (ih hfilters)
  | other objectType objectName filters hfile hproperty ih =>
    -- the types that may follow `type:` are those of files and of properties
    have hobject := (h _ List.mem_cons_self).1
    have hmarked := Pattern.mem_markedObjectTypes hobject hfile
    exact absurd (Pattern.isPropertyType_of_mem_markedObjectTypes hmarked) hproperty

/--
What an operator that is compiled with options `base` can look like.
-/
structure Shaped (base : Options) (op : Operator) : Prop where
  matchCase_eq : op.options.matchCase = base.matchCase
  matchWholeWord_eq : op.options.matchWholeWord = base.matchWholeWord
  prefix_or_file : op.options.prefixPattern = none ∨ op.options.fileType = none
  searchText_eq : op.options.fileType ≠ none → op.searchText = ""
  fileType_mem : ∀ fileType ∈ op.options.fileType, fileType ∈ Vocabulary.fileObjectTypes
  prefixPattern_eq : ∀ pattern ∈ op.options.prefixPattern,
    ∃! marker, marker ∈ Pattern.lineMarkers ∧ pattern = (Pattern.marked marker).source
  prefixPattern_ne_tag : op.options.prefixPattern ≠ some (Pattern.marked "tag:").source

theorem shaped_base (hpattern : base.prefixPattern = none) (hfile : base.fileType = none)
    (searchText : String) : Shaped base ⟨searchText, base⟩ := by
  constructor
  . rfl
  . rfl
  . exact .inl hpattern
  . intro hne
    exact absurd hfile hne
  . simp [hfile]
  . simp [hpattern]
  . simp [hpattern]

theorem shaped_fileOperator (hpattern : base.prefixPattern = none) {objectType : String}
    (h : objectType ∈ Vocabulary.fileObjectTypes)
    : Shaped base (Compile.fileOperator base objectType "") := by
  constructor
  . rfl
  . rfl
  . exact .inl hpattern
  . intro _
    rfl
  . simpa [Compile.fileOperator] using h
  . simp [Compile.fileOperator, hpattern]
  . simp [Compile.fileOperator, hpattern]

theorem shaped_inLines (hfile : base.fileType = none) {marker : String}
    (h : marker ∈ Pattern.lineMarkers) (searchText : String)
    : Shaped base (inLines base marker searchText) := by
  constructor
  . rfl
  . rfl
  . exact .inr hfile
  . intro hne
    exact absurd hfile hne
  . simp [inLines, hfile]
  . intro pattern hsome
    obtain rfl : (Pattern.marked marker).source = pattern := by simpa [inLines] using hsome
    refine ⟨marker, ⟨h, rfl⟩, ?_⟩
    rintro other ⟨hother, hsource⟩
    exact (Pattern.eq_of_source_marked_eq h (List.mem_cons_of_mem _ hother) hsource).symm
  . intro htag
    have hsource : (Pattern.marked marker).source = (Pattern.marked "tag:").source := by
      simpa [inLines] using htag
    obtain rfl := Pattern.eq_of_source_marked_eq h List.mem_cons_self hsource
    revert h
    decide

theorem Compiled.shaped (hpattern : base.prefixPattern = none) (hfile : base.fileType = none)
    (h : Compiled base filters ops) : ∀ op ∈ ops, op.Shaped base := by
  induction h with
  | nil => simp
  | text searchText _ ih =>
    rw [List.forall_mem_cons]
    exact ⟨shaped_base hpattern hfile searchText, ih⟩
  | field fieldName hmarker _ _ ih =>
    rw [List.forall_mem_cons]
    exact ⟨shaped_inLines hfile hmarker fieldName, ih⟩
  | file hobject _ ih =>
    rw [List.forall_mem_cons]
    exact ⟨shaped_fileOperator hpattern hobject, ih⟩
  | taken searchText hobject _ ih =>
    have hmarker := Pattern.mem_lineMarkers_of_mem_markedObjectTypes hobject
    rw [List.forall_mem_cons]
    exact ⟨shaped_inLines hfile hmarker searchText, ih⟩
  | discarded _ _ _ ih => exact ih

/--
Whether an operator is restricted neither to lines nor to files of one kind.
-/
def IsPlain (op : Operator) : Prop :=
  op.options.prefixPattern = none ∧ op.options.fileType = none

def Apart (op next : Operator) : Prop :=
  ¬(op.IsPlain ∧ next.IsPlain)

theorem not_isPlain_fileOperator (base : Options) (objectType objectName : String)
    : ¬(Compile.fileOperator base objectType objectName).IsPlain := by
  rintro ⟨_, hfile⟩
  contradiction

theorem not_isPlain_inLines (base : Options) (marker searchText : String)
    : ¬(inLines base marker searchText).IsPlain := by
  rintro ⟨hpattern, _⟩
  contradiction

theorem isChain_cons_of_not_isPlain {op : Operator} (h : ¬op.IsPlain) (hops : ops.IsChain Apart)
    : (op :: ops).IsChain Apart := by
  apply List.IsChain.cons hops
  intro next _ hplain
  exact h hplain.1

theorem Compiled.not_isPlain_head (h : Compiled base filters ops)
    (hhead : ∀ filter ∈ filters.head?, filter.text? = none)
    : ∀ op ∈ ops.head?, ¬op.IsPlain := by
  induction h with
  | nil => simp
  | text searchText _ _ =>
    have := hhead (.text searchText) rfl
    contradiction
  | field fieldName _ _ _ _ => simpa using not_isPlain_inLines base _ fieldName
  | file _ _ _ => simpa using not_isPlain_fileOperator base _ ""
  | taken searchText _ _ _ => simpa using not_isPlain_inLines base _ searchText
  | discarded _ hnext _ ih => exact ih hnext

theorem Compiled.isChain_apart (h : Compiled base filters ops)
    (hfilters : filters.IsChain (Stretch.Apart Filter.text?)) : ops.IsChain Apart := by
  induction h with
  | nil => exact List.isChain_nil
  | text searchText hrest ih =>
    -- no text follows in a merged list, so the next operator comes from another filter
    apply List.IsChain.cons (ih hfilters.tail)
    intro next hnext hplain
    apply hrest.not_isPlain_head _ next hnext hplain.2
    intro filter hfilter
    have hapart := hfilters.rel_head? hfilter
    cases hapart with
    | inl hnone => contradiction
    | inr hnone => exact hnone
  | field fieldName _ _ _ ih =>
    exact isChain_cons_of_not_isPlain (not_isPlain_inLines base _ fieldName) (ih hfilters.tail)
  | file _ _ ih =>
    exact isChain_cons_of_not_isPlain (not_isPlain_fileOperator base _ _) (ih hfilters.tail)
  | taken searchText _ _ ih =>
    have hrest := ih hfilters.tail.tail
    exact isChain_cons_of_not_isPlain (not_isPlain_inLines base _ searchText) hrest
  | discarded _ _ _ ih => exact ih hfilters.tail

theorem Compiled.length_le (h : Compiled base filters ops) : ops.length ≤ filters.length := by
  induction h with
  | nil => exact Nat.le_refl 0
  | text _ _ ih => exact Nat.succ_le_succ ih
  | field _ _ _ _ ih => exact Nat.succ_le_succ ih
  | file _ _ ih => exact Nat.succ_le_succ ih
  | taken _ _ _ ih =>
    simp only [List.length_cons]
    omega
  | discarded _ _ _ ih => exact Nat.le_succ_of_le ih

/--
The search texts of the operators that are not restricted to files of one kind.
-/
def searchTexts (ops : List Operator) : List String :=
  (ops.filter (·.options.fileType.isNone)).map searchText

theorem mem_searchTexts {searchText : String}
    : searchText ∈ searchTexts ops
      ↔ ∃ op ∈ ops, op.options.fileType = none ∧ op.searchText = searchText := by
  simp [searchTexts, and_assoc]

theorem searchTexts_cons {op : Operator} (h : op.options.fileType = none) (ops : List Operator)
    : searchTexts (op :: ops) = op.searchText :: searchTexts ops := by
  simp [searchTexts, h]

theorem searchTexts_inLines (hfile : base.fileType = none) (marker searchText : String)
    (ops : List Operator)
    : searchTexts (inLines base marker searchText :: ops) = searchText :: searchTexts ops := by
  rw [searchTexts_cons]
  . rfl
  . exact hfile

theorem searchTexts_fileOperator (base : Options) (objectType objectName : String)
    (ops : List Operator)
    : searchTexts (Compile.fileOperator base objectType objectName :: ops) = searchTexts ops := rfl

/--
The texts and field names of the filters are searched in their order, and nothing else is.
-/
theorem Compiled.searchTexts_eq (hfile : base.fileType = none) (h : Compiled base filters ops)
    : searchTexts ops = filters.filterMap Filter.searched? := by
  induction h with
  | nil => rfl
  | text searchText _ ih =>
    rw [searchTexts_cons hfile, ih]
    rfl
  | field fieldName _ _ _ ih =>
    rw [searchTexts_inLines hfile, ih]
    rfl
  | file _ _ ih =>
    rw [searchTexts_fileOperator, ih]
    rfl
  | taken searchText _ _ ih =>
    rw [searchTexts_inLines hfile, ih]
    rfl
  | discarded _ _ _ ih => exact ih

end Operator

end SearchBox
