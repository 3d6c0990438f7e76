import SearchBox.Filter.Entry
import SearchBox.Operator.Basic
import SearchBox.Pattern.Marker

/-!
This module contains the compilation of filters into operators. It reads the filters from the first
to the last. A filter for a property has no text of its own: it takes the text filter right behind
it, and is discarded if there is none.
-/

namespace SearchBox

inductive Compile.Step where
  | emit (op : Operator)
  | discard (objectType : String)
  deriving DecidableEq, Repr

namespace Compile

def Step.op? : Step → Option Operator
  | .emit op => some op
  | .discard _ => none

def Step.discarded? : Step → Option String
  | .emit _ => none
  | .discard objectType => some objectType

def fileOperator (base : Options) (objectType objectName : String) : Operator :=
  ⟨objectName, { base with fileType := some objectType }⟩

def propertyOperator (base : Options) (objectType searchText : String) : Operator :=
  match Pattern.ofObjectType? objectType with
  | some pattern => ⟨searchText, { base with prefixPattern := some pattern.source }⟩
  | none => ⟨searchText, base⟩

/--
The operator of an object filter of any other type.
-/
def objectOperator (base : Options) (objectType objectName : String) : Operator :=
  ⟨objectName,
    { base with prefixPattern := (Pattern.ofObjectFilterType? objectType).map Pattern.source }⟩

def fieldOperator (base : Options) (fieldType fieldName : String) : Operator :=
  ⟨fieldName, { base with prefixPattern := (Pattern.ofFieldType? fieldType).map Pattern.source }⟩

/--
The steps of the compilation with options `base`, or the error for the first entry that is not a
filter.
-/
def steps {α : Type} (base : Options) : List (Entry α) → Except (NotAFilter α) (List Step)
  | [] => .ok []
  | .foreign value :: _ => .error ⟨value⟩
  | .filter (.text searchText) :: rest =>
    (steps base rest).map (.emit ⟨searchText, base⟩ :: ·)
  | .filter (.field fieldType fieldName) :: rest =>
    (steps base rest).map (.emit (fieldOperator base fieldType fieldName) :: ·)
  | .filter (.object objectType objectName) :: rest =>
    if Vocabulary.isFileObjectType objectType then
      (steps base rest).map (.emit (fileOperator base objectType objectName) :: ·)
    else if Vocabulary.isPropertyType objectType then
      match rest with
      | .filter (.text searchText) :: rest =>
        (steps base rest).map (.emit (propertyOperator base objectType searchText) :: ·)
      | rest => (steps base rest).map (.discard objectType :: ·)
    else
      (steps base rest).map (.emit (objectOperator base objectType objectName) :: ·)

def filterSteps (base : Options) (filters : List Filter) : List Step :=
  match steps base (filters.map (Entry.filter (α := Empty))) with
  | .ok steps => steps
  | .error e => nomatch e.value

end Compile

namespace Operator

def ofEntries {α : Type} (base : Options) (entries : List (Entry α))
    : Except (NotAFilter α) (List Operator) :=
  (Compile.steps base entries).map (List.filterMap Compile.Step.op?)

def ofFilters (base : Options) (filters : List Filter) : List Operator :=
  (Compile.filterSteps base filters).filterMap Compile.Step.op?

end Operator

end SearchBox
