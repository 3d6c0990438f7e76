/-!
This module contains the closed vocabularies of the search box language. A word belongs to a
vocabulary only if it is spelled exactly like one of its members.
-/

namespace SearchBox.Vocabulary

def fileTypes : List String :=
  ["model", "dataset", "dashboard", "text"]

/--
The types of the properties that a file can contain.
-/
def propertyTypes : List String :=
  ["datasource", "metric", "dimension", "measure", "tag", "owner"]

/--
The keys that make a qualifier a field filter. A tag is searched as literal text.
-/
def fieldKeys : List String :=
  ["owner", "datasource"]

/--
The values of a `type` qualifier that make it an object filter.
-/
def objectTypes : List String :=
  ["dimension", "measure", "metric", "model", "dataset", "dashboard"]

def fileObjectTypes : List String :=
  ["model", "dataset", "dashboard"]

def isFileType (word : String) : Bool :=
  word ∈ fileTypes

def isPropertyType (word : String) : Bool :=
  word ∈ propertyTypes

def isFieldKey (word : String) : Bool :=
  word ∈ fieldKeys

def isObjectType (word : String) : Bool :=
  word ∈ objectTypes

def isFileObjectType (word : String) : Bool :=
  word ∈ fileObjectTypes

theorem isObjectType_of_isFileObjectType {word : String} (h : isFileObjectType word = true)
    : isObjectType word = true := by
  simp only [isFileObjectType, isObjectType, fileObjectTypes, objectTypes, decide_eq_true_eq,
    List.mem_cons, List.not_mem_nil, or_false] at *
  grind

theorem isObjectType_or_isFileObjectType (word : String)
    : (isObjectType word || isFileObjectType word) = isObjectType word := by
  rw [Bool.or_eq_left_iff_imp]
  exact isObjectType_of_isFileObjectType

theorem isPropertyType_eq_false_of_isFileObjectType {word : String}
    (h : isFileObjectType word = true) : isPropertyType word = false := by
  simp only [isFileObjectType, fileObjectTypes, decide_eq_true_eq, List.mem_cons, List.not_mem_nil,
    or_false] at h
  rcases h with rfl | rfl | rfl <;> decide

end SearchBox.Vocabulary
