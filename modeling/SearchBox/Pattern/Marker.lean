import SearchBox.Pattern.Basic
import SearchBox.Vocabulary

/-!
This module contains the patterns that restrict a search to the lines of one kind of property. Such
a line has a marker, which is a word between blanks, and the text behind it is searched.
-/

namespace SearchBox.Pattern

/--
A blank, the marker, at least one blank, and the rest of the line.
-/
def marked (marker : String) : Pattern :=
  .one .blank :: ofText marker ++ [.oneOrMore .blank, .zeroOrMore .inLine]

theorem source_marked (marker : String)
    : source (marked marker) = "\\s" ++ escape marker ++ "\\s+.*" := by
  rw [← String.toList_inj]
  simp [source, marked, ofText, escape, escapeChars, Piece.source, Atom.source, List.flatMap_map]

def markedObjectTypes : List String :=
  ["dimension", "measure", "metric"]

def markedFieldTypes : List String :=
  ["owner", "tag"]

def ofObjectType? (objectType : String) : Option Pattern :=
  if objectType ∈ markedObjectTypes then some (marked objectType) else none

def ofFieldType? (fieldType : String) : Option Pattern :=
  if fieldType ∈ markedFieldTypes then
    some (marked (fieldType ++ ":"))
  else if fieldType = "datasource" then
    -- the lines of a data source have a marker of their own
    some (marked "data_source_name:")
  else
    none

/--
The pattern for the lines of an object filter's type. A file has no lines of its own kind.
-/
def ofObjectFilterType? (objectType : String) : Option Pattern :=
  if Vocabulary.isFileObjectType objectType then none else ofObjectType? objectType

end SearchBox.Pattern
