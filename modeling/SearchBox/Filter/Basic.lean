import SearchBox.Text.Blank
import SearchBox.Token.Basic
import SearchBox.Vocabulary

/-!
This module contains the filters that a query is made of, how a token becomes a filter, and the key
of a filter.
-/

namespace SearchBox

inductive Filter where
  /--
  Restricts a search to one type of objects. The queries of this language give the objects no name.
  -/
  | object (objectType : String) (objectName : String)
  | field (fieldType : String) (fieldName : String)
  | text (searchText : String)
  deriving DecidableEq, Repr, Inhabited

namespace Filter

/--
Whether `value` can be the value of a field filter: some character is neither blank nor a colon.
-/
def isFieldValue (value : String) : Bool :=
  value.toList.any (fun c => !Text.isBlank c && c != ':')

def ofKeyValue (key value : String) : Filter :=
  if key = "type" && (Vocabulary.isObjectType value || Vocabulary.isFileObjectType value) then
    .object value ""
  else if Vocabulary.isFieldKey key && isFieldValue value then
    .field key value
  else
    -- what is not recognized is searched as literal text
    .text (key ++ ":" ++ value)

def ofToken : Token → Filter
  | .keyValue key _ value => ofKeyValue key value
  | .text value => .text value

def text? : Filter → Option String
  | .object .. => none
  | .field .. => none
  | .text searchText => some searchText

def kind : Filter → String
  | .object .. => "object"
  | .field .. => "field"
  | .text .. => "text"

def key : Filter → String
  | .object objectType objectName => "object-" ++ objectType ++ "-" ++ objectName
  | .field fieldType fieldName => "field-" ++ fieldType ++ "-" ++ fieldName
  | .text searchText => "text-" ++ searchText

def kindOfKey (key : String) : String :=
  String.ofList (key.toList.takeWhile (· != '-'))

end Filter

end SearchBox
