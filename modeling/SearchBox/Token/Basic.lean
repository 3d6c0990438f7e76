/-!
This module contains the tokens of the search box language: qualifiers of the form `key:value` and
stretches of free text.
-/

namespace SearchBox

inductive Token where
  | keyValue (key : String) (separator : String) (value : String)
  /--
  A stretch of free text, with the spacing between its words kept.
  -/
  | text (value : String)
  deriving DecidableEq, Repr, Inhabited

namespace Token

def separator : String := ":"

def ofKeyValue (key value : List Char) : Token :=
  .keyValue (String.ofList key) separator (String.ofList value)

def ofText (value : List Char) : Token :=
  .text (String.ofList value)

end Token

end SearchBox
