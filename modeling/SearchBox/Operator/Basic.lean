import SearchBox.Json.Basic

/-!
This module contains the operators that a search engine applies to files, the options they carry,
and their JSON forms.
-/

namespace SearchBox

structure Options where
  matchCase : Bool := false
  matchWholeWord : Bool := false
  /--
  The spelling of the pattern that the line content before a match has to match.
  -/
  prefixPattern : Option String := none
  fileType : Option String := none
  deriving DecidableEq, Repr, Inhabited

structure Operator where
  searchText : String
  options : Options
  deriving DecidableEq, Repr, Inhabited

namespace Options

def fields (options : Options) : List (String × Json) :=
  [("match_case", .bool options.matchCase),
    ("match_whole_word", .bool options.matchWholeWord),
    ("prefix_regex", .ofString? options.prefixPattern),
    ("file_type", .ofString? options.fileType)]

def toJson (options : Options) : Json :=
  .object options.fields

end Options

namespace Operator

def toJson (op : Operator) : Json :=
  .object [("search_text", .string op.searchText), ("options", op.options.toJson)]

def toFlatJson (op : Operator) : Json :=
  .object (op.options.fields ++ [("search_text", .string op.searchText)])

def listToJson (ops : List Operator) : Json :=
  .array (ops.map toJson)

end Operator

end SearchBox
