import SearchBox.Filter.Entry

/-!
This module contains the JSON form of filters.
-/

namespace SearchBox.Filter

def fields : Filter → List (String × Json)
  | .object objectType objectName =>
    [("object_type", .string objectType), ("object_name", .string objectName)]
  | .field fieldType fieldName =>
    [("field_type", .string fieldType), ("field_name", .string fieldName)]
  | .text searchText => [("search_text", .string searchText)]

def toJson (filter : Filter) : Json :=
  .object (("type", .string (kindOfKey filter.key)) :: filter.fields
    ++ [("key", .string filter.key)])

/--
The filter with this JSON form, if there is one. The key is not looked at.
-/
def ofJson? : Json → Option Filter
  | .object members =>
    match Json.member? members "type" with
    | some (.string "object") =>
      match Json.member? members "object_type", Json.member? members "object_name" with
      | some (.string objectType), some (.string objectName) => some (.object objectType objectName)
      | _, _ => none
    | some (.string "field") =>
      match Json.member? members "field_type", Json.member? members "field_name" with
      | some (.string fieldType), some (.string fieldName) => some (.field fieldType fieldName)
      | _, _ => none
    | some (.string "text") =>
      match Json.member? members "search_text" with
      | some (.string searchText) => some (.text searchText)
      | _ => none
    | _ => none
  | _ => none

def listToJson (filters : List Filter) : Json :=
  .array (filters.map toJson)

end SearchBox.Filter
