import SearchBox.Operator.Basic
import SearchBox.Validation.Reader

/-!
This module contains the readers of options and operators from the members of JSON objects.
-/

namespace SearchBox

/--
Read options. What is not given has its default.
-/
def Options.ofMembers (members : List (String × Json)) : Checked Options :=
  let matchCase := Checked.ofField? "match_case" Json.readBool false
    (Json.member? members "match_case")
  let matchWholeWord := Checked.ofField? "match_whole_word" Json.readBool false
    (Json.member? members "match_whole_word")
  let prefixPattern := Checked.ofField? "prefix_regex" (Json.readNullable Json.readPattern) none
    (Json.member? members "prefix_regex")
  let fileType := Checked.ofField? "file_type" (Json.readNullable Json.readString) none
    (Json.member? members "file_type")
  .map₂ (fun modes restrictions => ⟨modes.1, modes.2, restrictions.1, restrictions.2⟩)
    (.map₂ Prod.mk matchCase matchWholeWord) (.map₂ Prod.mk prefixPattern fileType)

def Operator.ofInput (searchText : Json) (options : List (String × Json)) : Checked Operator := do
  let options ← Options.ofMembers options
  let searchText ← Checked.ofField "search_text" Json.readString searchText
  return ⟨searchText, options⟩

def Json.readSearchId (id : Json) : Checked Int :=
  Checked.ofField "search_id" Json.readInt id

end SearchBox
