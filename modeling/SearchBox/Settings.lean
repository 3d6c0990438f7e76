import SearchBox.OrderedMap
import SearchBox.Operator.Basic
import SearchBox.Validation.Reader

/-!
This module contains the settings of a server: where they come from, and the options that they give
to each operator of a query. They come from given values and from the environment. No file `.env`
with further variables is assumed.
-/

namespace SearchBox

structure Settings where
  matchCase : Bool := false
  matchWholeWord : Bool := false
  logLevel : String := "INFO"
  serverName : String := "aml-search"
  deriving DecidableEq, Repr, Inhabited

/--
The variables of an environment. Of two with the same name, the last one counts.
-/
abbrev Environment := List (String × String)

structure Modes where
  matchCase : Option Bool := none
  matchWholeWord : Option Bool := none
  deriving DecidableEq, Repr, Inhabited

/--
The value of the variable for a field. Upper and lower case do not differ in its name, and of
several spellings the last one counts.
-/
def Environment.valueFor? (env : Environment) (field : String) : Option String :=
  let name := "aml_search_" ++ field
  ((OrderedMap.ofList env).toList.findRev? (fun entry => entry.1.toLower == name)).map Prod.snd

namespace Settings

/--
The value that is given for a field. Upper and lower case do not differ in its name, and of several
spellings the first one counts.
-/
def given? (given : List (String × Json)) (field : String) : Option Json :=
  (given.find? (fun entry => entry.1.toLower == field)).map Prod.snd

def input? (env : Environment) (given : List (String × Json)) (field : String) : Option Json :=
  (given? given field).or ((env.valueFor? field).map .string)

def load (env : Environment) (given : List (String × Json)) : Checked Settings :=
  let defaults : Settings := {}
  let matchCase := Checked.ofField? "match_case" Json.readBool defaults.matchCase
    (input? env given "match_case")
  let matchWholeWord := Checked.ofField? "match_whole_word" Json.readBool defaults.matchWholeWord
    (input? env given "match_whole_word")
  let logLevel := Checked.ofField? "log_level" Json.readString defaults.logLevel
    (input? env given "log_level")
  let serverName := Checked.ofField? "server_name" Json.readString defaults.serverName
    (input? env given "server_name")
  .map₂ (fun modes names => ⟨modes.1, modes.2, names.1, names.2⟩)
    (.map₂ Prod.mk matchCase matchWholeWord) (.map₂ Prod.mk logLevel serverName)

def baseOptions (settings : Settings) : Options :=
  { matchCase := settings.matchCase, matchWholeWord := settings.matchWholeWord }

def optionsFor (settings : Settings) (modes : Modes) : Options :=
  let base := settings.baseOptions
  { base with
    matchCase := modes.matchCase.getD base.matchCase
    matchWholeWord := modes.matchWholeWord.getD base.matchWholeWord }

def toJson (settings : Settings) : Json :=
  .object [("match_case", .bool settings.matchCase),
    ("match_whole_word", .bool settings.matchWholeWord),
    ("log_level", .string settings.logLevel),
    ("server_name", .string settings.serverName)]

end Settings

end SearchBox
