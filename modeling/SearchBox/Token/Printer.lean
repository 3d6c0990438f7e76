import SearchBox.Token.Basic

/-!
This module contains the printer of tokens. It quotes a value only if it could not be read back
without quotes.
-/

namespace SearchBox.Token

/--
Whether a value can stand without quotes: it has a character, no space, and no quote at its front.
-/
def isBare (value : List Char) : Bool :=
  !value.isEmpty && !value.contains ' ' && value.head? != some '\x27'

def escapeQuotes (value : List Char) : List Char :=
  value.flatMap (fun c => if c = '\x27' then ['\\', '\x27'] else [c])

/--
The spelling of a value. Behind a backslash a closing quote would be read as part of the value, so
there is none.
-/
def renderValue (value : List Char) : List Char :=
  if isBare value then
    value
  else if value.getLast? = some '\\' then
    '\x27' :: escapeQuotes value
  else
    '\x27' :: escapeQuotes value ++ ['\x27']

def render : Token → List Char
  | .keyValue key separator value => key.toList ++ separator.toList ++ renderValue value.toList
  | .text value => value.toList

def renderAll (tokens : List Token) : String :=
  String.ofList (List.intercalate [' '] (tokens.map render))

end SearchBox.Token
