import SearchBox.Text.Hex
import SearchBox.Text.Printable

/-!
This module contains the quoted form in which messages show a text. It stands in single quotes, or
in double quotes if it has a single quote and no double quote. What cannot be printed is escaped.
-/

namespace SearchBox.Text

def quoteMark (cs : List Char) : Char :=
  if cs.contains '\x27' && !cs.contains '\x22' then '\x22' else '\x27'

def quoteChar (mark c : Char) : List Char :=
  if c == mark || c == '\\' then
    ['\\', c]
  else if c == '\n' then
    ['\\', 'n']
  else if c == '\r' then
    ['\\', 'r']
  else if c == '\t' then
    ['\\', 't']
  else if isPrintable c then
    [c]
  else if c.toNat ≤ 0xFF then
    '\\' :: 'x' :: hex 2 c.toNat
  else if c.toNat ≤ 0xFFFF then
    '\\' :: 'u' :: hex 4 c.toNat
  else
    '\\' :: 'U' :: hex 8 c.toNat

def quoted (text : String) : String :=
  let cs := text.toList
  let mark := quoteMark cs
  String.ofList (mark :: cs.flatMap (quoteChar mark) ++ [mark])

end SearchBox.Text
