import SearchBox.Text.Hex

/-!
This module contains percent escapes: a percent sign and two hexadecimal digits in place of an ASCII
character.
-/

namespace SearchBox.Text

def escaped? (high low : Char) : Option Char :=
  match hexValue? high, hexValue? low with
  | some high, some low => if high < 8 then some (Char.ofNat (16 * high + low)) else none
  | _, _ => none

/--
Put the characters in place of their escapes. What is no escape, or the escape of a part of another
character, stays as it is.
-/
def unescapePercent : List Char → List Char
  | '%' :: high :: low :: cs =>
    match escaped? high low with
    | some c => c :: unescapePercent cs
    | none => '%' :: unescapePercent (high :: low :: cs)
  | c :: cs => c :: unescapePercent cs
  | [] => []

end SearchBox.Text
