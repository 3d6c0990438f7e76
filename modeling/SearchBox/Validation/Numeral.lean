import SearchBox.Text.Blank
import SearchBox.Validation.Fault

/-!
This module contains the whole numbers that are written in texts. White space may stand around a
number and a sign before it. Zeros at its front do not count, nor do zeros behind a point, and a
single underscore may stand between two digits. The minus sign may also stand behind the zeros.
-/

namespace SearchBox.Numeral

def maxLength : Nat :=
  4300

/--
What remains of a number behind a zero: its first digit that is not zero or its minus sign, and all
that follows. If it has neither, the last zero remains. Underscores among the zeros do not count.
-/
def behindZero (last : Char) : List Char → Option (List Char)
  | [] => some [last]
  | c :: cs =>
    if c = '0' ∨ c = '_' then
      behindZero c cs
    else if c = '.' then
      some (last :: c :: cs)
    else if c = '-' ∨ c.isDigit then
      some (c :: cs)
    else
      none

def withoutZeros : List Char → Option (List Char)
  | [] => none
  | c :: cs =>
    if c = '0' then behindZero c cs else if c.isDigit then some (c :: cs) else none

/--
A number without its fraction, if that consists of zeros. There has to be one zero at least.
-/
def withoutFraction (cs : List Char) : List Char :=
  match cs.dropWhile (· != '.') with
  | _ :: zero :: zeros =>
    if (zero :: zeros).all (· == '0') then cs.takeWhile (· != '.') else cs
  | _ => cs

def hasDouble : List Char → Bool
  | c :: d :: cs => (c == '_' && d == '_') || hasDouble (d :: cs)
  | _ => false

/--
A number without its underscores. It stays as it is if one of them does not stand alone between two
other characters.
-/
def withoutUnderscores (cs : List Char) : List Char :=
  if cs.head? = some '_' ∨ cs.getLast? = some '_' ∨ hasDouble cs then
    cs
  else
    cs.filter (· != '_')

def ofDigits (digits : List Char) : Nat :=
  digits.foldl (fun n c => 10 * n + (c.toNat - '0'.toNat)) 0

def readDigits (cs : List Char) : Except Fault Nat :=
  let digits := cs.takeWhile Char.isDigit
  if cs.head? = some '0' then
    if cs = ['0'] then .ok 0 else .error .unreadableInt
  -- the length counts before what stands behind the digits does
  else if maxLength < digits.length then
    .error .oversizedInt
  else if cs.isEmpty ∨ digits.length < cs.length then
    .error .unreadableInt
  else
    .ok (ofDigits digits)

def readPlain : List Char → Except Fault Int
  | '-' :: cs => (readDigits cs).map fun n => -(n : Int)
  | cs => (readDigits cs).map Int.ofNat

def splitSign : List Char → List Char × List Char
  | '-' :: cs => (['-'], cs)
  | '+' :: cs => ([], cs)
  | cs => ([], cs)

def read (text : String) : Except Fault Int :=
  let (sign, cs) := splitSign (Text.trimBy Text.isWhiteSpace text.toList)
  match withoutZeros cs with
  | none => .error .unreadableInt
  | some cs => readPlain (sign ++ withoutUnderscores (withoutFraction cs))

end SearchBox.Numeral
