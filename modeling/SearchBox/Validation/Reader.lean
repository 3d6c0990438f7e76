import SearchBox.Json.Precision
import SearchBox.Validation.Numeral

/-!
This module contains the readers of single values. They are lenient: a truth value or a number may
also be given as a text or as a number of another kind.
-/

namespace SearchBox.Json

def trueWords : List String :=
  ["1", "on", "t", "true", "y", "yes"]

def falseWords : List String :=
  ["0", "off", "f", "false", "n", "no"]

/--
Read a truth value from a text. Upper and lower case do not differ.
-/
def boolOfText (text : String) : Except Fault Bool :=
  let word := text.toLower
  if word ∈ trueWords then
    .ok true
  else if word ∈ falseWords then
    .ok false
  else
    .error .unreadableBool

def boolOfInt (n : Int) : Except Fault Bool :=
  if n = 1 then .ok true else if n = 0 then .ok false else .error .unreadableBool

/--
The bound of the numbers of 64 bits with a sign: they are less than it, and not less than its
negative.
-/
def wordBound : Nat :=
  0x8000000000000000

/--
Read a truth value. A whole number beyond 64 bits is no candidate for one.
-/
def readBool : Json → Except Fault Bool
  | .bool value => .ok value
  | .int value =>
    if -(wordBound : Int) ≤ value ∧ value < wordBound then boolOfInt value else .error .notBool
  | .decimal mantissa exponent =>
    match wholeOfDecimal? mantissa exponent with
    | some n => if n.natAbs < wordBound then boolOfInt n else .error .notBool
    | none => .error .notBool
  | .string text => boolOfText text
  | _ => .error .notBool

/--
Read a whole number. A number that was written with a point has to stay below 64 bits.
-/
def readInt : Json → Except Fault Int
  | .bool value => .ok (if value then 1 else 0)
  | .int value => .ok value
  | .decimal mantissa exponent =>
    if isFinite mantissa exponent then
      match wholeOfDecimal? mantissa exponent with
      | some n => if n.natAbs < wordBound then .ok n else .error .oversizedInt
      | none => .error .fractionalInt
    else
      .error .notFinite
  | .string text => Numeral.read text
  | _ => .error .notInt

def readString : Json → Except Fault String
  | .string text => .ok text
  | _ => .error .notString

def readNullable {α : Type} (read : Json → Except Fault α) : Json → Except Fault (Option α)
  | .null => .ok none
  | value => (read value).map some

def readPattern : Json → Except Fault String
  | .string text => .ok text
  | _ => .error .notPattern

end SearchBox.Json
