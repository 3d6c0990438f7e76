import SearchBox.Json.Basic
import SearchBox.OrderedMap

/-!
This module contains what stands between JSON values and their texts. Not all that can be written is
read, what is read has no member twice, and not all of it can be written again.
-/

namespace SearchBox.Json

section

variable (p : Json → Bool)

mutual

/--
Whether `p` holds for a value and for all values in it.
-/
def all : Json → Bool
  | .array items => p (.array items) && allItems items
  | .object members => p (.object members) && allMembers members
  | value => p value

def allItems : List Json → Bool
  | [] => true
  | item :: items => all item && allItems items

def allMembers : List (String × Json) → Bool
  | [] => true
  | (_, value) :: members => all value && allMembers members

end

end

/--
The most digits that a whole number may be written with.
-/
def maxDigits : Nat :=
  4300

/--
Whether a value is read from its text: no whole number in it has too many digits.
-/
def isReadable : Json → Bool :=
  all fun value =>
    match value with
    | .int n => n.natAbs < Nat.pow 10 maxDigits
    | _ => true

/--
Whether there is a text for a value. There is none for an infinite number.
-/
def isWritable : Json → Bool :=
  all fun value =>
    match value with
    | .decimal mantissa exponent => isFinite mantissa exponent
    | _ => true

mutual

/--
A value in which of members with one name only the last one is left, in the place of the first.
-/
def distinct : Json → Json
  | .array items => .array (distinctItems items)
  | .object members => .object (OrderedMap.ofList (distinctMembers members)).toList
  | value => value

def distinctItems : List Json → List Json
  | [] => []
  | item :: items => distinct item :: distinctItems items

def distinctMembers : List (String × Json) → List (String × Json)
  | [] => []
  | (name, value) :: members => (name, distinct value) :: distinctMembers members

end

/--
The value that is read where `written` is written, if it is read.
-/
def decode? (written : Json) : Option Json :=
  if written.isReadable then some written.distinct else none

example : distinct (.object [("a", .int 1), ("b", .null), ("a", .int 2)])
    = .object [("a", .int 2), ("b", .null)] := rfl

end SearchBox.Json
