import SearchBox.Text.Quoted

/-!
This module contains JSON values. An object is the list of its members in the order in which they
are written, and of members with one name the last one counts. Numbers are exact: an integer, or a
decimal fraction that was written with a point. A fraction beyond the doubles counts as infinite.
There are no lone surrogates in texts.
-/

namespace SearchBox

inductive Json where
  | null
  | bool (value : Bool)
  | int (value : Int)
  /--
  The number `mantissa / 10 ^ exponent`, written with `exponent` digits behind the point.
  -/
  | decimal (mantissa : Int) (exponent : Nat)
  | string (value : String)
  | array (items : List Json)
  | object (members : List (String × Json))
  deriving Repr, Inhabited

namespace Json

/--
The value of the member `name`, if there is one.
-/
def member? (members : List (String × Json)) (name : String) : Option Json :=
  (members.findRev? (fun m => m.1 == name)).map Prod.snd

def ofString? : Option String → Json
  | none => .null
  | some value => .string value

def ofNat (n : Nat) : Json :=
  .int n

/--
The spelling of a number with the point behind the first `point` of its digits. At least one digit
stands on each side of the point.
-/
def positionalText (digits : List Char) (point : Int) : String :=
  let whole := digits.take point.toNat ++ List.replicate (point.toNat - digits.length) '0'
  let part := List.replicate (-point).toNat '0' ++ digits.drop point.toNat
  String.ofList (if whole.isEmpty then ['0'] else whole) ++ "."
    ++ String.ofList (if part.isEmpty then ['0'] else part)

/--
The spelling of a number with the point behind its first digit. An exponent of at least two digits
tells how far the point has to move to the right.
-/
def exponentText (digits : List Char) (exponent : Int) : String :=
  let part := digits.drop 1
  String.ofList (digits.take 1) ++ (if part.isEmpty then "" else "." ++ String.ofList part)
    ++ (if exponent < 0 then "e-" else "e+") ++ (if exponent.natAbs < 10 then "0" else "")
    ++ toString exponent.natAbs

/--
Whether a decimal fraction is a finite double. From the middle between the largest double and the
next power of two on it is none.
-/
def isFinite (mantissa : Int) (exponent : Nat) : Bool :=
  mantissa.natAbs < (Nat.pow 2 1024 - Nat.pow 2 970) * Nat.pow 10 exponent

/--
The spelling of a decimal fraction. From 10 ^ 16 on and below 10 ^ -4 it has an exponent.
-/
def decimalText (mantissa : Int) (exponent : Nat) : String :=
  if mantissa = 0 then
    "0.0"
  else if !isFinite mantissa exponent then
    if mantissa < 0 then "-inf" else "inf"
  else
    let digits := Nat.toDigits 10 mantissa.natAbs
    let point := (digits.length : Int) - exponent
    let digits := (digits.reverse.dropWhile (· == '0')).reverse
    let text :=
      if -4 < point ∧ point ≤ 16 then
        positionalText digits point
      else
        exponentText digits (point - 1)
    if mantissa < 0 then "-" ++ text else text

mutual

def shown : Json → String
  | .null => "None"
  | .bool true => "True"
  | .bool false => "False"
  | .int value => toString value
  | .decimal mantissa exponent => decimalText mantissa exponent
  | .string value => Text.quoted value
  | .array items => "[" ++ ", ".intercalate (shownItems items) ++ "]"
  | .object members => "\x7b" ++ ", ".intercalate (shownMembers members) ++ "\x7d"

def shownItems : List Json → List String
  | [] => []
  | item :: items => shown item :: shownItems items

def shownMembers : List (String × Json) → List String
  | [] => []
  | (name, value) :: members => (Text.quoted name ++ ": " ++ shown value) :: shownMembers members

end

end Json

end SearchBox
