import SearchBox.Json.Basic

/-!
This module contains the precision of decimal fractions. A fraction counts as the number with 53
significant bits that is nearest to it, and of two that are equally near as the even one.
-/

namespace SearchBox.Json

/--
The whole number that is nearest to `n / d`, and of two the even one.
-/
def roundDiv (n d : Nat) : Nat :=
  let quotient := n / d
  let twice := 2 * (n % d)
  if twice < d ∨ (twice = d ∧ quotient % 2 = 0) then quotient else quotient + 1

/--
The whole number that `n / d` is with 53 significant bits, if it is one. Between zero and one there
is none.
-/
def wholeOfRatio? (n d : Nat) : Option Nat :=
  if n < d then
    if n = 0 then some 0 else none
  else
    let bits := (n / d).log2
    if bits ≤ 52 then
      let parts := Nat.pow 2 (52 - bits)
      let rounded := roundDiv (n * parts) d
      if rounded % parts = 0 then some (rounded / parts) else none
    else
      let unit := Nat.pow 2 (bits - 52)
      some (roundDiv n (d * unit) * unit)

def wholeOfDecimal? (mantissa : Int) (exponent : Nat) : Option Int :=
  (wholeOfRatio? mantissa.natAbs (Nat.pow 10 exponent)).map fun n =>
    if mantissa < 0 then -(n : Int) else n

end SearchBox.Json
