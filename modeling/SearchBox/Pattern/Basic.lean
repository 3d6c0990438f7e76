import SearchBox.Text.Blank
import SearchBox.Pattern.Escape

/-!
This module contains the patterns that an operator can carry: sequences of single characters and of
repeated ones, their spelling, and the search for the leftmost match. Repetitions are greedy and
give characters back when the rest of the pattern needs them.
-/

namespace SearchBox

inductive Pattern.Atom where
  | blank
  /--
  All characters but the newline.
  -/
  | inLine
  | literal (c : Char)
  deriving DecidableEq, Repr

inductive Pattern.Piece where
  | one (atom : Atom)
  | oneOrMore (atom : Atom)
  | zeroOrMore (atom : Atom)
  deriving DecidableEq, Repr

abbrev Pattern := List Pattern.Piece

namespace Pattern

def Atom.accepts : Atom → Char → Bool
  | .blank, c => Text.isBlank c
  | .inLine, c => c != '\n'
  | .literal d, c => c == d

def Atom.source : Atom → List Char
  | .blank => ['\\', 's']
  | .inLine => ['.']
  | .literal c => escapeChar c

def Piece.source : Piece → List Char
  | .one atom => atom.source
  | .oneOrMore atom => atom.source ++ ['+']
  | .zeroOrMore atom => atom.source ++ ['*']

def source (pattern : Pattern) : String :=
  String.ofList (pattern.flatMap Piece.source)

def ofText (text : String) : Pattern :=
  text.toList.map (fun c => .one (.literal c))

/--
The number of pieces, where a piece that must occur and may be repeated counts three times: it is
more than the two pieces that it stands for.
-/
def weight : Pattern → Nat
  | [] => 0
  | .one _ :: rest => weight rest + 1
  | .oneOrMore _ :: rest => weight rest + 3
  | .zeroOrMore _ :: rest => weight rest + 1

/--
The number of characters at the front of `cs` that the pattern matches. Of several possible numbers
it is the one that the leftmost repetition prefers, which takes as much as it can.
-/
def matchFront : Pattern → List Char → Option Nat
  | [], _ => some 0
  | .one _ :: _, [] => none
  | .one atom :: rest, c :: cs =>
    if atom.accepts c then (matchFront rest cs).map (· + 1) else none
  | .oneOrMore atom :: rest, cs => matchFront (.one atom :: .zeroOrMore atom :: rest) cs
  | .zeroOrMore _ :: rest, [] => matchFront rest []
  | .zeroOrMore atom :: rest, c :: cs =>
    if atom.accepts c then
      match matchFront (.zeroOrMore atom :: rest) cs with
      | some n => some (n + 1)
      | none => matchFront rest (c :: cs)
    else
      matchFront rest (c :: cs)
termination_by pattern cs => (cs.length, weight pattern)
decreasing_by all_goals simp_wf; simp only [weight]; omega

/--
The offsets at which the leftmost match in `cs` starts and ends, where `cs` starts at `offset`.
-/
def searchFrom (pattern : Pattern) (offset : Nat) (cs : List Char) : Option (Nat × Nat) :=
  match matchFront pattern cs with
  | some n => some (offset, offset + n)
  | none =>
    match cs with
    | [] => none
    | _ :: cs => searchFrom pattern (offset + 1) cs

def search (pattern : Pattern) (line : String) : Option (Nat × Nat) :=
  searchFrom pattern 0 line.toList

end Pattern

end SearchBox
