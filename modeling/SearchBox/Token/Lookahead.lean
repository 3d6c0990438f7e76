import SearchBox.Token.Basic

/-!
This module contains the lookahead of the scanner: from an offset of the text, where the next
character stands that can end a key. A fresh lookahead walks forward from the offset. A table holds
the answers for all offsets of one text and is filled from the end of the text backwards.
-/

namespace SearchBox.Token

/--
The characters that cannot be part of a key: the separator, the space and the quote.
-/
def isStop (c : Char) : Bool :=
  c == ':' || c == ' ' || c == '\x27'

/--
Move from offset `position` to the first offset whose character does not satisfy `keep`, or to the
end of the text.
-/
def advance (text : Array Char) (keep : Nat → Char → Bool) (position : Nat) : Nat :=
  if h : position < text.size then
    if keep position text[position] then advance text keep (position + 1) else position
  else
    position
termination_by text.size - position

theorem le_advance (text : Array Char) (keep : Nat → Char → Bool) (position : Nat)
    : position ≤ advance text keep position := by
  fun_induction advance text keep position with
  | case1 position _ _ ih => omega
  | case2 => omega
  | case3 => omega

theorem advance_le_size (text : Array Char) (keep : Nat → Char → Bool) (position : Nat)
    (h : position ≤ text.size) : advance text keep position ≤ text.size := by
  fun_induction advance text keep position with
  | case1 position hlt _ ih => exact ih hlt
  | case2 => exact h
  | case3 => exact h

theorem lt_advance {text : Array Char} {keep : Nat → Char → Bool} {position : Nat}
    (h : position < text.size) (hkeep : keep position text[position] = true)
    : position < advance text keep position := by
  have := le_advance text keep (position + 1)
  rw [advance]
  simp only [h, hkeep, dite_true, ite_true]
  omega

/--
The least offset at or behind `position` that holds a stop, or the size of the text if there is
none.
-/
def stopAfter (text : Array Char) (position : Nat) : Nat :=
  advance text (fun _ c => !isStop c) position

/--
Put the answers for the offsets below `position` before those collected so far, from the last to the
first. `stop` is the answer for `position`.
-/
def fillStops (text : Array Char) : (position : Nat) → (stop : Nat) → List Nat → List Nat
  | 0, _, answers => answers
  | position + 1, stop, answers =>
    let stop := if text[position]?.any isStop then position else stop
    fillStops text position stop (stop :: answers)

/--
The answers of `stopAfter` for the offsets `0` to `text.size`, filled from the end of the text.
-/
def stopTable (text : Array Char) : Array Nat :=
  (fillStops text text.size text.size [text.size]).toArray

theorem length_fillStops (text : Array Char) (position stop : Nat) (answers : List Nat)
    : (fillStops text position stop answers).length = position + answers.length := by
  induction position generalizing stop answers with
  | zero => simp [fillStops]
  | succ position ih => simp only [fillStops, ih, List.length_cons]; omega

theorem size_stopTable (text : Array Char) : (stopTable text).size = text.size + 1 := by
  simp [stopTable, length_fillStops]

/--
Whether a qualifier starts at offset `position`: the next stop, as `stop` knows it, is a separator
with at least one character before it.
-/
def atKey (text : Array Char) (stop : Nat → Nat) (position : Nat) : Bool :=
  position < stop position && text[stop position]? == some ':'

theorem lt_of_atKey {text : Array Char} {stop : Nat → Nat} {position : Nat}
    (h : atKey text stop position = true) : position < stop position := by
  simp only [atKey, Bool.and_eq_true, decide_eq_true_eq] at h
  exact h.1

theorem lt_size_of_atKey {text : Array Char} {stop : Nat → Nat} {position : Nat}
    (h : atKey text stop position = true) : stop position < text.size := by
  simp only [atKey, Bool.and_eq_true, beq_iff_eq] at h
  exact (Array.getElem?_eq_some_iff.1 h.2).1

end SearchBox.Token
