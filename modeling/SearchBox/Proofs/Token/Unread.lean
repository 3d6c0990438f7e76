import SearchBox.Proofs.Lexeme.Rules
import SearchBox.Token.Scanner

/-!
This module contains the view of a text that the scanner has not read yet. The scanner moves offsets
over an array, and the grammar takes characters off a list: each read of the scanner is shown to be
the read of the grammar on the text from the offset on.
-/

namespace SearchBox.Token

variable (text : Array Char)

def unread (position : Nat) : List Char :=
  text.toList.drop position

variable {text} {start position : Nat}

theorem unread_of_lt (h : position < text.size)
    : unread text position = text[position] :: unread text (position + 1) := by
  rw [unread, List.drop_eq_getElem_cons (by simpa using h)]
  rfl

theorem unread_of_getElem?_eq_some {c : Char} (h : text[position]? = some c)
    : unread text position = c :: unread text (position + 1) := by
  obtain ⟨hlt, hc⟩ := Array.getElem?_eq_some_iff.1 h
  rw [unread_of_lt hlt, hc]

theorem unread_of_size_le (h : text.size ≤ position) : unread text position = [] := by
  simpa [unread] using h

theorem head?_unread (text : Array Char) (position : Nat)
    : (unread text position).head? = text[position]? := by
  simp [unread]

theorem slice_eq_take (text : Array Char) (start position : Nat)
    : slice text start position = (unread text start).take (position - start) := by
  simp [slice, unread]

theorem unread_eq_drop (h : start ≤ position)
    : unread text position = (unread text start).drop (position - start) := by
  unfold unread
  rw [List.drop_drop]
  congr 1
  omega

theorem slice_append_unread (h : start ≤ position)
    : slice text start position ++ unread text position = unread text start := by
  rw [slice_eq_take, unread_eq_drop h, List.take_append_drop]

theorem slice_append_slice {stop : Nat} (h : start ≤ position) (hstop : position ≤ stop)
    : slice text start position ++ slice text position stop = slice text start stop := by
  have hlength : stop - start = (position - start) + (stop - position) := by omega
  rw [slice_eq_take, slice_eq_take, slice_eq_take, unread_eq_drop h, hlength, List.take_add]

theorem slice_succ (h : position < text.size)
    : slice text position (position + 1) = [text[position]] := by
  have hlength : position + 1 - position = 1 := by omega
  rw [slice_eq_take, unread_of_lt h, hlength]
  rfl

theorem slice_of_le (text : Array Char) (h : position ≤ start) : slice text start position = [] := by
  have hlength : position - start = 0 := by omega
  rw [slice_eq_take, hlength, List.take_zero]

theorem slice_ne_nil (h : start < position) (hle : position ≤ text.size)
    : slice text start position ≠ [] := by
  have hlength : position - start = (position - start - 1) + 1 := by omega
  have hlt : start < text.size := by omega
  rw [slice_eq_take, unread_of_lt hlt, hlength, List.take_succ_cons]
  apply List.cons_ne_nil

theorem unread_advance (p : Char → Bool) (position : Nat)
    : unread text (advance text (fun _ c => p c) position)
      = (unread text position).dropWhile p := by
  fun_induction advance text (fun _ c => p c) position with
  | case1 position h hkeep ih => rw [ih, unread_of_lt h, List.dropWhile_cons_of_pos hkeep]
  | case2 position h hkeep => rw [unread_of_lt h, List.dropWhile_cons_of_neg hkeep]
  | case3 position h => rw [unread_of_size_le (by omega), List.dropWhile_nil]

theorem slice_advance (p : Char → Bool) (position : Nat)
    : slice text position (advance text (fun _ c => p c) position)
      = (unread text position).takeWhile p := by
  -- both sides are what is left of the unread text when the rest is taken away at its end
  have hread : _ = unread text position :=
    slice_append_unread (le_advance text (fun _ c => p c) position)
  rw [unread_advance] at hread
  rw [← List.append_left_inj ((unread text position).dropWhile p), hread,
    List.takeWhile_append_dropWhile]

theorem fst_readQuoted (text : Array Char) (position : Nat) (value : List Char)
    : (readQuoted text position value).1
      = value.reverse ++ Lexeme.unescape (Lexeme.readQuoted (unread text position)).1 := by
  fun_induction readQuoted text position value with
  | case1 position value h hescape ih =>
    rw [ih, unread_of_lt h, unread_of_getElem?_eq_some hescape.2, hescape.1]
    simp [Lexeme.readQuoted, Lexeme.unescape]
  | case2 position value h hescape hquote =>
    rw [unread_of_lt h, hquote]
    simp [Lexeme.readQuoted, Lexeme.unescape]
  | case3 position value h hescape hquote ih =>
    have hescape' : ¬(text[position] = '\\'
        ∧ (unread text (position + 1)).head? = some '\x27') := by
      rw [head?_unread]
      exact hescape
    rw [ih, unread_of_lt h, Lexeme.readQuoted_cons hquote hescape',
      Lexeme.unescape_cons (Lexeme.head?_readQuoted_ne_quote _)]
    simp
  | case4 position value h =>
    rw [unread_of_size_le (by omega)]
    simp [Lexeme.readQuoted, Lexeme.unescape]

theorem unread_readQuoted (text : Array Char) (position : Nat) (value : List Char)
    : unread text (readQuoted text position value).2
      = (Lexeme.readQuoted (unread text position)).2.2 := by
  fun_induction readQuoted text position value with
  | case1 position value h hescape ih =>
    rw [ih, unread_of_lt h, unread_of_getElem?_eq_some hescape.2, hescape.1, Lexeme.readQuoted]
  | case2 position value h hescape hquote =>
    rw [unread_of_lt h, hquote, Lexeme.readQuoted]
  | case3 position value h hescape hquote ih =>
    rw [ih, unread_of_lt h, Lexeme.readQuoted_cons hquote]
    rw [head?_unread]
    exact hescape
  | case4 position value h =>
    rw [unread_of_size_le (by omega), Lexeme.readQuoted]

theorem fst_readValue (text : Array Char) (position : Nat)
    : (readValue text position).1 = (Lexeme.readValue (unread text position)).1.content := by
  unfold readValue
  split
  . next hquote =>
    rw [fst_readQuoted, unread_of_getElem?_eq_some hquote, Lexeme.readValue_quote]
    rfl
  . next hquote =>
    rw [← head?_unread] at hquote
    rw [Lexeme.readValue_of_head_ne_quote hquote]
    apply slice_advance (· != ' ')

theorem unread_readValue (text : Array Char) (position : Nat)
    : unread text (readValue text position).2 = (Lexeme.readValue (unread text position)).2 := by
  unfold readValue
  split
  . next hquote =>
    rw [unread_readQuoted, unread_of_getElem?_eq_some hquote, Lexeme.readValue_quote]
  . next hquote =>
    rw [← head?_unread] at hquote
    rw [Lexeme.readValue_of_head_ne_quote hquote]
    apply unread_advance (· != ' ')

end SearchBox.Token
