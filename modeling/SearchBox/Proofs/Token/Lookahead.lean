import SearchBox.Proofs.Token.Unread

/-!
This module contains the laws of the lookahead: the table holds what a fresh lookahead finds, and
the scanner sees a qualifier where the grammar reads one.
-/

namespace SearchBox.Token

variable {text : Array Char} {position : Nat}

theorem stopAfter_of_lt (h : position < text.size)
    : stopAfter text position
      = if isStop text[position] = true then position else stopAfter text (position + 1) := by
  unfold stopAfter
  rw [advance]
  cases hstop : isStop text[position] with
  | false => simp [h, hstop]
  | true => simp [h, hstop]

theorem stopAfter_size (text : Array Char) : stopAfter text text.size = text.size := by
  unfold stopAfter
  rw [advance]
  simp

theorem fillStops_stopAfter (text : Array Char) (position : Nat) (h : position ≤ text.size)
    (answers : List Nat)
    : fillStops text position (stopAfter text position) answers
      = (List.range position).map (stopAfter text) ++ answers := by
  -- the answer carried along is always the one for the offset that was filled last
  induction position generalizing answers with
  | zero => rfl
  | succ position ih =>
    have hlt : position < text.size := h
    have hstop : (if text[position]?.any isStop then position else stopAfter text (position + 1))
        = stopAfter text position := by
      rw [stopAfter_of_lt hlt, Array.getElem?_eq_getElem hlt]
      rfl
    rw [fillStops, hstop, ih (Nat.le_of_lt hlt), List.range_succ]
    simp

theorem toList_stopTable (text : Array Char)
    : (stopTable text).toList = (List.range (text.size + 1)).map (stopAfter text) := by
  have hfill := fillStops_stopAfter text text.size (Nat.le_refl _) [text.size]
  rw [stopAfter_size] at hfill
  simp [stopTable, hfill, List.range_succ, stopAfter_size]

theorem getElem?_stopTable (h : position ≤ text.size)
    : (stopTable text)[position]? = some (stopAfter text position) := by
  have hlt : position < text.size + 1 := by omega
  rw [← Array.getElem?_toList, toList_stopTable]
  simp [hlt]

theorem getD_stopTable (h : position ≤ text.size)
    : (stopTable text).getD position text.size = stopAfter text position := by
  rw [Array.getD_eq_getD_getElem?, getElem?_stopTable h, Option.getD_some]

theorem slice_stopAfter (text : Array Char) (position : Nat)
    : slice text position (stopAfter text position)
      = (unread text position).takeWhile (!isStop ·) := by
  apply slice_advance (!isStop ·)

theorem unread_stopAfter (text : Array Char) (position : Nat)
    : unread text (stopAfter text position) = (unread text position).dropWhile (!isStop ·) := by
  apply unread_advance (!isStop ·)

theorem key?_unread {stop : Nat → Nat} (hstop : stop position = stopAfter text position)
    : Lexeme.key? (unread text position)
      = if atKey text stop position = true then
          some (slice text position (stop position), unread text (stop position + 1))
        else
          none := by
  rw [Lexeme.key?, ← slice_stopAfter, ← unread_stopAfter, ← hstop]
  split
  . next c key rest hkey hrest =>
    have hlt : position < stop position := by
      apply Nat.lt_of_not_le
      intro hle
      rw [slice_of_le text hle] at hkey
      contradiction
    have hcolon : text[stop position]? = some ':' := by
      rw [← head?_unread, hrest]
      rfl
    have hat : atKey text stop position = true := by simp [atKey, hlt, hcolon]
    rw [unread_of_getElem?_eq_some hcolon, List.cons.injEq] at hrest
    rw [if_pos hat, hkey, hrest.2]
  . next hnone =>
    rw [if_neg]
    intro hat
    have hcolon : text[stop position]? = some ':' := by simp_all [atKey]
    have hne := slice_ne_nil (lt_of_atKey hat) (Nat.le_of_lt (lt_size_of_atKey hat))
    obtain ⟨c, key, hkey⟩ := List.exists_cons_of_ne_nil hne
    exact hnone c key _ hkey (unread_of_getElem?_eq_some hcolon)

end SearchBox.Token
