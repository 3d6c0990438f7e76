import Mathlib.Data.List.Basic
import SearchBox.Text.Split

/-!
This module contains the laws of cutting a text at the occurrences of one character. A text that is
put together around such a character is cut into the pieces of both parts. In the other direction,
the pieces in front of a piece and those behind it can be put together again.
-/

namespace SearchBox.Text

variable {separator : Char}

theorem splitOn_eq (separator : Char) (cs : List Char)
    : splitOn separator cs = cs.splitOn separator := by
  induction cs with
  | nil => rfl
  | cons c cs ih =>
    rw [splitOn, List.splitOn_cons_eq_if_modifyHead, ih]
    simp only [beq_iff_eq]
    split
    . rfl
    . cases hpieces : cs.splitOn separator with
      | nil => exact absurd hpieces (List.splitOn_ne_nil separator cs)
      | cons piece pieces => rfl

theorem splitOn_append_cons (separator : Char) (cs ds : List Char)
    : (cs ++ separator :: ds).splitOn separator = cs.splitOn separator ++ ds.splitOn separator := by
  apply List.splitOnP_append_cons
  apply beq_self_eq_true

theorem not_mem_of_mem_splitOn {cs piece : List Char} (h : piece ∈ cs.splitOn separator)
    : separator ∉ piece := by
  induction cs generalizing piece with
  | nil =>
    obtain rfl : piece = [] := by simpa using h
    simp
  | cons c cs ih =>
    rw [List.splitOn_cons_eq_if_modifyHead] at h
    split at h
    . cases List.mem_cons.1 h with
      | inl hempty => simp [hempty]
      | inr hmem => exact ih hmem
    . next hc =>
      rw [beq_iff_eq] at hc
      obtain ⟨first, pieces, hpieces⟩ := List.exists_cons_of_ne_nil
        (List.splitOn_ne_nil separator cs)
      rw [hpieces] at h ih
      rw [List.modifyHead_cons] at h
      cases List.mem_cons.1 h with
      | inl hfirst =>
        rw [hfirst, List.mem_cons, not_or]
        exact ⟨Ne.symm hc, ih List.mem_cons_self⟩
      | inr hmem => exact ih (List.mem_cons_of_mem _ hmem)

theorem intercalate_append_cons (separator : Char) {front : List (List Char)} (hfront : front ≠ [])
    (piece : List Char) (behind : List (List Char))
    : [separator].intercalate (front ++ piece :: behind)
      = [separator].intercalate front ++ separator :: [separator].intercalate (piece :: behind) := by
  induction front with
  | nil => contradiction
  | cons first front ih =>
    cases front with
    | nil => simp [List.intercalate_cons_cons]
    | cons second front =>
      have hrest := ih (List.cons_ne_nil _ _)
      rw [List.cons_append] at hrest
      rw [List.cons_append, List.cons_append, List.intercalate_cons_cons, hrest,
        List.intercalate_cons_cons]
      simp

/--
What ends at a separator, or at the end of the text, is a piece of the text.
-/
theorem splitOn_append_of_ends {piece rest : List Char} (hpiece : separator ∉ piece)
    (hrest : rest = [] ∨ rest.head? = some separator)
    : (piece ++ rest).splitOn separator = piece :: (rest.splitOn separator).tail := by
  cases hrest with
  | inl hnil => simp [hnil, List.splitOn_eq_singleton hpiece]
  | inr hhead =>
    obtain ⟨behind, rfl⟩ := List.head?_eq_some_iff.1 hhead
    rw [splitOn_append_cons, List.splitOn_eq_singleton hpiece, List.singleton_append,
      List.splitOn_cons_eq_if_modifyHead, if_pos (beq_self_eq_true _), List.tail_cons]

theorem exists_append_of_splitOn {cs piece : List Char} {front behind : List (List Char)}
    (hfront : front ≠ []) (h : cs.splitOn separator = front ++ piece :: behind)
    : ∃ rest, cs = [separator].intercalate front ++ separator :: piece ++ rest
        ∧ (rest = [] ∨ rest.head? = some separator) ∧ rest.splitOn separator = [] :: behind := by
  have hcs : cs = [separator].intercalate front
      ++ separator :: [separator].intercalate (piece :: behind) := by
    rw [← intercalate_append_cons separator hfront, ← h, List.intercalate_splitOn]
  have hbehind : ∀ piece ∈ [] :: behind, separator ∉ piece := by
    rw [List.forall_mem_cons]
    refine ⟨List.not_mem_nil, ?_⟩
    intro piece hpiece
    have hmem : piece ∈ cs.splitOn separator := by simp [h, hpiece]
    exact not_mem_of_mem_splitOn hmem
  refine ⟨[separator].intercalate ([] :: behind), ?_, ?_, ?_⟩
  . rw [hcs]
    cases behind with
    | nil => simp
    | cons next behind => simp [List.intercalate_cons_cons]
  . cases behind with
    | nil => simp
    | cons next behind => simp [List.intercalate_cons_cons]
  . apply List.splitOn_intercalate separator hbehind
    apply List.cons_ne_nil

end SearchBox.Text
