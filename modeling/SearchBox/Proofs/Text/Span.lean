/-!
This module contains the laws of cutting a text before the first character that fails a test. What
stands behind such a character cannot change where the cut is. In front of the cut no character
fails the test.
-/

namespace SearchBox.Text

variable {p : Char → Bool} {c : Char}

theorem takeWhile_append_cons (h : p c = false) (cs ds : List Char)
    : (cs ++ c :: ds).takeWhile p = cs.takeWhile p := by
  rw [List.takeWhile_append]
  split
  . next hall =>
    rw [(List.takeWhile_prefix p).eq_of_length hall]
    simp [h]
  . rfl

theorem dropWhile_append_cons (h : p c = false) (cs ds : List Char)
    : (cs ++ c :: ds).dropWhile p = cs.dropWhile p ++ c :: ds := by
  rw [List.dropWhile_append]
  split
  . next hall =>
    rw [List.isEmpty_iff] at hall
    simp [hall, h]
  . rfl

theorem eq_false_of_dropWhile_eq_cons {cs rest : List Char} (h : cs.dropWhile p = c :: rest)
    : p c = false := by
  have := List.head?_dropWhile_not p cs
  rw [h] at this
  exact this

theorem takeWhile_append_of_dropWhile_ne_nil {cs : List Char} (h : cs.dropWhile p ≠ [])
    (ds : List Char) : (cs ++ ds).takeWhile p = cs.takeWhile p := by
  obtain ⟨d, rest, hrest⟩ := List.exists_cons_of_ne_nil h
  have hd := eq_false_of_dropWhile_eq_cons hrest
  rw [← List.takeWhile_append_dropWhile (p := p) (l := cs), hrest, List.append_assoc,
    List.cons_append, takeWhile_append_cons hd, takeWhile_append_cons hd]

theorem dropWhile_append_of_ne_nil {cs : List Char} (h : cs.dropWhile p ≠ []) (ds : List Char)
    : (cs ++ ds).dropWhile p = cs.dropWhile p ++ ds := by
  rw [List.dropWhile_append, if_neg]
  simpa using h

theorem drop_length_takeWhile (p : Char → Bool) (cs : List Char)
    : cs.drop (cs.takeWhile p).length = cs.dropWhile p := by
  induction cs with
  | nil => rfl
  | cons c cs ih =>
    by_cases hc : p c = true
    . rw [List.takeWhile_cons_of_pos hc, List.dropWhile_cons_of_pos hc, List.length_cons,
        List.drop_succ_cons, ih]
    . rw [List.takeWhile_cons_of_neg hc, List.dropWhile_cons_of_neg hc, List.length_nil,
        List.drop_zero]

/--
The cut is the one offset with no character that fails the test in front of it and none that passes
it there.
-/
theorem length_takeWhile_eq_iff {cs : List Char} {n : Nat}
    : (cs.takeWhile p).length = n
      ↔ n ≤ cs.length ∧ (∀ i d, i < n → cs[i]? = some d → p d = true)
        ∧ ∀ d, cs[n]? = some d → p d = false := by
  induction cs generalizing n with
  | nil =>
    constructor
    . rintro rfl
      simp
    . rintro ⟨hle, _⟩
      exact (Nat.le_zero.1 hle).symm
  | cons c cs ih =>
    cases n with
    | zero =>
      by_cases hc : p c = true
      . simp [hc]
      . simp [hc]
    | succ n =>
      by_cases hc : p c = true
      . rw [List.takeWhile_cons_of_pos hc, List.length_cons, Nat.succ_inj, ih, List.length_cons,
          Nat.succ_le_succ_iff]
        simp only [List.getElem?_cons_succ]
        apply and_congr_right
        intro _
        apply and_congr_left
        intro _
        constructor
        . intro hinside i d hi hd
          cases i with
          | zero =>
            obtain rfl : c = d := by simpa using hd
            exact hc
          | succ i => exact hinside i d (by omega) hd
        . intro hinside i d hi hd
          exact hinside (i + 1) d (by omega) hd
      . rw [List.takeWhile_cons_of_neg hc, List.length_nil]
        simp only [reduceCtorEq, false_iff]
        rintro ⟨_, hinside, _⟩
        exact hc (hinside 0 c (Nat.zero_lt_succ n) rfl)

theorem filter_not_dropWhile (p : Char → Bool) (cs : List Char)
    : (cs.dropWhile p).filter (!p ·) = cs.filter (!p ·) := by
  induction cs with
  | nil => rfl
  | cons c cs ih =>
    by_cases hc : p c = true
    . rw [List.dropWhile_cons_of_pos hc, ih, List.filter_cons_of_neg (by simpa using hc)]
    . rw [List.dropWhile_cons_of_neg hc]

end SearchBox.Text
