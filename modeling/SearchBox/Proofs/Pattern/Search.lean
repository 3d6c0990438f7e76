import Mathlib.Data.List.TakeWhile
import SearchBox.Pattern.Basic

/-!
This module contains the laws of matching a pattern at the front of a text, one for each kind of
piece, and of the search for the first offset at which it matches. A repetition gives no character
back if the rest of the pattern matches behind all that it accepts.
-/

namespace SearchBox.Pattern

theorem matchFront_nil (cs : List Char) : matchFront [] cs = some 0 := by
  rw [matchFront]

theorem matchFront_one_eq_some_iff {atom : Atom} {rest : Pattern} {cs : List Char} {n : Nat}
    : matchFront (.one atom :: rest) cs = some n
      ↔ ∃ c behind m, cs = c :: behind ∧ atom.accepts c = true
        ∧ matchFront rest behind = some m ∧ n = m + 1 := by
  cases cs with
  | nil => simp [matchFront]
  | cons c cs =>
    rw [matchFront]
    split
    . next hc =>
      rw [Option.map_eq_some_iff]
      constructor
      . rintro ⟨m, hm, rfl⟩
        exact ⟨c, cs, m, rfl, hc, hm, rfl⟩
      . rintro ⟨_, _, m, ⟨rfl, rfl⟩, _, hm, rfl⟩
        exact ⟨m, hm, rfl⟩
    . next hc =>
      simp only [reduceCtorEq, false_iff]
      rintro ⟨_, _, _, ⟨rfl, rfl⟩, hacc, _⟩
      exact hc hacc

theorem matchFront_literals_eq_some_iff {ds : List Char} {rest : Pattern} {cs : List Char} {n : Nat}
    : matchFront (ds.map (fun c => .one (.literal c)) ++ rest) cs = some n
      ↔ ∃ behind m, cs = ds ++ behind ∧ matchFront rest behind = some m ∧ n = m + ds.length := by
  induction ds generalizing cs n with
  | nil => simp
  | cons d ds ih =>
    rw [List.map_cons, List.cons_append, matchFront_one_eq_some_iff]
    constructor
    . rintro ⟨c, behind, m, rfl, hc, hm, rfl⟩
      obtain ⟨rest, k, rfl, hk, rfl⟩ := ih.1 hm
      obtain rfl : c = d := by simpa [Atom.accepts] using hc
      exact ⟨rest, k, rfl, hk, by simp [Nat.add_assoc]⟩
    . rintro ⟨behind, m, rfl, hm, rfl⟩
      exact ⟨d, ds ++ behind, m + ds.length, rfl, by simp [Atom.accepts],
        ih.2 ⟨behind, m, rfl, hm, rfl⟩, by simp [Nat.add_assoc]⟩

theorem matchFront_zeroOrMore {atom : Atom} {rest : Pattern} {cs : List Char} {n : Nat}
    (h : matchFront rest (cs.dropWhile atom.accepts) = some n)
    : matchFront (.zeroOrMore atom :: rest) cs
      = some ((cs.takeWhile atom.accepts).length + n) := by
  induction cs with
  | nil => simpa [matchFront] using h
  | cons c cs ih =>
    rw [matchFront]
    split
    . next hc =>
      rw [List.dropWhile_cons_of_pos hc] at h
      rw [ih h, List.takeWhile_cons_of_pos hc, List.length_cons]
      simp only [Option.some.injEq]
      omega
    . next hc =>
      rw [List.dropWhile_cons_of_neg hc] at h
      rw [h, List.takeWhile_cons_of_neg hc, List.length_nil, Nat.zero_add]

theorem searchFrom_of_some {pattern : Pattern} {cs : List Char} {n : Nat}
    (h : matchFront pattern cs = some n) (offset : Nat)
    : searchFrom pattern offset cs = some (offset, offset + n) := by
  unfold searchFrom
  rw [h]

theorem searchFrom_cons_of_none {pattern : Pattern} {c : Char} {cs : List Char}
    (h : matchFront pattern (c :: cs) = none) (offset : Nat)
    : searchFrom pattern offset (c :: cs) = searchFrom pattern (offset + 1) cs := by
  rw [searchFrom, h]

theorem searchFrom_eq_none_iff {pattern : Pattern} {offset : Nat} {cs : List Char}
    : searchFrom pattern offset cs = none ↔ ∀ k, matchFront pattern (cs.drop k) = none := by
  induction cs generalizing offset with
  | nil =>
    cases hfront : matchFront pattern [] with
    | some n => simp [searchFrom_of_some hfront, hfront]
    | none => simp [searchFrom, hfront]
  | cons c cs ih =>
    rw [← Nat.and_forall_add_one]
    cases hfront : matchFront pattern (c :: cs) with
    | some n => simp [searchFrom_of_some hfront, hfront]
    | none => simp [searchFrom_cons_of_none hfront, ih, hfront]

theorem searchFrom_eq_some_iff {pattern : Pattern} {offset start stop : Nat} {cs : List Char}
    : searchFrom pattern offset cs = some (start, stop)
      ↔ ∃ k n, start = offset + k ∧ stop = start + n
        ∧ matchFront pattern (cs.drop k) = some n
        ∧ ∀ j < k, matchFront pattern (cs.drop j) = none := by
  constructor
  . intro h
    induction cs generalizing offset with
    | nil =>
      cases hfront : matchFront pattern [] with
      | some n =>
        rw [searchFrom_of_some hfront, Option.some.injEq, Prod.mk.injEq] at h
        obtain ⟨rfl, rfl⟩ := h
        exact ⟨0, n, rfl, rfl, hfront, by simp⟩
      | none =>
        rw [searchFrom, hfront] at h
        contradiction
    | cons c cs ih =>
      cases hfront : matchFront pattern (c :: cs) with
      | some n =>
        rw [searchFrom_of_some hfront, Option.some.injEq, Prod.mk.injEq] at h
        obtain ⟨rfl, rfl⟩ := h
        exact ⟨0, n, rfl, rfl, hfront, by simp⟩
      | none =>
        rw [searchFrom_cons_of_none hfront] at h
        obtain ⟨k, n, rfl, rfl, hmatch, hearlier⟩ := ih h
        refine ⟨k + 1, n, by omega, rfl, hmatch, ?_⟩
        intro j hj
        cases j with
        | zero => exact hfront
        | succ j => exact hearlier j (by omega)
  . rintro ⟨k, n, rfl, rfl, hmatch, hearlier⟩
    induction k generalizing offset cs with
    | zero => exact searchFrom_of_some hmatch offset
    | succ k ih =>
      have hfront := hearlier 0 (Nat.zero_lt_succ k)
      cases cs with
      | nil =>
        rw [List.drop_nil] at hmatch hfront
        rw [hfront] at hmatch
        contradiction
      | cons c cs =>
        have hbehind : ∀ j < k, matchFront pattern (cs.drop j) = none := by
          intro j hj
          exact hearlier (j + 1) (Nat.succ_lt_succ hj)
        rw [searchFrom_cons_of_none hfront, ih hmatch hbehind]
        simp only [Option.some.injEq, Prod.mk.injEq]
        omega

end SearchBox.Pattern
