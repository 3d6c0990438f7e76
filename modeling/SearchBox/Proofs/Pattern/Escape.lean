import Mathlib.Logic.Function.Basic
import SearchBox.Pattern.Escape

/-!
This module contains the laws of escaping. The reader takes one or two characters at a time, just as
many as escaping makes of one. So the texts that spell nothing but literal text are those that
escaping gives, each of them for one text.
-/

namespace SearchBox.Pattern

variable {c : Char} {cs ds : List Char}

theorem isMeta_backslash : isMeta '\\' = true := by decide

theorem ne_backslash_of_not_isMeta (h : ¬isMeta c = true) : c ≠ '\\' := by
  rintro rfl
  exact h isMeta_backslash

theorem escapeChar_of_isMeta (h : isMeta c = true) : escapeChar c = ['\\', c] := by
  rw [escapeChar, if_pos h]

theorem escapeChar_of_not_isMeta (h : ¬isMeta c = true) : escapeChar c = [c] := by
  rw [escapeChar, if_neg h]

theorem literal?_backslash_cons (h : isMeta c = true) (cs : List Char)
    : literal? ('\\' :: c :: cs) = (literal? cs).map (c :: ·) := by
  simp [literal?, h]

theorem literal?_cons (h : ¬isMeta c = true) (cs : List Char)
    : literal? (c :: cs) = (literal? cs).map (c :: ·) := by
  rw [literal?.eq_def]
  simp only
  rw [if_neg (ne_backslash_of_not_isMeta h), if_neg h]

theorem literal?_escapeChar_append (c : Char) (cs : List Char)
    : literal? (escapeChar c ++ cs) = (literal? cs).map (c :: ·) := by
  by_cases h : isMeta c = true
  . rw [escapeChar_of_isMeta h]
    exact literal?_backslash_cons h cs
  . rw [escapeChar_of_not_isMeta h]
    exact literal?_cons h cs

theorem literal?_escapeChars (cs : List Char) : literal? (escapeChars cs) = some cs := by
  induction cs with
  | nil => rfl
  | cons c cs ih => rw [escapeChars_cons, literal?_escapeChar_append, ih, Option.map_some]

theorem eq_escapeChars_of_literal? (h : literal? cs = some ds) : cs = escapeChars ds := by
  fun_induction literal? cs generalizing ds with
  | case1 =>
    cases h
    rfl
  | case2 => contradiction
  | case3 d rest hd ih =>
    obtain ⟨text, htext, rfl⟩ := Option.map_eq_some_iff.1 h
    rw [escapeChars_cons, escapeChar_of_isMeta hd, ← ih htext]
    rfl
  | case4 => contradiction
  | case5 => contradiction
  | case6 c rest _ hc ih =>
    obtain ⟨text, htext, rfl⟩ := Option.map_eq_some_iff.1 h
    rw [escapeChars_cons, escapeChar_of_not_isMeta hc, ← ih htext]
    rfl

theorem literal?_eq_some_iff : literal? cs = some ds ↔ cs = escapeChars ds := by
  constructor
  . exact eq_escapeChars_of_literal?
  . rintro rfl
    exact literal?_escapeChars ds

example : literal? ['\\', '\\', '\\', '.'] = some ['\\', '.'] := by decide

example : literal? ['\\', '\\', '.'] = none := by decide

theorem escapeChars_injective : Function.Injective escapeChars := by
  intro cs ds h
  have hread := literal?_escapeChars cs
  rw [h, literal?_escapeChars, Option.some.injEq] at hread
  exact hread.symm

/--
Each metacharacter takes one more character, and so escaping is only without effect if there is
none.
-/
theorem length_escapeChars (cs : List Char)
    : (escapeChars cs).length = cs.length + cs.countP isMeta := by
  induction cs with
  | nil => rfl
  | cons c cs ih =>
    rw [escapeChars_cons, List.length_append, ih, List.length_cons, List.countP_cons]
    by_cases h : isMeta c = true
    . rw [escapeChar_of_isMeta h, if_pos h, List.length_cons, List.length_singleton]
      omega
    . rw [escapeChar_of_not_isMeta h, if_neg h, List.length_singleton]
      omega

theorem escapeChars_of_forall_not_isMeta (h : ∀ c ∈ cs, ¬isMeta c = true)
    : escapeChars cs = cs := by
  induction cs with
  | nil => rfl
  | cons c cs ih =>
    rw [List.forall_mem_cons] at h
    rw [escapeChars_cons, escapeChar_of_not_isMeta h.1, ih h.2]
    rfl

theorem escapeChars_eq_self_iff : escapeChars cs = cs ↔ ∀ c ∈ cs, ¬isMeta c = true := by
  constructor
  . intro h
    have hlength := length_escapeChars cs
    rw [h] at hlength
    exact List.countP_eq_zero.1 (by omega)
  . exact escapeChars_of_forall_not_isMeta

/--
An escaped text spells this text and nothing else, and is the only pattern that does.
-/
theorem literal?_escape
    : (∀ (cs : List Char) (text : String),
        literal? cs = some text.toList ↔ cs = (escape text).toList)
      ∧ Function.Injective escape
      ∧ (∀ front behind, escape (front ++ behind) = escape front ++ escape behind)
      ∧ ∀ text, escape text = text ↔ ∀ c ∈ text.toList, ¬isMeta c = true := by
  refine ⟨?_, ?_, ?_, ?_⟩
  . intro cs text
    rw [literal?_eq_some_iff, escape, String.toList_ofList]
  . intro text other h
    apply String.toList_injective
    exact escapeChars_injective (String.ofList_injective h)
  . intro front behind
    rw [escape, escape, escape, String.toList_append, escapeChars_append, String.ofList_append]
  . intro text
    rw [← escapeChars_eq_self_iff, ← String.toList_inj, escape, String.toList_ofList]

end SearchBox.Pattern
