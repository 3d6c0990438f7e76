import SearchBox.Proofs.Lexeme.Rules

/-!
This module contains the laws of reading a whole text: one equation for each kind of lexeme that can
stand at its front, and the induction that follows these equations.
-/

namespace SearchBox.Lexeme

theorem ofText_of_next?_eq_none {cs : List Char} (h : next? cs = none) : ofText cs = [] := by
  rw [ofText]
  split
  . rfl
  . next hnext =>
    rw [h] at hnext
    contradiction

theorem ofText_of_next?_eq_some {cs rest : List Char} {lexeme : Lexeme}
    (h : next? cs = some (lexeme, rest)) : ofText cs = lexeme :: ofText rest := by
  rw [ofText]
  split
  . next hnext =>
    rw [h] at hnext
    contradiction
  . next hnext =>
    rw [h] at hnext
    cases hnext
    rfl

theorem next?_space (cs : List Char) : next? (' ' :: cs) = next? cs := rfl

theorem next?_of_head_ne_space {c : Char} {cs : List Char} (hc : c ≠ ' ')
    (hkey : key? (c :: cs) = none)
    : next? (c :: cs) = some (.text (spanText (c :: cs)).1, (spanText (c :: cs)).2) := by
  have hdrop : (c :: cs).dropWhile (· == ' ') = c :: cs := by simp [hc]
  rw [next?, hdrop]
  simp only
  rw [hkey]

theorem next?_of_key? {cs key behind : List Char} (hkey : key? cs = some (key, behind))
    : next? cs = some (.qualifier key (behind.takeWhile (· == ' ')).length
        (readValue (behind.dropWhile (· == ' '))).1, (readValue (behind.dropWhile (· == ' '))).2) := by
  cases cs with
  | nil => contradiction
  | cons c cs =>
    have hc : c ≠ ' ' := by
      rintro rfl
      exact head?_ne_space_of_key? hkey rfl
    have hdrop : (c :: cs).dropWhile (· == ' ') = c :: cs := by simp [hc]
    rw [next?, hdrop]
    simp only
    rw [hkey]

theorem ofText_nil : ofText [] = [] := by
  apply ofText_of_next?_eq_none
  rfl

theorem ne_nil_of_ofText_ne_nil {cs : List Char} (h : ofText cs ≠ []) : cs ≠ [] := by
  rintro rfl
  exact h ofText_nil

theorem ofText_space (cs : List Char) : ofText (' ' :: cs) = ofText cs := by
  have hspace := next?_space cs
  cases h : next? cs with
  | none =>
    rw [h] at hspace
    rw [ofText_of_next?_eq_none h, ofText_of_next?_eq_none hspace]
  | some read =>
    rw [h] at hspace
    rw [ofText_of_next?_eq_some h, ofText_of_next?_eq_some hspace]

theorem ofText_of_key? {cs key behind : List Char} (hkey : key? cs = some (key, behind))
    : ofText cs
      = .qualifier key (behind.takeWhile (· == ' ')).length
          (readValue (behind.dropWhile (· == ' '))).1
        :: ofText (readValue (behind.dropWhile (· == ' '))).2 :=
  ofText_of_next?_eq_some (next?_of_key? hkey)

theorem ofText_of_head_ne_space {c : Char} {cs : List Char} (hc : c ≠ ' ')
    (hkey : key? (c :: cs) = none)
    : ofText (c :: cs) = .text (spanText (c :: cs)).1 :: ofText (spanText (c :: cs)).2 :=
  ofText_of_next?_eq_some (next?_of_head_ne_space hc hkey)

/--
The induction along the lexemes of a text.
-/
@[elab_as_elim]
theorem reading_induction {motive : List Char → Prop} (nil : motive [])
    (space : ∀ cs, motive cs → motive (' ' :: cs))
    (qualifier : ∀ cs key behind, key? cs = some (key, behind)
      → motive (readValue (behind.dropWhile (· == ' '))).2 → motive cs)
    (freeText : ∀ c cs, c ≠ ' ' → key? (c :: cs) = none → motive (spanText (c :: cs)).2
      → motive (c :: cs))
    (cs : List Char) : motive cs := by
  match cs with
  | [] => exact nil
  | c :: cs =>
    by_cases hc : c = ' '
    . subst hc
      exact space cs (reading_induction nil space qualifier freeText cs)
    . cases hkey : key? (c :: cs) with
      | none =>
        have hlt := length_lt_of_next? (next?_of_head_ne_space hc hkey)
        exact freeText c cs hc hkey (reading_induction nil space qualifier freeText _)
      | some read =>
        have hlt := length_lt_of_next? (next?_of_key? hkey)
        exact qualifier _ read.1 read.2 hkey (reading_induction nil space qualifier freeText _)
termination_by cs.length
decreasing_by
  . exact Nat.lt_succ_self _
  . exact hlt
  . exact hlt

theorem readValue_snd_suffix_of_key? {cs key behind : List Char}
    (hkey : key? cs = some (key, behind))
    : (readValue (behind.dropWhile (· == ' '))).2 <:+ cs := by
  rw [eq_of_key? hkey]
  apply List.IsSuffix.trans (readValue_snd_suffix _)
  apply List.IsSuffix.trans (List.dropWhile_suffix _)
  exact (List.suffix_cons _ _).trans (List.suffix_append _ _)

theorem spanText_snd_suffix (cs : List Char) : (spanText cs).2 <:+ cs :=
  ⟨(spanText cs).1, append_spanText cs⟩

/--
What holds of each lexeme that can be read somewhere in a text holds of all of its lexemes.
-/
theorem forall_mem_ofText {P : Lexeme → Prop} {whole : List Char}
    (qualifier : ∀ cs key behind, cs <:+ whole → key? cs = some (key, behind)
      → P (.qualifier key (behind.takeWhile (· == ' ')).length
          (readValue (behind.dropWhile (· == ' '))).1))
    (freeText : ∀ c cs, c :: cs <:+ whole → c ≠ ' ' → key? (c :: cs) = none
      → P (.text (spanText (c :: cs)).1))
    : ∀ lexeme ∈ ofText whole, P lexeme := by
  have hsuffix : ∀ cs, cs <:+ whole → ∀ lexeme ∈ ofText cs, P lexeme := by
    intro cs
    induction cs using reading_induction with
    | nil => simp [ofText_nil]
    | space cs ih =>
      intro hcs
      rw [ofText_space]
      exact ih ((List.suffix_cons _ _).trans hcs)
    | qualifier cs key behind hkey ih =>
      intro hcs
      rw [ofText_of_key? hkey, List.forall_mem_cons]
      exact ⟨qualifier cs key behind hcs hkey, ih ((readValue_snd_suffix_of_key? hkey).trans hcs)⟩
    | freeText c cs hc hkey ih =>
      intro hcs
      rw [ofText_of_head_ne_space hc hkey, List.forall_mem_cons]
      exact ⟨freeText c cs hcs hc hkey, ih ((spanText_snd_suffix _).trans hcs)⟩
  exact hsuffix whole List.suffix_rfl

theorem ofText_all_space {cs : List Char} (h : ∀ c ∈ cs, c = ' ') : ofText cs = [] := by
  induction cs with
  | nil => exact ofText_nil
  | cons c cs ih =>
    rw [h c (by simp), ofText_space]
    exact ih (fun d hd => h d (by simp [hd]))

end SearchBox.Lexeme
