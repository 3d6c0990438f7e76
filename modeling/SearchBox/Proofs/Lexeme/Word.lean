import SearchBox.Proofs.Lexeme.Append

/-!
This module contains the lexemes of words. A word has no blank character in it, so it is one
qualifier from its front on, or free text as a whole, or free text and one qualifier behind it.
-/

namespace SearchBox

/--
A text without blank characters, which is not empty.
-/
structure Text.IsWord (cs : List Char) : Prop where
  ne_nil : cs ≠ []
  not_isBlank : ∀ c ∈ cs, isBlank c = false

instance (cs : List Char) : Decidable (Text.IsWord cs) :=
  decidable_of_iff (cs ≠ [] ∧ cs.all (!Text.isBlank ·) = true)
    ⟨fun h => ⟨h.1, by simpa using h.2⟩, fun h => ⟨h.ne_nil, by simpa using h.not_isBlank⟩⟩

namespace Text.IsWord

variable {cs : List Char}

theorem exists_head? (h : IsWord cs) : ∃ c, cs.head? = some c ∧ isBlank c = false := by
  obtain ⟨c, ds, rfl⟩ := List.exists_cons_of_ne_nil h.ne_nil
  exact ⟨c, rfl, h.not_isBlank c List.mem_cons_self⟩

theorem exists_getLast? (h : IsWord cs) : ∃ c, cs.getLast? = some c ∧ isBlank c = false := by
  obtain ⟨c, hc⟩ := Option.isSome_iff_exists.1 (List.getLast?_isSome.2 h.ne_nil)
  exact ⟨c, hc, h.not_isBlank c (List.mem_of_getLast? hc)⟩

theorem ne_space (h : IsWord cs) : ∀ c ∈ cs, c ≠ ' ' := by
  rintro c hc rfl
  have := h.not_isBlank ' ' hc
  contradiction

theorem of_suffix {ds : List Char} (h : IsWord cs) (hsuffix : ds <:+ cs) (hne : ds ≠ [])
    : IsWord ds := by
  refine ⟨hne, ?_⟩
  intro c hc
  exact h.not_isBlank c (hsuffix.subset hc)

end Text.IsWord

namespace Lexeme

variable {cs : List Char}

theorem ofText_word_qualifier {key value : List Char} (hword : Text.IsWord cs)
    (hquote : value.head? ≠ some '\x27') (hkey : key? cs = some (key, value))
    : ofText cs = [.qualifier key 0 (.bare value)] := by
  have hspace : ∀ c ∈ value, c ≠ ' ' := by
    intro c hc
    apply hword.ne_space
    simp [eq_of_key? hkey, hc]
  have hhead : ∀ hpos : 0 < value.length, ¬(value[0] == ' ') = true := by
    intro hpos
    simpa using hspace _ (List.getElem_mem hpos)
  have htakeSpaces : value.takeWhile (· == ' ') = [] := List.takeWhile_eq_nil_iff.2 hhead
  have hdropSpaces : value.dropWhile (· == ' ') = value := List.dropWhile_eq_self_iff.2 hhead
  have htake : value.takeWhile (· != ' ') = value := by
    rw [List.takeWhile_eq_self_iff]
    simpa using hspace
  have hdrop : value.dropWhile (· != ' ') = [] := by
    rw [List.dropWhile_eq_nil_iff]
    simpa using hspace
  rw [ofText_of_key? hkey, hdropSpaces, readValue_of_head_ne_quote hquote, htakeSpaces, htake,
    hdrop, ofText_nil]
  rfl

theorem ofText_word_freeText (hword : Text.IsWord cs) (hfront : (spanText cs).1 ≠ [])
    : ofText cs = .text (spanText cs).1 :: ofText (spanText cs).2 := by
  obtain ⟨c, cs, rfl⟩ := List.exists_cons_of_ne_nil hword.ne_nil
  apply ofText_of_head_ne_space
  . exact hword.ne_space c List.mem_cons_self
  . rw [← Option.not_isSome_iff_eq_none]
    intro hkey
    rw [spanText_of_key? hkey] at hfront
    contradiction

theorem ofText_word_text (hword : Text.IsWord cs) (hspan : (spanText cs).2 = [])
    : ofText cs = [.text cs] := by
  have hfront := spanText_fst_of_snd_eq_nil hspan
  rw [ofText_word_freeText hword (by rw [hfront]; exact hword.ne_nil), hfront, hspan, ofText_nil]

theorem isSome_key?_of_fst_spanText (hne : cs ≠ []) (hspan : (spanText cs).1 = [])
    : (key? cs).isSome = true := by
  have hwhole := append_spanText cs
  rw [hspan, List.nil_append] at hwhole
  rw [← hwhole]
  apply isSome_key?_snd_spanText
  rw [hwhole]
  exact hne

end Lexeme

end SearchBox
