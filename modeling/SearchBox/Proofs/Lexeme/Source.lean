import SearchBox.Proofs.Lexeme.Reading

/-!
This module contains the way back from the lexemes of a text to the text. A text can be spelled
anew, with another spelling for each of its lexemes and nothing else changed. The main statement is
that a text consists of the sources of its lexemes, and of spaces.
-/

namespace SearchBox.Lexeme

/--
The source of a lexeme without the marks of quoting: the quotes around its value, and the
backslashes before quotes in it.
-/
def unquoted : Lexeme → List Char
  | .qualifier key spaces value => key ++ ':' :: List.replicate spaces ' ' ++ value.content
  | .text spelling => spelling

/--
A text in which each lexeme is spelled by `spell`. What stands between lexemes is kept.
-/
def respell (spell : Lexeme → List Char) (cs : List Char) : List Char :=
  match h : next? cs with
  | none => cs
  | some (lexeme, rest) =>
    have := length_lt_of_next? h
    cs.takeWhile (· == ' ') ++ spell lexeme ++ respell spell rest
termination_by cs.length

variable {spell : Lexeme → List Char}

theorem respell_of_next?_eq_none {cs : List Char} (h : next? cs = none)
    : respell spell cs = cs := by
  rw [respell]
  split
  . rfl
  . next hnext =>
    rw [h] at hnext
    contradiction

theorem respell_of_next?_eq_some {cs rest : List Char} {lexeme : Lexeme}
    (h : next? cs = some (lexeme, rest))
    : respell spell cs = cs.takeWhile (· == ' ') ++ spell lexeme ++ respell spell rest := by
  rw [respell]
  split
  . next hnext =>
    rw [h] at hnext
    contradiction
  . next hnext =>
    rw [h] at hnext
    cases hnext
    rfl

theorem respell_nil : respell spell [] = [] := by
  apply respell_of_next?_eq_none
  rfl

theorem respell_space (cs : List Char) : respell spell (' ' :: cs) = ' ' :: respell spell cs := by
  have hspace := next?_space cs
  cases h : next? cs with
  | none =>
    rw [h] at hspace
    rw [respell_of_next?_eq_none h, respell_of_next?_eq_none hspace]
  | some read =>
    rw [h] at hspace
    rw [respell_of_next?_eq_some h, respell_of_next?_eq_some hspace]
    rfl

theorem respell_of_head_ne_space {c : Char} {cs : List Char} (hc : c ≠ ' ')
    (hkey : key? (c :: cs) = none)
    : respell spell (c :: cs)
      = spell (.text (spanText (c :: cs)).1) ++ respell spell (spanText (c :: cs)).2 := by
  rw [respell_of_next?_eq_some (next?_of_head_ne_space hc hkey)]
  simp [hc]

theorem respell_of_key? {cs key behind : List Char} (hkey : key? cs = some (key, behind))
    : respell spell cs
      = spell (.qualifier key (behind.takeWhile (· == ' ')).length
            (readValue (behind.dropWhile (· == ' '))).1)
          ++ respell spell (readValue (behind.dropWhile (· == ' '))).2 := by
  have hspaces : cs.takeWhile (· == ' ') = [] := by
    cases cs with
    | nil => rfl
    | cons c cs => simpa using head?_ne_space_of_key? hkey
  rw [respell_of_next?_eq_some (next?_of_key? hkey), hspaces, List.nil_append]

theorem respell_congr {other : Lexeme → List Char} {cs : List Char}
    (h : ∀ lexeme ∈ ofText cs, spell lexeme = other lexeme)
    : respell spell cs = respell other cs := by
  induction cs using reading_induction with
  | nil => rw [respell_nil, respell_nil]
  | space cs ih =>
    rw [ofText_space] at h
    rw [respell_space, respell_space, ih h]
  | qualifier cs key behind hkey ih =>
    rw [ofText_of_key? hkey, List.forall_mem_cons] at h
    rw [respell_of_key? hkey, respell_of_key? hkey, h.1, ih h.2]
  | freeText c cs hc hkey ih =>
    rw [ofText_of_head_ne_space hc hkey, List.forall_mem_cons] at h
    rw [respell_of_head_ne_space hc hkey, respell_of_head_ne_space hc hkey, h.1, ih h.2]

theorem flatMap_sublist_respell (spell : Lexeme → List Char) (cs : List Char)
    : ((ofText cs).flatMap spell).Sublist (respell spell cs) := by
  induction cs using reading_induction with
  | nil =>
    rw [ofText_nil]
    exact List.nil_sublist _
  | space cs ih =>
    rw [ofText_space, respell_space]
    exact ih.cons _
  | qualifier cs key behind hkey ih =>
    rw [ofText_of_key? hkey, respell_of_key? hkey, List.flatMap_cons]
    exact (List.append_sublist_append_left _).2 ih
  | freeText c cs hc hkey ih =>
    rw [ofText_of_head_ne_space hc hkey, respell_of_head_ne_space hc hkey, List.flatMap_cons]
    exact (List.append_sublist_append_left _).2 ih

theorem source_readQuoted (cs : List Char)
    : (Value.quoted (readQuoted cs).1 (readQuoted cs).2.1).source ++ (readQuoted cs).2.2
      = '\x27' :: cs := by
  have hread : (readQuoted cs).1 ++ (if (readQuoted cs).2.1 then ['\x27'] else [])
      ++ (readQuoted cs).2.2 = cs := by
    fun_induction readQuoted cs with
    | case1 cs read ih => simpa [read] using ih
    | case2 cs => rfl
    | case3 c cs _ _ read ih => simpa [read] using ih
    | case4 => rfl
  cases hclosed : (readQuoted cs).2.1 with
  | false => simpa [Value.source, hclosed] using hread
  | true => simpa [Value.source, hclosed] using hread

theorem source_readValue (cs : List Char)
    : (readValue cs).1.source ++ (readValue cs).2 = cs := by
  by_cases hquote : cs.head? = some '\x27'
  . obtain ⟨cs, rfl⟩ := List.head?_eq_some_iff.1 hquote
    exact source_readQuoted cs
  . rw [readValue_of_head_ne_quote hquote]
    exact List.takeWhile_append_dropWhile

/--
A text is spelled by its lexemes just as they are. All other characters are spaces.
-/
theorem respell_source (cs : List Char) : respell source cs = cs := by
  induction cs using reading_induction with
  | nil => exact respell_nil
  | space cs ih => rw [respell_space, ih]
  | qualifier cs key behind hkey ih =>
    have hspaces : List.replicate (behind.takeWhile (· == ' ')).length ' '
        = behind.takeWhile (· == ' ') := by
      rw [eq_comm, List.eq_replicate_iff]
      refine ⟨rfl, ?_⟩
      intro c hc
      simpa using List.mem_takeWhile_imp hc
    rw [respell_of_key? hkey, ih, source, hspaces]
    simp only [List.append_assoc, List.cons_append]
    rw [source_readValue, List.takeWhile_append_dropWhile, ← eq_of_key? hkey]
  | freeText c cs hc hkey ih =>
    rw [respell_of_head_ne_space hc hkey, ih]
    exact append_spanText (c :: cs)

example : respell unquoted "k:  'it\\'s' o:'p".toList = "k:  it's o:p".toList := by decide +kernel

theorem unescape_sublist (cs : List Char) : (unescape cs).Sublist cs := by
  fun_induction unescape cs with
  | case1 => exact List.Sublist.refl []
  | case2 c cs hescape ih => exact ih.cons c
  | case3 c cs hescape ih => exact ih.cons_cons c

theorem content_sublist_source (value : Value) : value.content.Sublist value.source := by
  cases value with
  | bare spelling => exact List.Sublist.refl spelling
  | quoted spelling closed =>
    have hcontent := unescape_sublist spelling
    cases closed with
    | false => exact hcontent.cons _
    | true => exact (hcontent.trans (List.sublist_append_left _ _)).cons _

theorem not_quoted_of_not_mem {cs : List Char} (h : '\x27' ∉ cs)
    : (readValue cs).1 = .bare (cs.takeWhile (· != ' ')) := by
  rw [readValue_of_head_ne_quote]
  intro hquote
  exact h (List.mem_of_head? hquote)

/--
Without quotes there is nothing to take away from a text.
-/
theorem respell_unquoted_of_not_mem {cs : List Char} (h : '\x27' ∉ cs)
    : respell unquoted cs = cs := by
  have hsame : ∀ lexeme ∈ ofText cs, unquoted lexeme = source lexeme := by
    apply forall_mem_ofText
    . intro rest key behind hrest hkey
      have hvalue : '\x27' ∉ behind.dropWhile (· == ' ') := by
        intro hmem
        apply h
        apply hrest.subset
        rw [eq_of_key? hkey]
        have := (List.dropWhile_suffix (· == ' ')).subset hmem
        simp [this]
      rw [not_quoted_of_not_mem hvalue]
      rfl
    . intro c rest _ _ _
      rfl
  rw [respell_congr hsame, respell_source]

end SearchBox.Lexeme
