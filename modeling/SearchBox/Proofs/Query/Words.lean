import SearchBox.Proofs.Filter.Sections
import SearchBox.Proofs.Lexeme.Word
import SearchBox.Proofs.Query.Concatenation
import SearchBox.Proofs.Token.Canonical

/-!
This module contains the filters of words that no qualifier is recognized in. The main statements
are that such words with single spaces between them are searched as they stand in the query, and
that a word is cut in two where a qualifier starts inside of it.
-/

namespace SearchBox

namespace Lexeme

variable {cs : List Char}

theorem filter_word_qualifier {key value : List Char} (hword : Text.IsWord cs)
    (hkey : key? cs = some (key, value))
    : filter (.qualifier key 0 (.bare value))
      = .ofKeyValue (String.ofList key) (String.ofList value) := by
  have htrim : Text.trim key = key := by
    apply Text.trim_of_not_isBlank
    intro c hc
    apply hword.not_isBlank
    simp [eq_of_key? hkey, hc]
  rw [filter, token, htrim]
  rfl

theorem filter_word_text (hword : Text.IsWord cs)
    : filter (.text cs) = .text (String.ofList cs) := by
  rw [filter_text, Text.trim_of_not_isBlank hword.not_isBlank]

/--
A word that starts with a qualifier and is made to a text is that text.
-/
theorem map_filter_ofText_of_key? (hword : Text.IsWord cs) (hquote : ¬[':', '\x27'] <:+: cs)
    (hkey : (key? cs).isSome = true)
    (htexts : ∀ made ∈ (ofText cs).map filter, made.text? ≠ none)
    : (ofText cs).map filter = [.text (String.ofList cs)] := by
  obtain ⟨⟨key, value⟩, hread⟩ := Option.isSome_iff_exists.1 hkey
  have hcs := eq_of_key? hread
  have hhead : value.head? ≠ some '\x27' := by
    intro hhead
    obtain ⟨rest, rfl⟩ := List.head?_eq_some_iff.1 hhead
    exact hquote ⟨key, rest, by simp [hcs]⟩
  rw [ofText_word_qualifier hword hhead hread, List.map_singleton,
    filter_word_qualifier hword hread] at htexts ⊢
  rcases Filter.ofKeyValue_text_or (String.ofList key) (String.ofList value) with hnone | htext
  . exact absurd hnone (htexts _ List.mem_cons_self)
  . rw [htext, hcs]
    congr 2
    apply String.toList_injective
    simp

end Lexeme

namespace Filter

variable {word : String}

theorem ofQuery_of_isWord (hword : Text.IsWord word.toList)
    : ofQuery word = merge ((Lexeme.ofText word.toList).map Lexeme.filter) := by
  obtain ⟨c, hhead, hc⟩ := hword.exists_head?
  exact ofQuery_of_spacesIfBlank (.inr ⟨c, List.mem_of_head? hhead, hc⟩)

theorem ofQuery_uncut_word (hword : Text.IsWord word.toList)
    (hquote : ¬[':', '\x27'] <:+: word.toList)
    (htexts : ∀ filter ∈ ofQuery word, filter.text? ≠ none)
    (hspan : (Lexeme.spanText word.toList).1 = [] ∨ (Lexeme.spanText word.toList).2 = [])
    : ofQuery word = [.text word] := by
  rw [ofQuery_of_isWord hword] at htexts ⊢
  have hfilters : (Lexeme.ofText word.toList).map Lexeme.filter = [.text word] := by
    cases hspan with
    | inl hfront =>
      have hkey := Lexeme.isSome_key?_of_fst_spanText hword.ne_nil hfront
      rw [Lexeme.map_filter_ofText_of_key? hword hquote hkey (text?_ne_none_of_merge htexts),
        String.ofList_toList]
    | inr hbehind =>
      rw [Lexeme.ofText_word_text hword hbehind, List.map_singleton,
        Lexeme.filter_word_text hword, String.ofList_toList]
  rw [hfilters, merge_singleton]

theorem ofQuery_cut_word (hword : Text.IsWord word.toList)
    (hquote : ¬[':', '\x27'] <:+: word.toList)
    (htexts : ∀ filter ∈ ofQuery word, filter.text? ≠ none)
    (hfront : (Lexeme.spanText word.toList).1 ≠ [])
    (hbehind : (Lexeme.spanText word.toList).2 ≠ [])
    : ofQuery word = [.text (String.ofList (Lexeme.spanText word.toList).1 ++ " "
        ++ String.ofList (Lexeme.spanText word.toList).2)] := by
  have hwhole := Lexeme.append_spanText word.toList
  have hfrontWord : Text.IsWord (Lexeme.spanText word.toList).1 := by
    refine ⟨hfront, ?_⟩
    intro c hc
    apply hword.not_isBlank
    rw [← hwhole]
    exact List.mem_append_left _ hc
  have hbehindWord := hword.of_suffix (Lexeme.spanText_snd_suffix _) hbehind
  have hbehindQuote : ¬[':', '\x27'] <:+: (Lexeme.spanText word.toList).2 := by
    intro hmark
    exact hquote (hmark.trans (Lexeme.spanText_snd_suffix _).isInfix)
  rw [ofQuery_of_isWord hword, Lexeme.ofText_word_freeText hword hfront, List.map_cons,
    Lexeme.filter_word_text hfrontWord] at htexts ⊢
  have hrest := (List.forall_mem_cons.1 (text?_ne_none_of_merge htexts)).2
  rw [Lexeme.map_filter_ofText_of_key? hbehindWord hbehindQuote
    (Lexeme.isSome_key?_snd_spanText hbehind) hrest, merge_text_text, merge_singleton]

/--
A word in which no filter but text is found is searched as it is, unless a qualifier starts behind
its front and none before. There, a space that is not part of the word comes into the text.
-/
theorem ofQuery_word (hword : Text.IsWord word.toList)
    (hquote : ¬[':', '\x27'] <:+: word.toList)
    (htexts : ∀ filter ∈ ofQuery word, filter.text? ≠ none)
    : (ofQuery word = [.text word]
        ↔ ∀ start, Token.IsFirstKeyStart word.toList start → start = 0)
      ∧ ∀ start, Token.IsFirstKeyStart word.toList start → 0 < start →
          ofQuery word = [.text (String.ofList (word.toList.take start) ++ " "
            ++ String.ofList (word.toList.drop start))] := by
  have hcut : ∀ start, Token.IsFirstKeyStart word.toList start → 0 < start →
      ofQuery word = [.text (String.ofList (word.toList.take start) ++ " "
        ++ String.ofList (word.toList.drop start))] := by
    intro start hstart hpos
    obtain ⟨hbehind, hlength⟩ := Token.isFirstKeyStart_iff.1 hstart
    have hfront : (Lexeme.spanText word.toList).1 ≠ [] := by
      rw [← List.length_pos_iff, hlength]
      exact hpos
    rw [ofQuery_cut_word hword hquote htexts hfront hbehind,
      Token.spanText_of_isFirstKeyStart hstart]
  refine ⟨⟨?_, ?_⟩, hcut⟩
  . intro hliteral start hstart
    by_contra hne
    have hspaced := hcut start hstart (Nat.pos_of_ne_zero hne)
    rw [hliteral, List.cons.injEq, text.injEq] at hspaced
    -- the word would have a space in it
    apply hword.ne_space ' ' _ rfl
    rw [hspaced.1]
    simp
  . intro hzero
    apply ofQuery_uncut_word hword hquote htexts
    by_cases hbehind : (Lexeme.spanText word.toList).2 = []
    . exact .inr hbehind
    . have hlength := hzero _ (Token.isFirstKeyStart_iff.2 ⟨hbehind, rfl⟩)
      exact .inl (List.eq_nil_of_length_eq_zero hlength)

theorem ofQuery_word_apostrophe
    : Text.IsWord "it's:a:b'".toList ∧ ¬[':', '\x27'] <:+: "it's:a:b'".toList
      ∧ (∀ filter ∈ ofQuery "it's:a:b'", filter.text? ≠ none)
      ∧ (ofQuery "it's:a:b'" = [.text "it's:a:b'"]
        ↔ ∀ start, Token.IsFirstKeyStart "it's:a:b'".toList start → start = 0)
      ∧ ∀ start, Token.IsFirstKeyStart "it's:a:b'".toList start → 0 < start →
          ofQuery "it's:a:b'" = [.text (String.ofList ("it's:a:b'".toList.take start) ++ " "
            ++ String.ofList ("it's:a:b'".toList.drop start))] := by
  have hword : Text.IsWord "it's:a:b'".toList := by decide
  have hquote : ¬[':', '\x27'] <:+: "it's:a:b'".toList := by decide +kernel
  have htexts : ∀ filter ∈ ofQuery "it's:a:b'", filter.text? ≠ none := by decide +kernel
  exact ⟨hword, hquote, htexts, ofQuery_word hword hquote htexts⟩

/--
The quote ends the free text, and the qualifier behind it is joined to it with a space.
-/
theorem not_forall_ofQuery_word_literal
    : ¬∀ word : String, Text.IsWord word.toList → ¬[':', '\x27'] <:+: word.toList →
        (∀ filter ∈ ofQuery word, filter.text? ≠ none) → ofQuery word = [.text word] := by
  intro h
  have hliteral := h "a'b:c" (by decide) (by decide +kernel) (by decide +kernel)
  revert hliteral
  decide +kernel

end Filter

namespace Query

/--
What can stand in a query without making it anything but text: free text whose colons all stand at
its front, or a qualifier that no filter is made of.
-/
inductive Literal : String → Prop where
  | plain (colons : Nat) {rest : String} (hrest : ':' ∉ rest.toList)
    : Literal (String.ofList (List.replicate colons ':') ++ rest)
  | qualifier {key value : String} (hne : key ≠ "") (hkey : ':' ∉ key.toList)
    (hobject : ¬(key = "type" ∧ value ∈ Vocabulary.objectTypes))
    (hfield : ¬(key ∈ Vocabulary.fieldKeys ∧ ∃ c ∈ value.toList, c ≠ ':'))
    : Literal (key ++ ":" ++ value)

/--
A key and a colon with no value behind them.
-/
def Dangling (word : String) : Prop :=
  ∃ key : String, key ≠ "" ∧ ':' ∉ key.toList ∧ word = key ++ ":"

theorem dangling_iff {word : String}
    : Dangling word ↔ word.toList.getLast? = some ':' ∧ word.toList.dropLast ≠ []
        ∧ ':' ∉ word.toList.dropLast := by
  constructor
  . rintro ⟨key, hne, hkey, rfl⟩
    simp [hne, hkey]
  . rintro ⟨hlast, hne, hkey⟩
    refine ⟨String.ofList word.toList.dropLast, ?_, ?_, ?_⟩
    . simpa using hne
    . simpa using hkey
    . apply String.toList_injective
      simp [List.dropLast_append_getLast? _ hlast]

instance (word : String) : Decidable (Dangling word) :=
  decidable_of_iff _ dangling_iff.symm

/--
A word that can stand in a query as text, with no blank character to cut it and no quote to open.
-/
structure LiteralWord (word : String) : Prop where
  isWord : Text.IsWord word.toList
  not_quote : '\x27' ∉ word.toList
  literal : Literal word

end Query

namespace Lexeme

theorem snd_spanText_colons (colons : Nat) {rest : List Char} (hrest : ':' ∉ rest)
    : (spanText (List.replicate colons ':' ++ rest)).2 = [] := by
  induction colons with
  | zero =>
    by_contra hne
    exact hrest (colon_mem_of_snd_spanText hne)
  | succ colons ih =>
    rw [List.replicate_succ, List.cons_append, spanText_cons (key?_stop (by decide) _)]
    exact ih

theorem key?_literal_qualifier {key value : String} (hne : key ≠ "") (hkey : ':' ∉ key.toList)
    (hword : Text.IsWord (key ++ ":" ++ value).toList)
    (hquote : '\x27' ∉ (key ++ ":" ++ value).toList)
    : key? (key ++ ":" ++ value).toList = some (key.toList, value.toList) := by
  have hspelling : (key ++ ":" ++ value).toList = key.toList ++ ':' :: value.toList := by simp
  rw [hspelling] at hword hquote ⊢
  apply key?_append_colon
  . simpa using hne
  . intro c hc
    have hmem : c ∈ key.toList ++ ':' :: value.toList := List.mem_append_left _ hc
    have hspace := hword.ne_space c hmem
    have hcolon : c ≠ ':' := by
      rintro rfl
      exact hkey hc
    have hmark : c ≠ '\x27' := by
      rintro rfl
      exact hquote hmem
    simp [Token.isStop, hspace, hcolon, hmark]

theorem eq_nil_of_isOpen_bare {key spelling : List Char} {spaces : Nat}
    (h : isOpen (.qualifier key spaces (.bare spelling)) = true) : spelling = [] := by
  cases spelling with
  | nil => rfl
  | cons c spelling => contradiction

/--
Such a word is one lexeme, and this lexeme is searched as the word.
-/
theorem exists_ofText_literalWord {word : String} (h : Query.LiteralWord word)
    : ∃ lexeme, ofText word.toList = [lexeme] ∧ lexeme.filter = .text word
        ∧ (lexeme.isOpen = true → Query.Dangling word) := by
  obtain ⟨hword, hquote, hliteral⟩ := h
  cases hliteral with
  | plain colons hrest =>
    refine ⟨_, ofText_word_text hword ?_, ?_, ?_⟩
    . simpa using snd_spanText_colons colons hrest
    . rw [filter_word_text hword, String.ofList_toList]
    . intro hopen
      contradiction
  | @qualifier key value hne hkey hobject hfield =>
    have hread := key?_literal_qualifier hne hkey hword hquote
    have hhead : value.toList.head? ≠ some '\x27' := by
      intro hhead
      apply hquote
      simp [List.mem_of_head? hhead]
    refine ⟨_, ofText_word_qualifier hword hhead hread, ?_, ?_⟩
    . rw [filter_word_qualifier hword hread, String.ofList_toList, String.ofList_toList,
        Filter.ofKeyValue_of_unrecognized hobject hfield]
    . intro hopen
      obtain rfl : value = "" := by simpa using eq_nil_of_isOpen_bare hopen
      exact ⟨key, hne, hkey, String.append_empty⟩

theorem exists_cons_intercalate {word : String} (hword : Text.IsWord word.toList)
    (words : List String)
    : ∃ c cs, (" ".intercalate (word :: words)).toList = c :: cs ∧ Text.isBlank c = false := by
  obtain ⟨c, hhead, hc⟩ := hword.exists_head?
  obtain ⟨cs, hcs⟩ := List.head?_eq_some_iff.1 hhead
  cases words with
  | nil => exact ⟨c, cs, by rw [String.intercalate_singleton, hcs], hc⟩
  | cons next words =>
    refine ⟨c, cs ++ ' ' :: (" ".intercalate (next :: words)).toList, ?_, hc⟩
    simp [String.intercalate_cons_cons, hcs]

/--
The space behind such a word ends its lexeme, unless a value is still to come.
-/
theorem merge_map_filter_ofText_literalWord_append {word : String} (h : Query.LiteralWord word)
    (hdangling : ¬Query.Dangling word) {d : Char} (hd : Text.isBlank d = false) (ds : List Char)
    : Filter.merge ((ofText (word.toList ++ ' ' :: d :: ds)).map filter)
      = Filter.merge (.text word :: Filter.merge ((ofText (d :: ds)).map filter)) := by
  obtain ⟨lexeme, hread, hfilter, hopen⟩ := exists_ofText_literalWord h
  have hclosed : endsOpen word.toList = false := by
    unfold endsOpen
    rw [hread, Bool.eq_false_iff]
    intro hisOpen
    exact hdangling (hopen hisOpen)
  have hend : ∀ spelling, (ofText word.toList).getLast? = some (.text spelling)
      → ∃ b, spelling.getLast? = some b ∧ Text.isBlank b = false := by
    intro spelling hspelling
    rw [getLast?_of_getLast?_ofText hspelling]
    exact h.isWord.exists_getLast?
  rw [ofText_append_space hclosed, merge_map_filter_resume hd ds hend, hread, List.map_singleton,
    hfilter, ← Filter.merge_merge_append_merge, Filter.merge_singleton, List.singleton_append]

theorem merge_map_filter_ofText_words {words : List String} (hne : words ≠ [])
    (hwords : ∀ word ∈ words, Query.LiteralWord word)
    (hlast : ∀ word ∈ words.dropLast, ¬Query.Dangling word)
    : Filter.merge ((ofText (" ".intercalate words).toList).map filter)
      = [.text (" ".intercalate words)] := by
  induction words with
  | nil => contradiction
  | cons word words ih =>
    have hword := hwords word List.mem_cons_self
    cases words with
    | nil =>
      obtain ⟨lexeme, hread, hfilter, _⟩ := exists_ofText_literalWord hword
      rw [String.intercalate_singleton, hread, List.map_singleton, hfilter,
        Filter.merge_singleton]
    | cons next words =>
      rw [List.dropLast_cons_of_ne_nil (List.cons_ne_nil _ _), List.forall_mem_cons] at hlast
      rw [List.forall_mem_cons] at hwords
      obtain ⟨d, ds, hds, hd⟩ := exists_cons_intercalate
        (hwords.2 next List.mem_cons_self).isWord words
      have hwhole : (" ".intercalate (word :: next :: words)).toList
          = word.toList ++ ' ' :: d :: ds := by
        rw [String.intercalate_cons_cons, ← hds]
        simp
      rw [hwhole, merge_map_filter_ofText_literalWord_append hword hlast.1 hd, ← hds,
        ih (List.cons_ne_nil _ _) hwords.2 hlast.2, Filter.merge_text_text,
        Filter.merge_singleton, String.intercalate_cons_cons]

end Lexeme

namespace Filter

/--
Free text and qualifiers that no filter is made of are searched as they stand in the query, if
single spaces stand between them.
-/
theorem ofQuery_words {words : List String} (hne : words ≠ [])
    (hwords : ∀ word ∈ words, Query.LiteralWord word)
    (hlast : ∀ word ∈ words.dropLast, ¬Query.Dangling word)
    : ofQuery (" ".intercalate words) = [.text (" ".intercalate words)] := by
  have hspaces : Query.SpacesIfBlank (" ".intercalate words) := by
    obtain ⟨word, words, rfl⟩ := List.exists_cons_of_ne_nil hne
    obtain ⟨c, cs, hcs, hc⟩ := Lexeme.exists_cons_intercalate
      (hwords word List.mem_cons_self).isWord words
    exact .inr ⟨c, by simp [hcs], hc⟩
  rw [ofQuery_of_spacesIfBlank hspaces, Lexeme.merge_map_filter_ofText_words hne hwords hlast]

theorem ofQuery_words_dangling
    : (∀ word ∈ ["owner:::", "::x", "type:text", "owner:"], Query.LiteralWord word)
      ∧ (∀ word ∈ ["owner:::", "::x", "type:text"], ¬Query.Dangling word)
      ∧ ofQuery "owner::: ::x type:text owner:" = [.text "owner::: ::x type:text owner:"] := by
  have hwords : ∀ word ∈ ["owner:::", "::x", "type:text", "owner:"], Query.LiteralWord word := by
    simp only [List.forall_mem_cons]
    refine ⟨⟨by decide, by decide, ?_⟩, ⟨by decide, by decide, ?_⟩, ⟨by decide, by decide, ?_⟩,
      ⟨by decide, by decide, ?_⟩, List.forall_mem_nil _⟩
    . exact @Query.Literal.qualifier "owner" "::" (by decide) (by decide) (by decide) (by simp)
    . exact @Query.Literal.plain 2 "x" (by decide)
    . exact @Query.Literal.qualifier "type" "text" (by decide) (by decide) (by decide) (by decide)
    . exact @Query.Literal.qualifier "owner" "" (by decide) (by decide) (by decide) (by simp)
  have hlast : ∀ word ∈ ["owner:::", "::x", "type:text"], ¬Query.Dangling word := by decide
  have hquery := ofQuery_words (List.cons_ne_nil _ _) hwords hlast
  have hspelling : " ".intercalate ["owner:::", "::x", "type:text", "owner:"]
      = "owner::: ::x type:text owner:" := by decide +kernel
  rw [hspelling] at hquery
  exact ⟨hwords, hlast, hquery⟩

end Filter

end SearchBox
