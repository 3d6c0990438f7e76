import SearchBox.Proofs.Token.Simulation

/-!
This module contains the shape of the tokens that are read in a query. The main statement is that
they form a canonical list, and that no key and no text is empty unless a query has other blank
characters than spaces.
-/

namespace SearchBox

/--
No blank character but the space occurs in a text.
-/
def Text.BlanksAreSpaces (cs : List Char) : Prop :=
  ∀ c ∈ cs, isBlank c = true → c = ' '

instance (cs : List Char) : Decidable (Text.BlanksAreSpaces cs) :=
  -- named, since a search may find the instance that goes through all characters there are
  List.decidableBAll _ cs

namespace Lexeme

theorem snd_spanText_fst_spanText (cs : List Char) : (spanText (spanText cs).1).2 = [] := by
  induction cs with
  | nil => rfl
  | cons c cs ih =>
    cases hkey : key? (c :: cs) with
    | some read =>
      have hfront : (spanText (c :: cs)).1 = [] := by
        rw [spanText_of_key? (Option.isSome_of_eq_some hkey)]
      rw [hfront]
      rfl
    | none =>
      rw [spanText_cons hkey]
      cases hfront : key? (c :: (spanText cs).1) with
      | none =>
        rw [spanText_cons hfront]
        exact ih
      | some read =>
        -- such a key is there in the whole text, too
        have hcolon := colon_mem_of_key? (Option.isSome_of_eq_some hfront)
        have hwhole := key?_append_of_colon_mem hcolon (spanText cs).2
        rw [List.cons_append, append_spanText, hkey, hfront] at hwhole
        contradiction

theorem unescape_readQuoted_ne_nil {c : Char} (hc : c ≠ '\x27') (cs : List Char)
    : unescape (readQuoted (c :: cs)).1 ≠ [] := by
  by_cases hescape : c = '\\' ∧ cs.head? = some '\x27'
  . obtain ⟨rfl, hhead⟩ := hescape
    obtain ⟨cs, rfl⟩ := List.head?_eq_some_iff.1 hhead
    simp [readQuoted, unescape]
  . rw [readQuoted_cons hc hescape, unescape_cons (head?_readQuoted_ne_quote cs)]
    apply List.cons_ne_nil

theorem getLast?_unescape_readQuoted {cs : List Char} (h : (readQuoted cs).2.1 = true)
    : (unescape (readQuoted cs).1).getLast? ≠ some '\\' := by
  fun_induction readQuoted cs with
  | case1 cs read ih =>
    have hread : unescape ('\\' :: '\x27' :: read.1) = '\x27' :: unescape read.1 := by
      simp [unescape]
    rw [hread]
    by_cases hnil : unescape read.1 = []
    . simp [hnil]
    . rw [List.getLast?_cons_of_ne_nil hnil]
      exact ih h
  | case2 cs => simp [unescape]
  | case3 c cs hescape hquote read ih =>
    simp only [read] at h ih ⊢
    rw [unescape_cons (head?_readQuoted_ne_quote cs)]
    cases cs with
    | nil => contradiction
    | cons d cs =>
      by_cases hd : d = '\x27'
      . -- the value ends here, and a backslash in front of the quote would have escaped it
        subst hd
        have hc : c ≠ '\\' := by
          rintro rfl
          exact hescape cs rfl rfl
        simpa [readQuoted, unescape] using hc
      . rw [List.getLast?_cons_of_ne_nil (unescape_readQuoted_ne_nil hd cs)]
        exact ih h
  | case4 => contradiction

end Lexeme

namespace Token

theorem not_isKeyStart_of_infix {cs ds : List Char} (hpart : ds <:+: cs)
    (h : ∀ start, ¬IsKeyStart cs start) : ∀ start, ¬IsKeyStart ds start := by
  obtain ⟨front, behind, rfl⟩ := hpart
  intro start hstart
  apply h (front.length + start)
  rw [isKeyStart_iff] at hstart ⊢
  have hcolon := Lexeme.colon_mem_of_key? hstart
  have hle : start ≤ ds.length := by
    apply Nat.le_of_not_lt
    intro hlt
    rw [List.drop_eq_nil_of_le (Nat.le_of_lt hlt)] at hcolon
    contradiction
  rw [List.append_assoc, List.drop_length_add_append, List.drop_append_of_le_length hle,
    Lexeme.key?_append_of_colon_mem hcolon, Option.isSome_map]
  exact hstart

theorem wellFormed_token_qualifier {key : List Char} (hkey : ∀ c ∈ key, isStop c = false)
    (spaces : Nat) (value : Lexeme.Value)
    : (Lexeme.qualifier key spaces value).token.WellFormed := by
  refine ⟨rfl, ?_, ?_⟩
  . rw [String.toList_ofList, Text.trim_trim]
  . intro c hc
    rw [String.toList_ofList] at hc
    exact hkey c ((Text.trim_infix_self key).subset hc)

theorem wellFormed_token_text {spelling : List Char} (h : ∀ start, ¬IsKeyStart spelling start)
    : (Lexeme.text spelling).token.WellFormed := by
  refine ⟨?_, ?_⟩
  . rw [String.toList_ofList, Text.trim_trim]
  . rw [String.toList_ofList]
    exact not_isKeyStart_of_infix (Text.trim_infix_self spelling) h

theorem wellFormed_token_of_mem_ofText (cs : List Char)
    : ∀ lexeme ∈ Lexeme.ofText cs, lexeme.token.WellFormed := by
  apply Lexeme.forall_mem_ofText
  . intro rest key behind _ hkey
    apply wellFormed_token_qualifier
    exact (Lexeme.key?_eq_some_iff.1 hkey).2.2
  . intro c rest _ _ _
    apply wellFormed_token_text
    exact snd_spanText_eq_nil_iff.1 (Lexeme.snd_spanText_fst_spanText _)

theorem isUnclosed_token_of_readValue_snd {cs : List Char} (h : (Lexeme.readValue cs).2 ≠ [])
    (key : List Char) (spaces : Nat)
    : (Lexeme.qualifier key spaces (Lexeme.readValue cs).1).token.isUnclosed = false := by
  by_cases hquote : cs.head? = some '\x27'
  . obtain ⟨cs, rfl⟩ := List.head?_eq_some_iff.1 hquote
    have hclosed := Lexeme.closed_of_readQuoted_snd h
    have hlast := Lexeme.getLast?_unescape_readQuoted hclosed
    simp [Lexeme.readValue_quote, Lexeme.token, ofKeyValue, isUnclosed, Lexeme.Value.content, hlast]
  . have hspace : ' ' ∉ cs.takeWhile (· != ' ') := by
      intro hmem
      have := List.mem_takeWhile_imp hmem
      contradiction
    have hhead : (cs.takeWhile (· != ' ')).head? ≠ some '\x27' := by
      cases cs with
      | nil => simp
      | cons c cs =>
        have hc : c ≠ '\x27' := by simpa using hquote
        by_cases hbare : c = ' '
        . simp [hbare]
        . simpa [hbare] using hc
    simp [Lexeme.readValue_of_head_ne_quote hquote, Lexeme.token, ofKeyValue, isUnclosed,
      Lexeme.Value.content, hspace, hhead]

theorem isUnclosed_of_mem_dropLast (cs : List Char)
    : ∀ token ∈ ((Lexeme.ofText cs).map Lexeme.token).dropLast, token.isUnclosed = false := by
  induction cs using Lexeme.reading_induction with
  | nil => simp [Lexeme.ofText_nil]
  | space cs ih =>
    rw [Lexeme.ofText_space]
    exact ih
  | qualifier cs key behind hkey ih =>
    rw [Lexeme.ofText_of_key? hkey, List.map_cons]
    by_cases hlast : Lexeme.ofText (Lexeme.readValue (behind.dropWhile (· == ' '))).2 = []
    . simp [hlast]
    . have hrest := Lexeme.ne_nil_of_ofText_ne_nil hlast
      rw [List.dropLast_cons_of_ne_nil (by simpa using hlast), List.forall_mem_cons]
      exact ⟨isUnclosed_token_of_readValue_snd hrest key _, ih⟩
  | freeText c cs hc hkey ih =>
    rw [Lexeme.ofText_of_head_ne_space hc hkey, List.map_cons]
    by_cases hlast : Lexeme.ofText (Lexeme.spanText (c :: cs)).2 = []
    . simp [hlast]
    . rw [List.dropLast_cons_of_ne_nil (by simpa using hlast), List.forall_mem_cons]
      exact ⟨rfl, ih⟩

theorem lead_token_ne_nil {cs : List Char} (hspaces : Text.BlanksAreSpaces cs)
    : ∀ lexeme ∈ Lexeme.ofText cs, lexeme.token.lead ≠ [] := by
  -- a key and a free text start with such a character, and trimming keeps it
  have hblank : ∀ c ∈ cs, c ≠ ' ' → Text.isBlank c = false := by
    intro c hc hne
    rw [Bool.eq_false_iff]
    intro hb
    exact hne (hspaces c hc hb)
  apply Lexeme.forall_mem_ofText
  . intro rest key behind hrest hkey
    obtain ⟨hread, hne, hstop⟩ := Lexeme.key?_eq_some_iff.1 hkey
    obtain ⟨c, key, rfl⟩ := List.exists_cons_of_ne_nil hne
    have hc : c ≠ ' ' := by
      rintro rfl
      have := hstop ' ' List.mem_cons_self
      contradiction
    have hmem : c ∈ cs := hrest.subset (by simp [hread])
    simpa [Lexeme.token, ofKeyValue, lead] using
      Text.trim_ne_nil List.mem_cons_self (hblank c hmem hc)
  . intro c rest hrest hc hkey
    have hmem : c ∈ cs := hrest.subset List.mem_cons_self
    rw [Lexeme.spanText_cons hkey]
    simpa [Lexeme.token, ofText, lead] using
      Text.trim_ne_nil List.mem_cons_self (hblank c hmem hc)

theorem canonical_ofText (cs : List Char) : Canonical ((Lexeme.ofText cs).map Lexeme.token) := by
  constructor
  . simpa using wellFormed_token_of_mem_ofText cs
  . exact isChain_apart_ofText cs
  . exact isUnclosed_of_mem_dropLast cs

theorem canonical_nil : Canonical [] := by
  constructor
  . simp
  . simp
  . simp

theorem canonical_tokenize (query : String) : Canonical (tokenize query) := by
  cases hblank : query.toList.all Text.isBlank with
  | true =>
    rw [tokenize_of_blank hblank]
    exact canonical_nil
  | false =>
    rw [tokenize_of_not_blank hblank]
    exact canonical_ofText query.toList

theorem lead_ne_nil_of_mem_tokenize {query : String}
    (hspaces : Text.BlanksAreSpaces query.toList) : ∀ token ∈ tokenize query, token.lead ≠ [] := by
  cases hblank : query.toList.all Text.isBlank with
  | true => simp [tokenize_of_blank hblank]
  | false =>
    rw [tokenize_of_not_blank hblank]
    simpa using lead_token_ne_nil hspaces

/--
The tokens of a query are in canonical form. If its blank characters are all spaces, no key and no
text among them is empty.
-/
theorem tokenize_normal_form (query : String)
    : Canonical (tokenize query)
      ∧ (Text.BlanksAreSpaces query.toList → ∀ token ∈ tokenize query, token.lead ≠ []) :=
  ⟨canonical_tokenize query, lead_ne_nil_of_mem_tokenize⟩

theorem tokenize_normal_form_backslash
    : let query := "it's  :a'b c:'d\\' \\\\' '  e: \\' f :'g \\"
      Text.BlanksAreSpaces query.toList ∧ Canonical (tokenize query)
        ∧ ∀ token ∈ tokenize query, token.lead ≠ [] := by
  intro query
  have hspaces : Text.BlanksAreSpaces query.toList := by decide
  exact ⟨hspaces, (tokenize_normal_form query).1, (tokenize_normal_form query).2 hspaces⟩

end Token

end SearchBox
