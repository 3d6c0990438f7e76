import SearchBox.Proofs.Query.Shape
import SearchBox.Proofs.Token.Shape

/-!
This module contains the operators that match everything: those with a blank search text and no
file type. The main statement says that a query compiles to such an operator exactly if free text
that trims to nothing stands between recognized qualifiers, which takes a blank character that is
not a space.
-/

namespace SearchBox

namespace Filter

theorem all_isBlank_ofKeyValue {key value searchText : String}
    (h : ofKeyValue key value = .text searchText)
    : searchText.toList.all Text.isBlank = false := by
  -- the colon is not blank
  have hcolon : Text.isBlank ':' = false := by decide
  rcases ofKeyValue_text_or key value with hnone | htext
  . rw [h] at hnone
    contradiction
  . rw [h, text.injEq] at htext
    simp [htext, hcolon]

theorem isText_of_blank_ofToken {token : Token} {searchText : String}
    (h : ofToken token = .text searchText) (hblank : searchText.toList.all Text.isBlank = true)
    : token.isText = true := by
  cases token with
  | text value => rfl
  | keyValue key separator value =>
    simp [all_isBlank_ofKeyValue h] at hblank

theorem eq_empty_of_blank_ofToken {token : Token} (hwell : token.WellFormed) {searchText : String}
    (h : ofToken token = .text searchText) (hblank : searchText.toList.all Text.isBlank = true)
    : searchText = "" := by
  cases token with
  | keyValue key separator value =>
    simp [all_isBlank_ofKeyValue h] at hblank
  | text value =>
    obtain rfl : value = searchText := by simpa [ofToken] using h
    obtain ⟨htrim, _⟩ := hwell
    rw [← String.toList_eq_nil_iff]
    by_contra hne
    rw [Text.all_isBlank_eq_false_of_trim_eq_self htrim hne] at hblank
    contradiction

theorem all_isBlank_join {front behind : String}
    (h : (front ++ " " ++ behind).toList.all Text.isBlank = true)
    : front.toList.all Text.isBlank = true ∧ behind.toList.all Text.isBlank = true := by
  simp only [String.toList_append, List.all_append, Bool.and_eq_true] at h
  exact ⟨h.1.1, h.2⟩

theorem isText_head_of_blank_merge {tokens : List Token} {searchText : String}
    (h : (merge (tokens.map ofToken)).head? = some (.text searchText))
    (hblank : searchText.toList.all Text.isBlank = true)
    : ∃ token ∈ tokens.head?, token.isText = true := by
  cases tokens with
  | nil => contradiction
  | cons token tokens =>
    refine ⟨token, rfl, ?_⟩
    rw [List.map_cons, merge_cons] at h
    rcases Stretch.prepend_cases lawful_text? (ofToken token) (merge (tokens.map ofToken)) with
      ⟨hcons, _⟩ | ⟨front, behind, rest, hfront, _, hjoin⟩
    . rw [hcons, List.head?_cons, Option.some.injEq] at h
      exact isText_of_blank_ofToken h hblank
    . rw [hjoin, List.head?_cons, Option.some.injEq, text.injEq] at h
      rw [← h] at hblank
      exact isText_of_blank_ofToken hfront (all_isBlank_join hblank).1

theorem eq_empty_of_blank_merge {tokens : List Token} (hwell : ∀ token ∈ tokens, token.WellFormed)
    (hapart : tokens.IsChain Token.Apart) {searchText : String}
    (h : .text searchText ∈ merge (tokens.map ofToken))
    (hblank : searchText.toList.all Text.isBlank = true) : searchText = "" := by
  induction tokens with
  | nil => contradiction
  | cons token tokens ih =>
    rw [List.forall_mem_cons] at hwell
    have htail := ih hwell.2 hapart.tail
    rw [List.map_cons, merge_cons] at h
    rcases Stretch.prepend_cases lawful_text? (ofToken token) (merge (tokens.map ofToken)) with
      ⟨hcons, _⟩ | ⟨front, behind, rest, hfront, hrest, hjoin⟩
    . rw [hcons, List.mem_cons] at h
      cases h with
      | inl htoken => exact eq_empty_of_blank_ofToken hwell.1 htoken.symm hblank
      | inr hmem => exact htail hmem
    . rw [hjoin, List.mem_cons] at h
      cases h with
      | inl htext =>
        rw [text.injEq] at htext
        rw [htext] at hblank
        obtain ⟨hblankFront, hblankBehind⟩ := all_isBlank_join hblank
        -- both parts would be free text, but no free text follows another in a query
        have htoken := isText_of_blank_ofToken hfront hblankFront
        obtain ⟨next, hnext, hnextText⟩ := isText_head_of_blank_merge (by rw [hrest]; rfl)
          hblankBehind
        exact absurd ⟨htoken, hnextText⟩ (hapart.rel_head? hnext)
      | inr hmem =>
        apply htail
        rw [hrest]
        exact List.mem_cons_of_mem _ hmem

theorem eq_empty_of_blank_mem_ofQuery {query searchText : String}
    (h : .text searchText ∈ ofQuery query) (hblank : searchText.toList.all Text.isBlank = true)
    : searchText = "" := by
  have hcanonical := Token.canonical_tokenize query
  rw [ofQuery_eq] at h
  exact eq_empty_of_blank_merge hcanonical.wellFormed hcanonical.apart h hblank

theorem ofToken_eq_empty_iff {token : Token} : ofToken token = .text "" ↔ token = .text "" := by
  constructor
  . intro h
    cases token with
    | text value => simpa [ofToken] using h
    | keyValue key separator value =>
      have := all_isBlank_ofKeyValue h
      contradiction
  . rintro rfl
    rfl

theorem alone_map_ofToken_iff {tokens : List Token}
    : Stretch.Alone text? (.text "") (tokens.map ofToken)
      ↔ Stretch.Alone (text? ∘ ofToken) (.text "") tokens := by
  constructor
  . rintro ⟨front, behind, hmap, hfront, hbehind⟩
    obtain ⟨front, rest, rfl, rfl, hrest⟩ := List.map_eq_append_iff.1 hmap
    obtain ⟨token, behind, rfl, htoken, rfl⟩ := List.map_eq_cons_iff.1 hrest
    obtain rfl := ofToken_eq_empty_iff.1 htoken
    refine ⟨front, behind, rfl, ?_, ?_⟩
    . simpa using hfront
    . simpa using hbehind
  . rintro ⟨front, behind, rfl, hfront, hbehind⟩
    refine ⟨front.map ofToken, behind.map ofToken, by simp [ofToken], ?_, ?_⟩
    . simpa using hfront
    . simpa using hbehind

theorem empty_mem_ofQuery_iff {query : String}
    : .text "" ∈ ofQuery query
      ↔ Stretch.Alone (text? ∘ ofToken) (.text "") (Token.tokenize query) := by
  rw [ofQuery_eq, empty_mem_merge_iff, alone_map_ofToken_iff]

theorem empty_not_mem_ofQuery {query : String} (h : Text.BlanksAreSpaces query.toList)
    : .text "" ∉ ofQuery query := by
  rw [empty_mem_ofQuery_iff]
  rintro ⟨front, behind, htokens, _, _⟩
  have hmem : Token.text "" ∈ Token.tokenize query := by simp [htokens]
  exact Token.lead_ne_nil_of_mem_tokenize h _ hmem rfl

end Filter

namespace Operator

variable {base : Options}

theorem mem_searchTexts_ofQuery (hfile : base.fileType = none) (query searchText : String)
    : searchText ∈ searchTexts (ofQuery base query)
      ↔ ∃ filter ∈ Filter.ofQuery query, filter.searched? = some searchText := by
  rw [(compiled_ofQuery base query).searchTexts_eq hfile, List.mem_filterMap]

theorem eq_empty_of_blank_mem_searchTexts (hfile : base.fileType = none) {query searchText : String}
    (h : searchText ∈ searchTexts (ofQuery base query))
    (hblank : searchText.toList.all Text.isBlank = true)
    : searchText = "" ∧ .text "" ∈ Filter.ofQuery query := by
  obtain ⟨filter, hfilter, hsearched⟩ := (mem_searchTexts_ofQuery hfile query searchText).1 h
  cases filter with
  | object objectType objectName => simp [Filter.searched?] at hsearched
  | field fieldType fieldName =>
    -- the value of a field filter is not blank
    obtain ⟨_, c, hc, hnot, _⟩ := Filter.recognized_of_mem_ofQuery query _ hfilter
    obtain rfl : fieldName = searchText := by simpa [Filter.searched?] using hsearched
    simp [List.all_eq_true.1 hblank c hc] at hnot
  | text text =>
    obtain rfl : text = searchText := by simpa [Filter.searched?] using hsearched
    obtain rfl := Filter.eq_empty_of_blank_mem_ofQuery hfilter hblank
    exact ⟨rfl, hfilter⟩

theorem exists_blank_mem_ofQuery (hfile : base.fileType = none) {query : String}
    (h : .text "" ∈ Filter.ofQuery query)
    : ∃ op ∈ ofQuery base query,
        op.options.fileType = none ∧ op.searchText.toList.all Text.isBlank = true := by
  have hmem := (mem_searchTexts_ofQuery hfile query "").2 ⟨_, h, rfl⟩
  obtain ⟨op, hop, hnone, hsearch⟩ := mem_searchTexts.1 hmem
  refine ⟨op, hop, hnone, ?_⟩
  rw [hsearch]
  rfl

/--
A query compiles to an operator that matches everything exactly if free text in it trims to nothing
and stands between recognized qualifiers. No query is like that whose blank characters are all
spaces.
-/
theorem exists_blank_mem_ofQuery_iff (hfile : base.fileType = none) (query : String)
    : ((∃ op ∈ ofQuery base query,
          op.options.fileType = none ∧ op.searchText.toList.all Text.isBlank = true)
        ↔ Stretch.Alone (Filter.text? ∘ Filter.ofToken) (.text "") (Token.tokenize query))
      ∧ (Text.BlanksAreSpaces query.toList →
          ∀ op ∈ ofQuery base query,
            op.options.fileType = none → op.searchText.toList.all Text.isBlank = false) := by
  have hempty : ∀ op ∈ ofQuery base query, op.options.fileType = none
      → op.searchText.toList.all Text.isBlank = true → .text "" ∈ Filter.ofQuery query := by
    intro op hop hnone hblank
    have hmem := mem_searchTexts.2 ⟨op, hop, hnone, rfl⟩
    exact (eq_empty_of_blank_mem_searchTexts hfile hmem hblank).2
  refine ⟨?_, ?_⟩
  . rw [← Filter.empty_mem_ofQuery_iff]
    constructor
    . rintro ⟨op, hop, hnone, hblank⟩
      exact hempty op hop hnone hblank
    . exact exists_blank_mem_ofQuery hfile
  . intro hspaces op hop hnone
    rw [Bool.eq_false_iff]
    intro hblank
    exact Filter.empty_not_mem_ofQuery hspaces (hempty op hop hnone hblank)

theorem exists_blank_mem_ofQuery_iff_property
    : let base : Options := { matchCase := true }
      let query := "owner:'  ' x type:metric   type:model "
      base.fileType = none ∧ Text.BlanksAreSpaces query.toList
        ∧ ((∃ op ∈ ofQuery base query,
              op.options.fileType = none ∧ op.searchText.toList.all Text.isBlank = true)
            ↔ Stretch.Alone (Filter.text? ∘ Filter.ofToken) (.text "") (Token.tokenize query))
        ∧ ∀ op ∈ ofQuery base query,
            op.options.fileType = none → op.searchText.toList.all Text.isBlank = false := by
  intro base query
  have hspaces : Text.BlanksAreSpaces query.toList := by decide
  have hfile : base.fileType = none := rfl
  have hblank := exists_blank_mem_ofQuery_iff hfile query
  exact ⟨hfile, hspaces, hblank.1, hblank.2 hspaces⟩

/--
A tab between two qualifiers becomes an empty text, which the first of them takes.
-/
theorem not_forall_ofQuery_not_blank
    : ¬∀ op ∈ ofQuery {} "type:dimension \t type:model",
        op.options.fileType = none → op.searchText.toList.all Text.isBlank = false := by
  decide +kernel

end Operator

end SearchBox
