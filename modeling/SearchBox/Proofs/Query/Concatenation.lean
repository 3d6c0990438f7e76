import SearchBox.Proofs.Query.Filters

/-!
This module contains the concatenation of queries. The main statement is that the filters of two
queries with a space between them are the filters of both, merged once more.
-/

namespace SearchBox

namespace Lexeme

theorem filter_text_append_cons {b d : Char} (hb : Text.isBlank b = false)
    (hd : Text.isBlank d = false) (front behind : List Char)
    : filter (.text (front ++ [b] ++ ' ' :: d :: behind))
      = .text (String.ofList (Text.trim (front ++ [b])) ++ " "
        ++ String.ofList (Text.trim (d :: behind))) := by
  rw [filter_text, Text.trim_concat_append_cons hb hd]
  congr 1
  apply String.toList_injective
  simp

/--
Going on with a text adds the filters of this text, up to merging.
-/
theorem merge_map_filter_resume {d : Char} (hd : Text.isBlank d = false) (ds : List Char)
    {lexemes : List Lexeme}
    (hlast : ∀ spelling, lexemes.getLast? = some (.text spelling)
      → ∃ b, spelling.getLast? = some b ∧ Text.isBlank b = false)
    : Filter.merge ((resume (d :: ds) lexemes).map filter)
      = Filter.merge (lexemes.map filter ++ (ofText (d :: ds)).map filter) := by
  cases hkey : key? (d :: ds) with
  | some read => rw [map_filter_resume (by rw [hkey]; rfl)]
  | none =>
    induction lexemes with
    | nil => rfl
    | cons lexeme lexemes ih =>
      by_cases hnil : lexemes = []
      . subst hnil
        cases lexeme with
        | qualifier key spaces value => rfl
        | text spelling =>
          -- one text in the longer query is two in its parts, and merging joins them again
          obtain ⟨b, hspelling, hb⟩ := hlast spelling rfl
          obtain ⟨front, rfl⟩ := List.getLast?_eq_some_iff.1 hspelling
          have hspace : d ≠ ' ' := by
            rintro rfl
            contradiction
          rw [resume, ofText_of_head_ne_space hspace hkey, spanText_cons hkey]
          simp only [List.map_cons, List.map_nil, List.cons_append, List.nil_append]
          rw [filter_text_append_cons hb hd, filter_text, filter_text, Filter.merge_text_text]
      . rw [List.getLast?_cons_of_ne_nil hnil] at hlast
        rw [resume_cons _ _ hnil, List.map_cons, List.map_cons, List.cons_append,
          Filter.merge_cons, Filter.merge_cons, ih hlast]

end Lexeme

/--
If the first of two queries does not end inside a value, and neither of them is blank where they
meet, their filters are found apart from each other and merged.
-/
theorem Filter.ofQuery_append {a b : String}
    (ha : ∃ c, a.toList.getLast? = some c ∧ Text.isBlank c = false)
    (hb : ∃ c, b.toList.head? = some c ∧ Text.isBlank c = false)
    (hopen : Lexeme.endsOpen a.toList = false)
    : Filter.ofQuery (a ++ " " ++ b) = Filter.merge (Filter.ofQuery a ++ Filter.ofQuery b) := by
  obtain ⟨c, hlast, hc⟩ := ha
  obtain ⟨d, hhead, hd⟩ := hb
  obtain ⟨ds, hds⟩ := List.head?_eq_some_iff.1 hhead
  have hwhole : (a ++ " " ++ b).toList = a.toList ++ ' ' :: d :: ds := by
    simp [hds]
  have hspaces : Query.SpacesIfBlank (a ++ " " ++ b) := by
    refine .inr ⟨d, ?_, hd⟩
    simp [hwhole]
  have hspacesA : Query.SpacesIfBlank a := .inr ⟨c, List.mem_of_getLast? hlast, hc⟩
  have hspacesB : Query.SpacesIfBlank b := .inr ⟨d, List.mem_of_head? hhead, hd⟩
  have hend : ∀ spelling, (Lexeme.ofText a.toList).getLast? = some (.text spelling)
      → ∃ b, spelling.getLast? = some b ∧ Text.isBlank b = false := by
    intro spelling hspelling
    rw [Lexeme.getLast?_of_getLast?_ofText hspelling]
    exact ⟨c, hlast, hc⟩
  rw [ofQuery_of_spacesIfBlank hspaces, ofQuery_of_spacesIfBlank hspacesA,
    ofQuery_of_spacesIfBlank hspacesB, merge_merge_append_merge, hwhole,
    Lexeme.ofText_append_space hopen, Lexeme.merge_map_filter_resume hd ds hend, ← hds]

theorem Filter.ofQuery_append_within_text
    : let a := "owner:'it\\'s' type:metric n:1 free"
      let b := "te'xt : datasource:orders tag:' open"
      (∃ c, a.toList.getLast? = some c ∧ Text.isBlank c = false)
        ∧ (∃ c, b.toList.head? = some c ∧ Text.isBlank c = false)
        ∧ Lexeme.endsOpen a.toList = false
        ∧ Filter.ofQuery (a ++ " " ++ b)
          = Filter.merge (Filter.ofQuery a ++ Filter.ofQuery b) := by
  intro a b
  have ha : ∃ c, a.toList.getLast? = some c ∧ Text.isBlank c = false :=
    ⟨'e', by decide, by decide⟩
  have hb : ∃ c, b.toList.head? = some c ∧ Text.isBlank c = false :=
    ⟨'t', by decide, by decide⟩
  have hopen : Lexeme.endsOpen a.toList = false := by decide +kernel
  exact ⟨ha, hb, hopen, Filter.ofQuery_append ha hb hopen⟩

end SearchBox
