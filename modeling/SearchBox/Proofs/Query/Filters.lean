import SearchBox.Proofs.Filter.Merge
import SearchBox.Proofs.Lexeme.Append
import SearchBox.Proofs.Token.Simulation
import SearchBox.Query

/-!
This module contains the way from the lexemes of a query to its filters: each lexeme stands for one
filter, and these filters are merged.
-/

namespace SearchBox

def Lexeme.filter (lexeme : Lexeme) : Filter :=
  .ofToken lexeme.token

theorem Lexeme.filter_text (spelling : List Char)
    : filter (.text spelling) = .text (String.ofList (Text.trim spelling)) := rfl

theorem Lexeme.map_filter (lexemes : List Lexeme)
    : lexemes.map filter = (lexemes.map token).map Filter.ofToken := by
  rw [List.map_map]
  rfl

theorem Lexeme.map_filter_resume {ds : List Char} (hkey : (key? ds).isSome = true)
    (lexemes : List Lexeme)
    : (resume ds lexemes).map filter = lexemes.map filter ++ (ofText ds).map filter := by
  rw [map_filter, map_filter, map_filter, map_token_resume hkey, List.map_append]

/--
A query that is blank has spaces in it and no other blank characters.
-/
def Query.SpacesIfBlank (query : String) : Prop :=
  (∀ c ∈ query.toList, c = ' ') ∨ ∃ c ∈ query.toList, Text.isBlank c = false

theorem Token.tokenize_of_spacesIfBlank {query : String} (h : Query.SpacesIfBlank query)
    : tokenize query = (Lexeme.ofText query.toList).map Lexeme.token := by
  cases hblank : query.toList.all Text.isBlank with
  | false => exact tokenize_of_not_blank hblank
  | true =>
    rw [tokenize_of_blank hblank]
    cases h with
    | inl hspaces => rw [Lexeme.ofText_all_space hspaces, List.map_nil]
    | inr htext =>
      obtain ⟨c, hc, hnot⟩ := htext
      have := List.all_eq_true.1 hblank c hc
      rw [hnot] at this
      contradiction

theorem Filter.ofQuery_of_spacesIfBlank {query : String} (h : Query.SpacesIfBlank query)
    : ofQuery query = merge ((Lexeme.ofText query.toList).map Lexeme.filter) := by
  rw [ofQuery_eq, Token.tokenize_of_spacesIfBlank h, Lexeme.map_filter]

end SearchBox
