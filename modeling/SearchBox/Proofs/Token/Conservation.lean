import SearchBox.Proofs.Lexeme.Source
import SearchBox.Proofs.Token.Simulation

/-!
This module contains the conservation of a query in its tokens. The main statement is that the
tokens, written one after the other, hold the characters of the query in their order, except for
blank characters and the marks of quoting.
-/

namespace SearchBox

open Text (withoutBlanks)

namespace Token

/--
What a token says of the query: a qualifier its key and its value, without any quotes around it.
-/
def written : Token → List Char
  | .keyValue key _ value => key.toList ++ ':' :: value.toList
  | .text value => value.toList

def writtenAll (tokens : List Token) : List Char :=
  tokens.flatMap written

end Token

namespace Lexeme

theorem withoutBlanks_written_token (lexeme : Lexeme)
    : withoutBlanks lexeme.token.written = withoutBlanks lexeme.unquoted := by
  cases lexeme with
  | text spelling =>
    rw [token, Token.ofText, Token.written, String.toList_ofList, Text.withoutBlanks_trim, unquoted]
  | qualifier key spaces value =>
    have hcolon : Text.isBlank ':' = false := by decide
    have hspaces : withoutBlanks (List.replicate spaces ' ') = [] := by
      apply Text.withoutBlanks_of_all_isBlank
      simp [Text.isBlank_space]
    rw [token, Token.ofKeyValue, Token.written, String.toList_ofList, String.toList_ofList,
      unquoted, Text.withoutBlanks_append, Text.withoutBlanks_trim, List.append_assoc,
      Text.withoutBlanks_append, List.cons_append,
      Text.withoutBlanks_cons_of_not_isBlank hcolon, Text.withoutBlanks_cons_of_not_isBlank hcolon,
      Text.withoutBlanks_append, hspaces, List.nil_append]

theorem written_token_sublist_source (lexeme : Lexeme)
    : lexeme.token.written.Sublist lexeme.source := by
  cases lexeme with
  | text spelling =>
    rw [token, Token.ofText, Token.written, String.toList_ofList]
    exact (Text.trim_infix_self spelling).sublist
  | qualifier key spaces value =>
    have hvalue : value.content.Sublist (List.replicate spaces ' ' ++ value.source) :=
      (content_sublist_source value).trans (List.sublist_append_right _ _)
    rw [token, Token.ofKeyValue, Token.written, String.toList_ofList, String.toList_ofList, source,
      List.append_assoc, List.cons_append]
    exact (Text.trim_infix_self key).sublist.append (hvalue.cons_cons ':')

/--
Between lexemes there are only spaces.
-/
theorem withoutBlanks_respell (spell : Lexeme → List Char) (cs : List Char)
    : withoutBlanks (respell spell cs) = withoutBlanks ((ofText cs).flatMap spell) := by
  induction cs using reading_induction with
  | nil =>
    rw [respell_nil, ofText_nil]
    rfl
  | space cs ih =>
    rw [respell_space, ofText_space, ← ih]
    simp [withoutBlanks, Text.isBlank_space]
  | qualifier cs key behind hkey ih =>
    rw [respell_of_key? hkey, ofText_of_key? hkey, List.flatMap_cons, Text.withoutBlanks_append,
      Text.withoutBlanks_append, ih]
  | freeText c cs hc hkey ih =>
    rw [respell_of_head_ne_space hc hkey, ofText_of_head_ne_space hc hkey, List.flatMap_cons,
      Text.withoutBlanks_append, Text.withoutBlanks_append, ih]

theorem withoutBlanks_writtenAll (lexemes : List Lexeme)
    : withoutBlanks (Token.writtenAll (lexemes.map token))
      = withoutBlanks (lexemes.flatMap unquoted) := by
  induction lexemes with
  | nil => rfl
  | cons lexeme lexemes ih =>
    rw [List.flatMap_cons, Text.withoutBlanks_append, ← ih, ← withoutBlanks_written_token,
      ← Text.withoutBlanks_append]
    rfl

theorem writtenAll_sublist (lexemes : List Lexeme)
    : (Token.writtenAll (lexemes.map token)).Sublist (lexemes.flatMap source) := by
  induction lexemes with
  | nil => exact List.nil_sublist _
  | cons lexeme lexemes ih => exact (written_token_sublist_source lexeme).append ih

end Lexeme

namespace Token

theorem withoutBlanks_writtenAll_tokenize (query : String)
    : withoutBlanks (writtenAll (tokenize query))
      = withoutBlanks (Lexeme.respell Lexeme.unquoted query.toList) := by
  cases hblank : query.toList.all Text.isBlank with
  | false =>
    rw [tokenize_of_not_blank hblank, Lexeme.withoutBlanks_writtenAll,
      Lexeme.withoutBlanks_respell]
  | true =>
    -- a quote is not blank, so there is none
    have hquote : '\x27' ∉ query.toList := by
      intro hmem
      have := List.all_eq_true.1 hblank _ hmem
      contradiction
    rw [tokenize_of_blank hblank, Lexeme.respell_unquoted_of_not_mem hquote,
      Text.withoutBlanks_of_all_isBlank hblank]
    rfl

theorem writtenAll_tokenize_sublist (query : String)
    : (writtenAll (tokenize query)).Sublist query.toList := by
  cases hblank : query.toList.all Text.isBlank with
  | true =>
    rw [tokenize_of_blank hblank]
    exact List.nil_sublist _
  | false =>
    have hsource := Lexeme.flatMap_sublist_respell Lexeme.source query.toList
    rw [Lexeme.respell_source] at hsource
    rw [tokenize_of_not_blank hblank]
    exact (Lexeme.writtenAll_sublist _).trans hsource

/--
The tokens of a query hold all of its characters in their order, except for blank characters and
the marks of quoting. So nothing else is lost, and nothing is added.
-/
theorem tokenize_conserves (query : String)
    : Lexeme.respell Lexeme.source query.toList = query.toList
      ∧ withoutBlanks (writtenAll (tokenize query))
          = withoutBlanks (Lexeme.respell Lexeme.unquoted query.toList)
      ∧ ('\x27' ∉ query.toList →
          withoutBlanks (writtenAll (tokenize query)) = withoutBlanks query.toList)
      ∧ (writtenAll (tokenize query)).Sublist query.toList
      ∧ (writtenAll (tokenize query)).length ≤ query.length := by
  have hsublist := writtenAll_tokenize_sublist query
  refine ⟨Lexeme.respell_source _, withoutBlanks_writtenAll_tokenize query, ?_, hsublist, ?_⟩
  . intro hquote
    rw [withoutBlanks_writtenAll_tokenize, Lexeme.respell_unquoted_of_not_mem hquote]
  . rw [← String.length_toList]
    exact hsublist.length_le

theorem tokenize_conserves_without_quote
    : '\x27' ∉ " a:\tb  c :d e:: ".toList
      ∧ withoutBlanks (writtenAll (tokenize " a:\tb  c :d e:: "))
          = withoutBlanks " a:\tb  c :d e:: ".toList := by
  have hquote : '\x27' ∉ " a:\tb  c :d e:: ".toList := by decide
  exact ⟨hquote, (tokenize_conserves _).2.2.1 hquote⟩

end Token

end SearchBox
