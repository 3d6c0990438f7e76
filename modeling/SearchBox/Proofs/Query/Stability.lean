import SearchBox.Proofs.Lexeme.Append
import SearchBox.Proofs.Token.Simulation

/-!
This module contains the stability of a query that is being typed. The main statement is that
characters at the end of a query can change its last token only: all tokens before it stay as they
are, and in their places.
-/

namespace SearchBox

namespace Lexeme

theorem dropLast_ofText_prefix_append (cs ds : List Char)
    : (ofText cs).dropLast <+: ofText (cs ++ ds) := by
  induction cs using reading_induction with
  | nil =>
    rw [ofText_nil]
    exact List.nil_prefix
  | space cs ih =>
    rw [List.cons_append, ofText_space, ofText_space]
    exact ih
  | qualifier cs key behind hkey ih =>
    rw [ofText_of_key? hkey]
    by_cases hlast : ofText (readValue (behind.dropWhile (· == ' '))).2 = []
    . rw [hlast]
      exact List.nil_prefix
    . -- something follows the value, so neither the key nor the value reach the end of the text
      have hrest := ne_nil_of_ofText_ne_nil hlast
      have hvalue : behind.dropWhile (· == ' ') ≠ [] := by
        intro hnil
        rw [hnil] at hrest
        contradiction
      have hcolon := colon_mem_of_key? (Option.isSome_of_eq_some hkey)
      have hlonger := key?_append_of_colon_mem hcolon ds
      rw [hkey] at hlonger
      rw [ofText_of_key? hlonger, Text.takeWhile_append_of_dropWhile_ne_nil hvalue,
        Text.dropWhile_append_of_ne_nil hvalue, readValue_append_of_ne_nil hrest,
        List.dropLast_cons_of_ne_nil hlast, List.prefix_cons_inj]
      exact ih
  | freeText c cs hc hkey ih =>
    rw [ofText_of_head_ne_space hc hkey]
    by_cases hspan : (spanText (c :: cs)).2 = []
    . rw [hspan, ofText_nil]
      exact List.nil_prefix
    . have hlonger := key?_append_of_colon_mem (colon_mem_of_snd_spanText hspan) ds
      rw [hkey] at hlonger
      rw [List.cons_append] at hlonger ⊢
      rw [ofText_of_head_ne_space hc hlonger, ← List.cons_append, spanText_append_of_ne_nil hspan,
        List.dropLast_cons_of_ne_nil (ofText_snd_spanText_ne_nil hspan), List.prefix_cons_inj]
      exact ih

end Lexeme

namespace Token

/--
Characters at the end of a query leave all of its tokens but the last one as they are.
-/
theorem dropLast_tokenize_prefix_append (a b : String)
    : (tokenize a).dropLast <+: tokenize (a ++ b) := by
  cases hblank : a.toList.all Text.isBlank with
  | true =>
    rw [tokenize_of_blank hblank]
    exact List.nil_prefix
  | false =>
    have hlonger : (a ++ b).toList.all Text.isBlank = false := by
      rw [String.toList_append, List.all_append, hblank, Bool.false_and]
    rw [tokenize_of_not_blank hblank, tokenize_of_not_blank hlonger, String.toList_append,
      ← List.map_dropLast]
    exact (Lexeme.dropLast_ofText_prefix_append a.toList b.toList).map Lexeme.token

end Token

end SearchBox
