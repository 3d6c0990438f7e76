import SearchBox.Proofs.Token.Canonical
import SearchBox.Proofs.Token.Lookahead

/-!
This module contains the simulation of the scanner by the grammar. In every state of the walk, the
tokens found so far and the tokens that the grammar reads in the rest are those of the whole text.
The main statement is that the scanner finds the tokens of the grammar.
-/

namespace SearchBox.Token

namespace Scan

variable (text : Array Char)

/--
The offsets of a state are in order: an open free text starts before the next character.
-/
structure Valid (s : Scan) : Prop where
  position_le : s.position ≤ text.size
  pending_lt : ∀ start, s.pending = some start → start < s.position

/--
The tokens still to come: an open free text goes on to the next qualifier, and the lexemes behind it
follow.
-/
def remaining (s : Scan) : List Token :=
  match s.pending with
  | none => (Lexeme.ofText (unread text s.position)).map Lexeme.token
  | some start =>
    let span := Lexeme.spanText (unread text s.position)
    ofText (Text.trim (slice text start s.position ++ span.1))
      :: (Lexeme.ofText span.2).map Lexeme.token

def total (s : Scan) : List Token :=
  s.tokens.toList ++ s.remaining text

variable {text} {stop : Nat → Nat} {s : Scan}

theorem valid_initial (text : Array Char) : Valid text {} := by
  constructor
  . simp
  . simp

theorem total_flush
    (h : Lexeme.spanText (unread text s.position) = ([], unread text s.position))
    : total text (s.flush text) = total text s := by
  unfold flush
  cases hpending : s.pending with
  | none => rfl
  | some start =>
    simp only [total, remaining, hpending, h]
    simp

theorem total_flush_of_size_le (h : text.size ≤ s.position)
    : total text (s.flush text) = total text s := by
  apply total_flush
  rw [unread_of_size_le h]
  rfl

theorem total_flush_of_atKey (hstop : stop s.position = stopAfter text s.position)
    (h : atKey text stop s.position = true) : total text (s.flush text) = total text s := by
  apply total_flush
  apply Lexeme.spanText_of_key?
  rw [key?_unread hstop, if_pos h]
  rfl

theorem total_move {start position : Nat} (hpending : s.pending = some start)
    (hstart : start ≤ s.position) (hposition : s.position ≤ position)
    (hspan : Lexeme.spanText (unread text s.position)
      = (slice text s.position position ++ (Lexeme.spanText (unread text position)).1,
          (Lexeme.spanText (unread text position)).2))
    : total text { s with position } = total text s := by
  simp only [total, remaining, hpending, hspan]
  rw [← List.append_assoc, slice_append_slice hstart hposition]

theorem total_open (hlt : s.position < text.size)
    (hspace : text[s.position]? ≠ some ' ')
    (hkey : Lexeme.key? (unread text s.position) = none)
    : total text { s with pending := some (s.pending.getD s.position) } = total text s := by
  cases hpending : s.pending with
  | some start =>
    cases s
    simp_all
  | none =>
    -- the grammar starts a free text here, too
    have hc : text[s.position] ≠ ' ' := by
      intro hc
      apply hspace
      rw [Array.getElem?_eq_getElem hlt, hc]
    rw [unread_of_lt hlt] at hkey
    simp only [total, remaining, hpending, Option.getD_none]
    rw [slice_of_le text (Nat.le_refl _), unread_of_lt hlt,
      Lexeme.ofText_of_head_ne_space hc hkey]
    simp [Lexeme.token]

theorem total_space (hvalid : Valid text s) (hspace : text[s.position]? = some ' ')
    : total text { s with position := s.position + 1 } = total text s := by
  have hread := unread_of_getElem?_eq_some hspace
  cases hpending : s.pending with
  | none => simp only [total, remaining, hpending, hread, Lexeme.ofText_space]
  | some start =>
    rw [← hpending]
    apply total_move hpending (Nat.le_of_lt (hvalid.pending_lt start hpending)) (Nat.le_succ _)
    obtain ⟨hlt, hc⟩ := Array.getElem?_eq_some_iff.1 hspace
    rw [hread, Lexeme.spanText_cons (Lexeme.key?_space _), slice_succ hlt, hc]
    rfl

theorem total_qualifier (hstop : stop s.position = stopAfter text s.position)
    (hkey : atKey text stop s.position = true)
    : total text (s.qualifier text stop) = total text s := by
  have hread := key?_unread hstop
  rw [if_pos hkey] at hread
  rw [← total_flush_of_atKey hstop hkey]
  simp only [total, remaining, qualifier, pending_flush, position_flush]
  rw [Lexeme.ofText_of_key? hread, unread_readValue, fst_readValue, unread_advance (· == ' ')]
  simp [Lexeme.token]

def wordEnd (text : Array Char) (stop : Nat → Nat) (position : Nat) : Nat :=
  advance text (fun p c => c != ' ' && !atKey text stop p) position

/--
No qualifier starts inside a word, so the free text of the grammar goes on to its end.
-/
theorem spanText_wordEnd (hstop : ∀ position ≤ text.size, stop position = stopAfter text position)
    (position : Nat)
    : Lexeme.spanText (unread text position)
      = (slice text position (wordEnd text stop position)
            ++ (Lexeme.spanText (unread text (wordEnd text stop position))).1,
          (Lexeme.spanText (unread text (wordEnd text stop position))).2) := by
  unfold wordEnd
  fun_induction advance text (fun p c => c != ' ' && !atKey text stop p) position with
  | case1 position h hkeep ih =>
    -- the word only goes on where no qualifier starts
    have hkey : Lexeme.key? (unread text position) = none := by
      rw [key?_unread (hstop position (Nat.le_of_lt h)), if_neg]
      simp_all
    have hle := le_advance text (fun p c => c != ' ' && !atKey text stop p) (position + 1)
    rw [unread_of_lt h] at hkey ⊢
    rw [Lexeme.spanText_cons hkey, ih, ← slice_append_slice (Nat.le_succ position) hle,
      slice_succ h]
    rfl
  | case2 position h hkeep => simp [slice_of_le]
  | case3 position h => simp [slice_of_le]

theorem total_word (hvalid : Valid text s)
    (hstop : ∀ position ≤ text.size, stop position = stopAfter text position)
    (hlt : s.position < text.size) (hspace : text[s.position]? ≠ some ' ')
    (hkey : ¬atKey text stop s.position = true)
    : total text (s.word text stop) = total text s := by
  have hread : Lexeme.key? (unread text s.position) = none := by
    rw [key?_unread (hstop s.position hvalid.position_le), if_neg hkey]
  have hstart : s.pending.getD s.position ≤ s.position := by
    cases hpending : s.pending with
    | none => simp
    | some start => simpa using Nat.le_of_lt (hvalid.pending_lt start hpending)
  -- first the free text is opened where it is, and then it is moved to the end of the word
  have hnext : total text { s with
      position := wordEnd text stop s.position
      pending := some (s.pending.getD s.position) } = total text s := by
    rw [← total_open hlt hspace hread]
    apply total_move (s := { s with pending := some (s.pending.getD s.position) }) rfl hstart
    . apply le_advance
    . exact spanText_wordEnd hstop s.position
  unfold word
  simp only
  split
  . next hat =>
    simp only [Bool.and_eq_true, decide_eq_true_eq] at hat
    apply Eq.trans (total_flush_of_atKey _ hat.2) hnext
    exact hstop _ (Nat.le_of_lt hat.1)
  . exact hnext

theorem total_step (hvalid : Valid text s)
    (hstop : ∀ position ≤ text.size, stop position = stopAfter text position)
    (hlt : s.position < text.size) : total text (s.step text stop) = total text s := by
  unfold step
  split
  . next hspace => exact total_space hvalid hspace
  . next hspace =>
    split
    . next hkey => exact total_qualifier (hstop s.position hvalid.position_le) hkey
    . next hkey => exact total_word hvalid hstop hlt hspace hkey

theorem pending_step_lt (hvalid : Valid text s) (hlt : s.position < text.size) {start : Nat}
    (h : (s.step text stop).pending = some start) : start < (s.step text stop).position := by
  have hposition := position_lt_step stop hlt
  revert h hposition
  unfold step
  split
  . intro h hposition
    exact Nat.lt_succ_of_lt (hvalid.pending_lt start h)
  . split
    . simp [qualifier]
    . unfold word
      simp only
      split
      . simp [pending_flush]
      . cases hpending : s.pending with
        | none =>
          simp only [Option.getD_none, Option.some.injEq]
          rintro rfl hposition
          exact hposition
        | some before =>
          have hbefore := hvalid.pending_lt before hpending
          simp only [Option.getD_some, Option.some.injEq]
          rintro rfl hposition
          exact Nat.lt_trans hbefore hposition

theorem valid_step (hvalid : Valid text s) (hlt : s.position < text.size)
    : Valid text (s.step text stop) := by
  constructor
  . exact position_step_le_size stop hlt
  . intro start h
    exact pending_step_lt hvalid hlt h

theorem valid_run (hvalid : Valid text s) : Valid text (s.run text stop) := by
  fun_induction run text stop s with
  | case1 s hlt _ ih => exact ih (valid_step hvalid hlt)
  | case2 s hle => exact hvalid

theorem size_le_position_run (text : Array Char) (stop : Nat → Nat) (s : Scan)
    : text.size ≤ (s.run text stop).position := by
  fun_induction run text stop s with
  | case1 s hlt _ ih => exact ih
  | case2 s hle => exact Nat.le_of_not_lt hle

/--
The sum of found and remaining tokens is the same at every point of the walk.
-/
theorem total_run (hvalid : Valid text s)
    (hstop : ∀ position ≤ text.size, stop position = stopAfter text position)
    : total text (s.run text stop) = total text s := by
  fun_induction run text stop s with
  | case1 s hlt _ ih => rw [ih (valid_step hvalid hlt), total_step hvalid hstop hlt]
  | case2 s hle => rfl

theorem total_of_size_le (hposition : text.size ≤ s.position) (hpending : s.pending = none)
    : total text s = s.tokens.toList := by
  simp only [total, remaining, hpending, unread_of_size_le hposition, Lexeme.ofText_nil]
  simp

end Scan

theorem scanWith_eq_grammar (text : Array Char) {stop : Nat → Nat}
    (hstop : ∀ position ≤ text.size, stop position = stopAfter text position)
    : scanWith text stop = (Lexeme.ofText text.toList).map Lexeme.token := by
  have hend := Scan.size_le_position_run text stop {}
  have hclosed : Scan.total text (((Scan.run text stop {}).flush text))
      = ((Scan.run text stop {}).flush text).tokens.toList := by
    apply Scan.total_of_size_le
    . rw [Scan.position_flush]
      exact hend
    . apply Scan.pending_flush
  unfold scanWith
  rw [← hclosed, Scan.total_flush_of_size_le hend, Scan.total_run (Scan.valid_initial text) hstop]
  rfl

theorem scan_eq_grammar (text : Array Char)
    : scan text = (Lexeme.ofText text.toList).map Lexeme.token := by
  apply scanWith_eq_grammar
  intro position h
  exact getD_stopTable h

theorem tokenize_of_not_blank {query : String} (h : query.toList.all Text.isBlank = false)
    : tokenize query = (Lexeme.ofText query.toList).map Lexeme.token := by
  simp only [tokenize, h, Bool.false_eq_true, ite_false]
  apply scan_eq_grammar

theorem tokenize_of_blank {query : String} (h : query.toList.all Text.isBlank = true)
    : tokenize query = [] := by
  simp [tokenize, h]

/--
The scanner accepts exactly the grammar. A free text is never cut before anything but a qualifier:
no other free text follows it.
-/
theorem tokenize_eq_tokens (query : String)
    : tokenize query = Lexeme.tokens query ∧ (tokenize query).IsChain Apart := by
  unfold Lexeme.tokens
  cases hblank : query.toList.all Text.isBlank with
  | false =>
    rw [tokenize_of_not_blank hblank]
    refine ⟨by simp, ?_⟩
    apply isChain_apart_ofText
  | true =>
    rw [tokenize_of_blank hblank]
    simp

end SearchBox.Token
