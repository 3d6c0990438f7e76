import Mathlib.Data.List.Chain
import SearchBox.Proofs.Lexeme.Reading
import SearchBox.Proofs.Text.Trim

/-!
This module contains the canonical form of token lists: the one in which each token can be told from
its spelling, whatever tokens stand around it.
-/

namespace SearchBox.Token

/--
Whether a key starts at offset `start`: at least one character that is not a stop, and then a colon.
-/
def IsKeyStart (cs : List Char) (start : Nat) : Prop :=
  ∃ colon, start < colon ∧ cs[colon]? = some ':' ∧ ∀ c ∈ (cs.take colon).drop start, isStop c = false

/--
A key starts at offset `start` and at no offset before it.
-/
def IsFirstKeyStart (cs : List Char) (start : Nat) : Prop :=
  IsKeyStart cs start ∧ ∀ before, before < start → ¬IsKeyStart cs before

def isText : Token → Bool
  | .keyValue .. => false
  | .text _ => true

def lead : Token → List Char
  | .keyValue key _ _ => key.toList
  | .text value => value.toList

/--
Whether the value of a token needs an opening quote that cannot be closed: a backslash at its end
would take a closing quote into the value.
-/
def isUnclosed : Token → Bool
  | .keyValue _ _ value =>
    value.toList.getLast? == some '\\'
      && (value.toList.contains ' ' || value.toList.head? == some '\x27')
  | .text _ => false

/--
What holds of a token by itself: its lead is trimmed, no key starts in its text, and its key has no
stop.
-/
def WellFormed : Token → Prop
  | .keyValue key separator _ =>
    separator = Token.separator ∧ Text.trim key.toList = key.toList
      ∧ ∀ c ∈ key.toList, isStop c = false
  | .text value =>
    Text.trim value.toList = value.toList ∧ ∀ start, ¬IsKeyStart value.toList start

def Apart (t u : Token) : Prop :=
  ¬(t.isText = true ∧ u.isText = true)

/--
A list of tokens whose spelling shows where each of them ends.
-/
structure Canonical (tokens : List Token) : Prop where
  wellFormed : ∀ token ∈ tokens, token.WellFormed
  apart : tokens.IsChain Apart
  unclosed_last : ∀ token ∈ tokens.dropLast, token.isUnclosed = false

theorem isKeyStart_iff {cs : List Char} {start : Nat}
    : IsKeyStart cs start ↔ (Lexeme.key? (cs.drop start)).isSome = true := by
  constructor
  . rintro ⟨colon, hlt, hcolon, hkey⟩
    obtain ⟨hsize, hc⟩ := List.getElem?_eq_some_iff.1 hcolon
    have hlength : (cs.take colon).length = colon := by
      rw [List.length_take]
      omega
    have hdrop : cs.drop start = (cs.take colon).drop start ++ ':' :: cs.drop (colon + 1) := by
      rw [← hc, ← List.drop_eq_getElem_cons hsize, ← List.drop_append_of_le_length (by omega),
        List.take_append_drop]
    have hne : (cs.take colon).drop start ≠ [] := by
      intro hnil
      have := congrArg List.length hnil
      simp only [List.length_drop, hlength, List.length_nil] at this
      omega
    rw [hdrop, Lexeme.key?_append_colon hne hkey]
    rfl
  . intro h
    obtain ⟨⟨key, rest⟩, hread⟩ := Option.isSome_iff_exists.1 h
    obtain ⟨hdrop, hne, hkey⟩ := Lexeme.key?_eq_some_iff.1 hread
    have hpos : 0 < key.length := List.length_pos_of_ne_nil hne
    refine ⟨start + key.length, by omega, ?_, ?_⟩
    . rw [← List.getElem?_drop, hdrop]
      simp
    . rw [List.drop_take, hdrop]
      simpa using hkey

theorem snd_spanText_eq_nil_iff {cs : List Char}
    : (Lexeme.spanText cs).2 = [] ↔ ∀ start, ¬IsKeyStart cs start := by
  induction cs with
  | nil => simp [Lexeme.spanText, isKeyStart_iff, Lexeme.key?_nil]
  | cons c cs ih =>
    cases hkey : Lexeme.key? (c :: cs) with
    | none =>
      rw [Lexeme.spanText_cons hkey, ih]
      constructor
      . intro h start
        cases start with
        | zero => simp [isKeyStart_iff, hkey]
        | succ start => simpa [isKeyStart_iff] using h start
      . intro h start
        simpa [isKeyStart_iff] using h (start + 1)
    | some read =>
      rw [Lexeme.spanText_of_key? (by simp [hkey])]
      constructor
      . simp
      . intro h
        apply absurd _ (h 0)
        simp [isKeyStart_iff, hkey]

theorem isKeyStart_zero_iff {cs : List Char}
    : IsKeyStart cs 0 ↔ (Lexeme.key? cs).isSome = true := by
  rw [isKeyStart_iff, List.drop_zero]

theorem isKeyStart_cons_succ {c : Char} {cs : List Char} {start : Nat}
    : IsKeyStart (c :: cs) (start + 1) ↔ IsKeyStart cs start := by
  rw [isKeyStart_iff, isKeyStart_iff, List.drop_succ_cons]

theorem isFirstKeyStart_cons_succ {c : Char} {cs : List Char} {start : Nat}
    (hkey : Lexeme.key? (c :: cs) = none)
    : IsFirstKeyStart (c :: cs) (start + 1) ↔ IsFirstKeyStart cs start := by
  unfold IsFirstKeyStart
  rw [isKeyStart_cons_succ]
  constructor
  . rintro ⟨hstart, hfirst⟩
    refine ⟨hstart, ?_⟩
    intro before hbefore
    rw [← isKeyStart_cons_succ (c := c)]
    exact hfirst (before + 1) (Nat.succ_lt_succ hbefore)
  . rintro ⟨hstart, hfirst⟩
    refine ⟨hstart, ?_⟩
    intro before hbefore
    cases before with
    | zero => simp [isKeyStart_zero_iff, hkey]
    | succ before =>
      rw [isKeyStart_cons_succ]
      exact hfirst before (Nat.lt_of_succ_lt_succ hbefore)

theorem isFirstKeyStart_iff {cs : List Char} {start : Nat}
    : IsFirstKeyStart cs start
      ↔ (Lexeme.spanText cs).2 ≠ [] ∧ (Lexeme.spanText cs).1.length = start := by
  induction cs generalizing start with
  | nil => simp [IsFirstKeyStart, isKeyStart_iff, Lexeme.key?_nil, Lexeme.spanText]
  | cons c cs ih =>
    cases hkey : Lexeme.key? (c :: cs) with
    | some read =>
      have hsome : (Lexeme.key? (c :: cs)).isSome = true := Option.isSome_of_eq_some hkey
      have hzero : IsKeyStart (c :: cs) 0 := isKeyStart_zero_iff.2 hsome
      rw [Lexeme.spanText_of_key? hsome]
      constructor
      . rintro ⟨_, hfirst⟩
        refine ⟨List.cons_ne_nil _ _, ?_⟩
        by_contra hne
        exact hfirst 0 (Nat.pos_of_ne_zero (Ne.symm hne)) hzero
      . rintro ⟨_, rfl⟩
        exact ⟨hzero, by simp⟩
    | none =>
      rw [Lexeme.spanText_cons hkey]
      cases start with
      | zero => simp [IsFirstKeyStart, isKeyStart_zero_iff, hkey]
      | succ start =>
        rw [isFirstKeyStart_cons_succ hkey, ih]
        simp

theorem spanText_of_isFirstKeyStart {cs : List Char} {start : Nat} (h : IsFirstKeyStart cs start)
    : Lexeme.spanText cs = (cs.take start, cs.drop start) := by
  obtain ⟨_, hlength⟩ := isFirstKeyStart_iff.1 h
  have hwhole := Lexeme.append_spanText cs
  have htake : cs.take start = (Lexeme.spanText cs).1 := by
    rw [← hlength]
    nth_rewrite 2 [← hwhole]
    exact List.take_left
  have hdrop : cs.drop start = (Lexeme.spanText cs).2 := by
    rw [← hlength]
    nth_rewrite 2 [← hwhole]
    exact List.drop_left
  rw [htake, hdrop]

instance (cs : List Char) : Decidable (∀ start, ¬IsKeyStart cs start) :=
  decidable_of_iff _ snd_spanText_eq_nil_iff

instance : (token : Token) → Decidable token.WellFormed
  | .keyValue key separator _ =>
    decidable_of_iff
      (separator = Token.separator ∧ Text.trim key.toList = key.toList
        ∧ key.toList.all (!isStop ·) = true)
      (by simp [WellFormed])
  | .text _ => inferInstanceAs (Decidable (_ ∧ _))

instance : DecidableRel Apart :=
  fun _ _ => inferInstanceAs (Decidable (¬_))

instance (tokens : List Token) : Decidable (Canonical tokens) :=
  decidable_of_iff
    ((∀ token ∈ tokens, token.WellFormed) ∧ tokens.IsChain Apart
      ∧ ∀ token ∈ tokens.dropLast, token.isUnclosed = false)
    ⟨fun h => ⟨h.1, h.2.1, h.2.2⟩, fun h => ⟨h.wellFormed, h.apart, h.unclosed_last⟩⟩

theorem apart_of_not_isText {t : Token} (h : t.isText = false) (u : Token) : Apart t u := by
  intro htext
  rw [h] at htext
  exact Bool.false_ne_true htext.1

theorem isText_token_of_key? {cs : List Char} (h : (Lexeme.key? cs).isSome = true)
    : ∀ token ∈ ((Lexeme.ofText cs).map Lexeme.token).head?, token.isText = false := by
  obtain ⟨⟨key, behind⟩, hkey⟩ := Option.isSome_iff_exists.1 h
  simp [Lexeme.ofText_of_key? hkey, Lexeme.token, ofKeyValue, isText]

theorem isChain_apart_ofText (cs : List Char)
    : ((Lexeme.ofText cs).map Lexeme.token).IsChain Apart := by
  induction cs using Lexeme.reading_induction with
  | nil => simp [Lexeme.ofText_nil]
  | space cs ih =>
    rw [Lexeme.ofText_space]
    exact ih
  | qualifier cs key behind hkey ih =>
    rw [Lexeme.ofText_of_key? hkey, List.map_cons]
    apply List.IsChain.cons ih
    intro u _
    apply apart_of_not_isText
    rfl
  | freeText c cs hc hkey ih =>
    rw [Lexeme.ofText_of_head_ne_space hc hkey, List.map_cons]
    apply List.IsChain.cons ih
    intro u hu htext
    by_cases hrest : (Lexeme.spanText (c :: cs)).2 = []
    . simp [hrest, Lexeme.ofText_nil] at hu
    . have := isText_token_of_key? (Lexeme.isSome_key?_snd_spanText hrest) u hu
      rw [this] at htext
      exact Bool.false_ne_true htext.2

end SearchBox.Token
