import SearchBox.Proofs.Lexeme.Reading
import SearchBox.Proofs.Text.Trim

/-!
This module contains the reading of two texts with a space between them. If the first one does not
end inside a value, its lexemes are found again, and only a free text at its end can grow.
-/

namespace SearchBox.Lexeme

/--
Whether a text ends inside a value: behind a quote that is not closed, or before a value that is
still missing.
-/
def endsOpen (cs : List Char) : Bool :=
  (ofText cs).getLast?.any isOpen

/--
The lexemes of a text whose lexemes are given, when a space and `cs` follow it. A free text at the
end goes on to the first qualifier in `cs`.
-/
def resume (cs : List Char) : List Lexeme → List Lexeme
  | [] => ofText cs
  | [.text spelling] => .text (spelling ++ ' ' :: (spanText cs).1) :: ofText (spanText cs).2
  | lexeme :: lexemes => lexeme :: resume cs lexemes

theorem resume_qualifier (cs key : List Char) (spaces : Nat) (value : Value)
    (lexemes : List Lexeme)
    : resume cs (.qualifier key spaces value :: lexemes)
      = .qualifier key spaces value :: resume cs lexemes := by
  rw [resume]
  simp

theorem resume_cons (cs : List Char) (lexeme : Lexeme) {lexemes : List Lexeme}
    (h : lexemes ≠ []) : resume cs (lexeme :: lexemes) = lexeme :: resume cs lexemes := by
  rw [resume]
  intro spelling _
  exact h

theorem endsOpen_space (cs : List Char) : endsOpen (' ' :: cs) = endsOpen cs := by
  unfold endsOpen
  rw [ofText_space]

theorem isOpen_eq_false_of_key? {cs key behind : List Char}
    (hkey : key? cs = some (key, behind)) (h : endsOpen cs = false)
    : isOpen (.qualifier key (behind.takeWhile (· == ' ')).length
        (readValue (behind.dropWhile (· == ' '))).1) = false
      ∧ endsOpen (readValue (behind.dropWhile (· == ' '))).2 = false := by
  have hhead : (behind.dropWhile (· == ' ')).head? ≠ some ' ' := by
    intro hspace
    have := List.head?_dropWhile_not (· == ' ') behind
    rw [hspace] at this
    contradiction
  unfold endsOpen at h ⊢
  rw [ofText_of_key? hkey] at h
  by_cases hrest : ofText (readValue (behind.dropWhile (· == ' '))).2 = []
  . rw [hrest] at h ⊢
    exact ⟨h, rfl⟩
  . rw [List.getLast?_cons_of_ne_nil hrest] at h
    refine ⟨?_, h⟩
    rw [Bool.eq_false_iff]
    intro hopen
    rw [readValue_snd_of_isOpen hopen hhead, ofText_nil] at hrest
    contradiction

theorem ofText_snd_spanText_ne_nil {cs : List Char} (h : (spanText cs).2 ≠ [])
    : ofText (spanText cs).2 ≠ [] := by
  obtain ⟨read, hread⟩ := Option.isSome_iff_exists.1 (isSome_key?_snd_spanText h)
  rw [ofText_of_key? hread]
  apply List.cons_ne_nil

theorem endsOpen_of_spanText {c : Char} {cs : List Char} (hc : c ≠ ' ')
    (hkey : key? (c :: cs) = none) (h : endsOpen (c :: cs) = false)
    : endsOpen (spanText (c :: cs)).2 = false := by
  unfold endsOpen at h ⊢
  rw [ofText_of_head_ne_space hc hkey] at h
  by_cases hrest : ofText (spanText (c :: cs)).2 = []
  . rw [hrest]
    rfl
  . rw [List.getLast?_cons_of_ne_nil hrest] at h
    exact h

theorem ofText_append_space {cs : List Char} (h : endsOpen cs = false) (ds : List Char)
    : ofText (cs ++ ' ' :: ds) = resume ds (ofText cs) := by
  induction cs using reading_induction with
  | nil => rw [List.nil_append, ofText_space, ofText_nil, resume]
  | space cs ih =>
    rw [endsOpen_space] at h
    rw [List.cons_append, ofText_space, ofText_space, ih h]
  | qualifier cs key behind hkey ih =>
    obtain ⟨hclosed, hrest⟩ := isOpen_eq_false_of_key? hkey h
    -- the value is there and is not cut by the end of the text, so it stays what it is
    have hvalue : behind.dropWhile (· == ' ') ≠ [] := by
      intro hnil
      simp [hnil, readValue, isOpen] at hclosed
    have hquoted : ∀ spelling,
        (readValue (behind.dropWhile (· == ' '))).1 ≠ .quoted spelling false := by
      intro spelling hopen
      simp [hopen, isOpen] at hclosed
    have hlonger : key? (cs ++ ' ' :: ds) = some (key, behind ++ ' ' :: ds) := by
      rw [key?_append_space, hkey]
      rfl
    rw [ofText_of_key? hlonger, ofText_of_key? hkey,
      Text.takeWhile_append_of_dropWhile_ne_nil hvalue, Text.dropWhile_append_of_ne_nil hvalue,
      readValue_append_space hquoted, ih hrest, resume_qualifier]
  | freeText c cs hc hkey ih =>
    have hlonger : key? (c :: (cs ++ ' ' :: ds)) = none := by
      rw [← List.cons_append, key?_append_space, hkey]
      rfl
    rw [List.cons_append, ofText_of_head_ne_space hc hlonger, ofText_of_head_ne_space hc hkey,
      ← List.cons_append]
    by_cases hspan : (spanText (c :: cs)).2 = []
    . -- the free text was cut by the end of the text, so it goes on behind the space
      rw [spanText_append_space_of_nil hspan, hspan, ofText_nil, resume,
        spanText_fst_of_snd_eq_nil hspan]
    . rw [spanText_append_of_ne_nil hspan, ih (endsOpen_of_spanText hc hkey h),
        resume_cons ds _ (ofText_snd_spanText_ne_nil hspan)]

theorem map_token_resume {ds : List Char} (hkey : (key? ds).isSome = true) (lexemes : List Lexeme)
    : (resume ds lexemes).map token = lexemes.map token ++ (ofText ds).map token := by
  induction lexemes with
  | nil => rfl
  | cons lexeme lexemes ih =>
    by_cases hlast : lexemes = []
    . subst hlast
      cases lexeme with
      | qualifier key spaces value => rfl
      | text spelling =>
        have htrim : Text.trim (spelling ++ [' ']) = Text.trim spelling :=
          Text.trim_concat_of_isBlank Text.isBlank_space spelling
        rw [resume, spanText_of_key? hkey]
        simp only [List.map_cons, token, htrim]
        rfl
    . rw [resume_cons ds lexeme hlast, List.map_cons, ih]
      rfl

theorem getLast?_of_suffix {rest cs : List Char} {lexeme : Lexeme} (hsuffix : rest <:+ cs)
    (h : (ofText rest).getLast? = some lexeme) : rest.getLast? = cs.getLast? := by
  obtain ⟨front, rfl⟩ := hsuffix
  cases rest with
  | nil =>
    rw [ofText_nil] at h
    contradiction
  | cons c rest => rw [List.getLast?_append, Option.or_of_isSome (by simp)]

theorem getLast?_of_getLast?_ofText {cs spelling : List Char}
    (h : (ofText cs).getLast? = some (.text spelling)) : spelling.getLast? = cs.getLast? := by
  induction cs using reading_induction with
  | nil =>
    rw [ofText_nil] at h
    contradiction
  | space cs ih =>
    rw [ofText_space] at h
    rw [ih h]
    exact getLast?_of_suffix (List.suffix_cons _ _) h
  | qualifier cs key behind hkey ih =>
    rw [ofText_of_key? hkey] at h
    by_cases hrest : ofText (readValue (behind.dropWhile (· == ' '))).2 = []
    . simp [hrest] at h
    . rw [List.getLast?_cons_of_ne_nil hrest] at h
      rw [ih h]
      exact getLast?_of_suffix (readValue_snd_suffix_of_key? hkey) h
  | freeText c cs hc hkey ih =>
    rw [ofText_of_head_ne_space hc hkey] at h
    by_cases hspan : (spanText (c :: cs)).2 = []
    . rw [hspan, ofText_nil, spanText_fst_of_snd_eq_nil hspan] at h
      simp only [List.getLast?_singleton, Option.some.injEq, text.injEq] at h
      rw [h]
    . rw [List.getLast?_cons_of_ne_nil (ofText_snd_spanText_ne_nil hspan)] at h
      rw [ih h]
      exact getLast?_of_suffix (spanText_snd_suffix _) h

end SearchBox.Lexeme
