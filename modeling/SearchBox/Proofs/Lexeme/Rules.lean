import Mathlib.Data.List.TakeWhile
import SearchBox.Lexeme.Grammar
import SearchBox.Proofs.Text.Span

/-!
This module contains the laws of the single rules of the grammar: where a key starts, and how far
free text and values reach. None of the rules looks over a space that ends what it reads.
-/

namespace SearchBox.Lexeme

open Text (takeWhile_append_cons dropWhile_append_cons takeWhile_append_of_dropWhile_ne_nil
  dropWhile_append_of_ne_nil)

theorem key?_append_colon {key : List Char} (hne : key ≠ [])
    (hkey : ∀ c ∈ key, Token.isStop c = false) (rest : List Char)
    : key? (key ++ ':' :: rest) = some (key, rest) := by
  have hcolon : (!Token.isStop ':') = false := by decide
  have htake : key.takeWhile (!Token.isStop ·) = key := by
    rw [List.takeWhile_eq_self_iff]
    simpa using hkey
  have hdrop : key.dropWhile (!Token.isStop ·) = [] := by
    rw [List.dropWhile_eq_nil_iff]
    simpa using hkey
  rw [key?, takeWhile_append_cons hcolon, dropWhile_append_cons hcolon, htake, hdrop]
  cases key with
  | nil => contradiction
  | cons c key => rfl

theorem key?_eq_some_iff {cs key rest : List Char}
    : key? cs = some (key, rest)
      ↔ cs = key ++ ':' :: rest ∧ key ≠ [] ∧ ∀ c ∈ key, Token.isStop c = false := by
  constructor
  . intro h
    refine ⟨eq_of_key? h, ?_⟩
    rw [key?] at h
    split at h
    . next c ks rest' hkey hrest =>
      simp only [Option.some.injEq, Prod.mk.injEq] at h
      rw [← h.1, ← hkey]
      refine ⟨by simp [hkey], ?_⟩
      intro c hc
      simpa using List.mem_takeWhile_imp hc
    . contradiction
  . rintro ⟨rfl, hne, hkey⟩
    exact key?_append_colon hne hkey rest

theorem key?_nil : key? [] = none := rfl

theorem key?_stop {c : Char} (h : Token.isStop c = true) (cs : List Char)
    : key? (c :: cs) = none := by
  simp [key?, h]

theorem key?_space (cs : List Char) : key? (' ' :: cs) = none :=
  key?_stop (by decide) cs

theorem head?_ne_space_of_key? {cs key rest : List Char} (h : key? cs = some (key, rest))
    : cs.head? ≠ some ' ' := by
  cases cs with
  | nil => simp
  | cons c cs =>
    intro hc
    simp only [List.head?_cons, Option.some.injEq] at hc
    rw [hc, key?_space] at h
    contradiction

theorem colon_mem_of_key? {cs : List Char} (h : (key? cs).isSome = true) : ':' ∈ cs := by
  obtain ⟨⟨key, rest⟩, hkey⟩ := Option.isSome_iff_exists.1 h
  rw [eq_of_key? hkey]
  simp

/--
Behind a stop, more text does not change whether a key starts at the front.
-/
theorem key?_append {cs : List Char} (h : cs.dropWhile (!Token.isStop ·) ≠ []) (ds : List Char)
    : key? (cs ++ ds) = (key? cs).map (fun read => (read.1, read.2 ++ ds)) := by
  simp only [key?]
  rw [takeWhile_append_of_dropWhile_ne_nil h, dropWhile_append_of_ne_nil h]
  cases cs.takeWhile (!Token.isStop ·) with
  | nil => rfl
  | cons c key =>
    cases hrest : cs.dropWhile (!Token.isStop ·) with
    | nil => contradiction
    | cons d rest =>
      by_cases hd : d = ':'
      . simp [hd]
      . simp [hd]

theorem key?_append_of_colon_mem {cs : List Char} (h : ':' ∈ cs) (ds : List Char)
    : key? (cs ++ ds) = (key? cs).map (fun read => (read.1, read.2 ++ ds)) := by
  apply key?_append
  intro hnil
  have hkeep := List.dropWhile_eq_nil_iff.1 hnil ':' h
  contradiction

theorem key?_append_space (cs ds : List Char)
    : key? (cs ++ ' ' :: ds) = (key? cs).map (fun read => (read.1, read.2 ++ ' ' :: ds)) := by
  have hspace : (!Token.isStop ' ') = false := by decide
  by_cases hstop : cs.dropWhile (!Token.isStop ·) = []
  . -- the space is the first stop, and it is not a colon
    simp only [key?]
    rw [takeWhile_append_cons hspace, dropWhile_append_cons hspace, hstop]
    simp
  . exact key?_append hstop (' ' :: ds)

theorem spanText_of_key? {cs : List Char} (h : (key? cs).isSome = true)
    : spanText cs = ([], cs) := by
  cases cs with
  | nil => rfl
  | cons c cs => rw [spanText, if_pos h]

theorem spanText_cons {c : Char} {cs : List Char} (h : key? (c :: cs) = none)
    : spanText (c :: cs) = (c :: (spanText cs).1, (spanText cs).2) := by
  rw [spanText, h]
  rfl

theorem spanText_fst_of_snd_eq_nil {cs : List Char} (h : (spanText cs).2 = [])
    : (spanText cs).1 = cs := by
  have := append_spanText cs
  rw [h, List.append_nil] at this
  exact this

theorem isSome_key?_snd_spanText {cs : List Char} (h : (spanText cs).2 ≠ [])
    : (key? (spanText cs).2).isSome = true := by
  induction cs with
  | nil => contradiction
  | cons c cs ih =>
    cases hkey : key? (c :: cs) with
    | none =>
      rw [spanText_cons hkey] at h ⊢
      exact ih h
    | some read =>
      have hsome : (key? (c :: cs)).isSome = true := by rw [hkey]; rfl
      rw [spanText_of_key? hsome]
      exact hsome

theorem spanText_append_space_of_nil {cs : List Char} (h : (spanText cs).2 = []) (ds : List Char)
    : spanText (cs ++ ' ' :: ds) = (cs ++ ' ' :: (spanText ds).1, (spanText ds).2) := by
  induction cs with
  | nil => exact spanText_cons (key?_space ds)
  | cons c cs ih =>
    cases hkey : key? (c :: cs) with
    | none =>
      rw [spanText_cons hkey] at h
      have hlonger : key? (c :: (cs ++ ' ' :: ds)) = none := by
        rw [← List.cons_append, key?_append_space, hkey]
        rfl
      rw [List.cons_append, spanText_cons hlonger, ih h]
      rfl
    | some read =>
      rw [spanText_of_key? (by simp [hkey])] at h
      contradiction

theorem colon_mem_of_snd_spanText {cs : List Char} (h : (spanText cs).2 ≠ []) : ':' ∈ cs := by
  rw [← append_spanText cs]
  exact List.mem_append_right _ (colon_mem_of_key? (isSome_key?_snd_spanText h))

theorem spanText_append_of_ne_nil {cs : List Char} (h : (spanText cs).2 ≠ []) (ds : List Char)
    : spanText (cs ++ ds) = ((spanText cs).1, (spanText cs).2 ++ ds) := by
  induction cs with
  | nil => contradiction
  | cons c cs ih =>
    have hlonger := key?_append_of_colon_mem (colon_mem_of_snd_spanText h) ds
    cases hkey : key? (c :: cs) with
    | none =>
      rw [spanText_cons hkey] at h ⊢
      rw [hkey] at hlonger
      rw [List.cons_append] at hlonger ⊢
      rw [spanText_cons hlonger, ih h]
    | some read =>
      have hsome : (key? (c :: cs ++ ds)).isSome = true := by
        rw [hlonger, hkey]
        rfl
      rw [spanText_of_key? hsome, spanText_of_key? (by simp [hkey])]

theorem readQuoted_cons {c : Char} {cs : List Char} (hquote : c ≠ '\x27')
    (hescape : ¬(c = '\\' ∧ cs.head? = some '\x27'))
    : readQuoted (c :: cs) = (c :: (readQuoted cs).1, (readQuoted cs).2) := by
  rw [readQuoted]
  . intro rest hc hcs
    exact hescape ⟨hc, by rw [hcs]; rfl⟩
  . exact hquote

theorem head?_readQuoted_ne_quote (cs : List Char) : (readQuoted cs).1.head? ≠ some '\x27' := by
  fun_cases readQuoted cs with
  | case1 cs read => simp
  | case2 cs => simp
  | case3 c cs hescape hquote read => simpa using hquote
  | case4 => simp

theorem unescape_cons {cs : List Char} (h : cs.head? ≠ some '\x27') (c : Char)
    : unescape (c :: cs) = c :: unescape cs := by
  rw [unescape, if_neg]
  intro hescape
  exact h hescape.2

theorem readQuoted_append {cs : List Char} (h : (readQuoted cs).2.1 = true) (ds : List Char)
    : readQuoted (cs ++ ds) = ((readQuoted cs).1, true, (readQuoted cs).2.2 ++ ds) := by
  fun_induction readQuoted cs with
  | case1 cs read ih => simp [readQuoted, ih h, read]
  | case2 cs => simp [readQuoted]
  | case3 c cs hescape hquote read ih =>
    have hhead : (cs ++ ds).head? = cs.head? := by
      cases cs with
      | nil => simp [read, readQuoted] at h
      | cons d cs => rfl
    rw [List.cons_append, readQuoted_cons hquote, ih h]
    rw [hhead]
    rintro ⟨rfl, hcs⟩
    obtain ⟨rest, rfl⟩ := List.head?_eq_some_iff.1 hcs
    exact hescape rest rfl rfl
  | case4 => simp at h

theorem readQuoted_snd_of_open {cs : List Char} (h : (readQuoted cs).2.1 = false)
    : (readQuoted cs).2.2 = [] := by
  fun_induction readQuoted cs with
  | case1 cs read ih => exact ih h
  | case2 cs => simp at h
  | case3 c cs hescape hquote read ih => exact ih h
  | case4 => rfl

theorem readQuoted_snd_suffix (cs : List Char) : (readQuoted cs).2.2 <:+ cs := by
  fun_induction readQuoted cs with
  | case1 cs read ih => exact (ih.trans (List.suffix_cons _ _)).trans (List.suffix_cons _ _)
  | case2 cs => exact List.suffix_cons _ _
  | case3 c cs hescape hquote read ih => exact ih.trans (List.suffix_cons _ _)
  | case4 => exact List.suffix_rfl

theorem readValue_quote (cs : List Char)
    : readValue ('\x27' :: cs)
      = (.quoted (readQuoted cs).1 (readQuoted cs).2.1, (readQuoted cs).2.2) := rfl

theorem readValue_of_head_ne_quote {cs : List Char} (h : cs.head? ≠ some '\x27')
    : readValue cs = (.bare (cs.takeWhile (· != ' ')), cs.dropWhile (· != ' ')) := by
  cases cs with
  | nil => rfl
  | cons c cs =>
    have hquote : c ≠ '\x27' := by
      rintro rfl
      exact h rfl
    rw [readValue, if_neg hquote]

theorem readValue_snd_suffix (cs : List Char) : (readValue cs).2 <:+ cs := by
  by_cases hquote : cs.head? = some '\x27'
  . obtain ⟨cs, rfl⟩ := List.head?_eq_some_iff.1 hquote
    exact (readQuoted_snd_suffix cs).trans (List.suffix_cons _ _)
  . rw [readValue_of_head_ne_quote hquote]
    exact List.dropWhile_suffix _

theorem readValue_append_space {cs : List Char}
    (hquoted : ∀ spelling, (readValue cs).1 ≠ .quoted spelling false) (ds : List Char)
    : readValue (cs ++ ' ' :: ds) = ((readValue cs).1, (readValue cs).2 ++ ' ' :: ds) := by
  by_cases hquote : cs.head? = some '\x27'
  . obtain ⟨cs, rfl⟩ := List.head?_eq_some_iff.1 hquote
    have hclosed : (readQuoted cs).2.1 = true := by
      cases h : (readQuoted cs).2.1 with
      | true => rfl
      | false =>
        rw [readValue_quote, h] at hquoted
        exact absurd rfl (hquoted _)
    rw [List.cons_append, readValue_quote, readValue_quote, readQuoted_append hclosed, hclosed]
  . have hlonger : (cs ++ ' ' :: ds).head? ≠ some '\x27' := by
      cases cs with
      | nil => simp
      | cons c cs => exact hquote
    rw [readValue_of_head_ne_quote hquote, readValue_of_head_ne_quote hlonger,
      takeWhile_append_cons (p := (· != ' ')) rfl, dropWhile_append_cons (p := (· != ' ')) rfl]

theorem closed_of_readQuoted_snd {cs : List Char} (h : (readQuoted cs).2.2 ≠ [])
    : (readQuoted cs).2.1 = true := by
  cases hclosed : (readQuoted cs).2.1 with
  | true => rfl
  | false => exact absurd (readQuoted_snd_of_open hclosed) h

theorem readValue_append_of_ne_nil {cs : List Char} (h : (readValue cs).2 ≠ []) (ds : List Char)
    : readValue (cs ++ ds) = ((readValue cs).1, (readValue cs).2 ++ ds) := by
  by_cases hquote : cs.head? = some '\x27'
  . obtain ⟨cs, rfl⟩ := List.head?_eq_some_iff.1 hquote
    have hclosed := closed_of_readQuoted_snd h
    rw [List.cons_append, readValue_quote, readValue_quote, readQuoted_append hclosed, hclosed]
  . have hlonger : (cs ++ ds).head? ≠ some '\x27' := by
      cases cs with
      | nil => contradiction
      | cons c cs => exact hquote
    rw [readValue_of_head_ne_quote hquote] at h ⊢
    rw [readValue_of_head_ne_quote hlonger, takeWhile_append_of_dropWhile_ne_nil h,
      dropWhile_append_of_ne_nil h]

theorem readValue_snd_of_isOpen {key cs : List Char} {spaces : Nat}
    (h : isOpen (.qualifier key spaces (readValue cs).1) = true)
    (hspace : cs.head? ≠ some ' ') : (readValue cs).2 = [] := by
  by_cases hquote : cs.head? = some '\x27'
  . obtain ⟨cs, rfl⟩ := List.head?_eq_some_iff.1 hquote
    rw [readValue_quote] at h ⊢
    apply readQuoted_snd_of_open
    cases hclosed : (readQuoted cs).2.1 with
    | false => rfl
    | true => simp [hclosed, isOpen] at h
  . rw [readValue_of_head_ne_quote hquote] at h ⊢
    cases cs with
    | nil => rfl
    | cons c cs =>
      have hc : (c != ' ') = true := by simpa using hspace
      simp [isOpen, hc] at h

end SearchBox.Lexeme
