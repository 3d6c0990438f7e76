import Mathlib.Data.List.Chain
import SearchBox.Proofs.Filter.Merge

/-!
This module contains the shape of the filters of a query: what a filter made from a token looks
like, what merging keeps of it, that no two texts stand next to each other in a merged list, and
when one of these texts is empty.
-/

namespace SearchBox

namespace Stretch

variable {β : Type} {text? : β → Option String} {ofText : String → β}

def Apart (text? : β → Option String) (x y : β) : Prop :=
  text? x = none ∨ text? y = none

theorem prepend_cases (hlawful : Lawful text? ofText) (x : β) (merged : List β)
    : (prepend text? ofText x merged = x :: merged ∧ ∀ y ∈ merged.head?, Apart text? x y)
      ∨ ∃ front behind rest, x = ofText front ∧ merged = ofText behind :: rest
        ∧ prepend text? ofText x merged = ofText (front ++ " " ++ behind) :: rest := by
  cases hx : text? x with
  | none =>
    refine .inl ⟨prepend_of_text?_eq_none hx merged, ?_⟩
    intro y _
    exact .inl hx
  | some front =>
    obtain rfl := (hlawful x front).1 hx
    cases merged with
    | nil => exact .inl ⟨by simp [prepend, hx], by simp⟩
    | cons y rest =>
      cases hy : text? y with
      | none =>
        refine .inl ⟨by simp [prepend, hx, hy], ?_⟩
        intro z hz
        obtain rfl : y = z := by simpa using hz
        exact .inr hy
      | some behind =>
        obtain rfl := (hlawful y behind).1 hy
        exact .inr ⟨front, behind, rest, rfl, rfl, by simp [prepend, hx, hy]⟩

theorem isChain_prepend (hlawful : Lawful text? ofText) (x : β) {merged : List β}
    (h : merged.IsChain (Apart text?)) : (prepend text? ofText x merged).IsChain (Apart text?) := by
  rcases prepend_cases hlawful x merged with ⟨hcons, hapart⟩ | ⟨front, behind, rest, _, rfl, hjoin⟩
  . rw [hcons]
    exact List.IsChain.cons h hapart
  . rw [hjoin]
    apply List.IsChain.imp_head _ h
    intro z hz
    -- no text follows the text that was joined
    cases hz with
    | inl hnone =>
      rw [hlawful.text?_ofText] at hnone
      contradiction
    | inr hnone => exact .inr hnone

theorem isChain_mergeRuns (hlawful : Lawful text? ofText) (xs : List β)
    : (mergeRuns text? ofText xs).IsChain (Apart text?) := by
  induction xs with
  | nil => exact List.isChain_nil
  | cons x xs ih =>
    rw [mergeRuns_cons hlawful]
    exact isChain_prepend hlawful x ih

theorem forall_mem_mergeRuns (hlawful : Lawful text? ofText) {P : β → Prop}
    (hjoin : ∀ front behind, P (ofText front) → P (ofText behind)
      → P (ofText (front ++ " " ++ behind)))
    {xs : List β} (h : ∀ x ∈ xs, P x) : ∀ x ∈ mergeRuns text? ofText xs, P x := by
  induction xs with
  | nil =>
    intro x hx
    contradiction
  | cons x xs ih =>
    rw [List.forall_mem_cons] at h
    have hmerged := ih h.2
    rw [mergeRuns_cons hlawful]
    rcases prepend_cases hlawful x (mergeRuns text? ofText xs) with
      ⟨hcons, _⟩ | ⟨front, behind, rest, rfl, hrest, hprepend⟩
    . rw [hcons, List.forall_mem_cons]
      exact ⟨h.1, hmerged⟩
    . rw [hrest, List.forall_mem_cons] at hmerged
      rw [hprepend, List.forall_mem_cons]
      exact ⟨hjoin front behind h.1 hmerged.1, hmerged.2⟩

theorem length_mergeRuns_le (hlawful : Lawful text? ofText) (xs : List β)
    : (mergeRuns text? ofText xs).length ≤ xs.length := by
  induction xs with
  | nil => exact Nat.le_refl 0
  | cons x xs ih =>
    rw [mergeRuns_cons hlawful, List.length_cons]
    rcases prepend_cases hlawful x (mergeRuns text? ofText xs) with
      ⟨hcons, _⟩ | ⟨front, behind, rest, _, hrest, hprepend⟩
    . rw [hcons, List.length_cons]
      omega
    . rw [hrest, List.length_cons] at ih
      rw [hprepend, List.length_cons]
      omega

/--
The element `x` occurs in a list, and the elements next to it there are not texts.
-/
def Alone (text? : β → Option String) (x : β) (xs : List β) : Prop :=
  ∃ front behind, xs = front ++ x :: behind
    ∧ (∀ y ∈ front.getLast?, text? y = none) ∧ ∀ y ∈ behind.head?, text? y = none

theorem ofText_join_ne_empty (hlawful : Lawful text? ofText) (front behind : String)
    : ofText (front ++ " " ++ behind) ≠ ofText "" := by
  intro h
  have hsame := congrArg text? h
  rw [hlawful.text?_ofText, hlawful.text?_ofText] at hsame
  simp at hsame

theorem forall_mem_head?_mergeRuns (hlawful : Lawful text? ofText) (xs : List β)
    : (∀ y ∈ (mergeRuns text? ofText xs).head?, text? y = none)
      ↔ ∀ y ∈ xs.head?, text? y = none := by
  cases xs with
  | nil => rfl
  | cons x xs =>
    rw [mergeRuns_cons hlawful]
    rcases prepend_cases hlawful x (mergeRuns text? ofText xs) with
      ⟨hcons, _⟩ | ⟨front, behind, rest, rfl, _, hjoin⟩
    . rw [hcons, List.head?_cons, List.head?_cons]
    . simp [hjoin, hlawful.text?_ofText]

theorem exists_cons_of_empty_head (hlawful : Lawful text? ofText) {xs : List β}
    (h : (mergeRuns text? ofText xs).head? = some (ofText ""))
    : ∃ behind, xs = ofText "" :: behind ∧ ∀ y ∈ behind.head?, text? y = none := by
  cases xs with
  | nil => contradiction
  | cons x xs =>
    rw [mergeRuns_cons hlawful] at h
    rcases prepend_cases hlawful x (mergeRuns text? ofText xs) with
      ⟨hcons, hapart⟩ | ⟨front, behind, rest, _, _, hjoin⟩
    . rw [hcons, List.head?_cons, Option.some.injEq] at h
      subst h
      refine ⟨xs, rfl, ?_⟩
      rw [← forall_mem_head?_mergeRuns hlawful]
      intro y hy
      cases hapart y hy with
      | inl hnone =>
        rw [hlawful.text?_ofText] at hnone
        contradiction
      | inr hnone => exact hnone
    . rw [hjoin, List.head?_cons, Option.some.injEq] at h
      exact absurd h (ofText_join_ne_empty hlawful front behind)

theorem exists_append_of_empty_mem_tail (hlawful : Lawful text? ofText) {xs : List β}
    (h : ofText "" ∈ (mergeRuns text? ofText xs).tail)
    : ∃ x front behind, xs = x :: front ++ ofText "" :: behind
      ∧ (∀ y ∈ (x :: front).getLast?, text? y = none) ∧ ∀ y ∈ behind.head?, text? y = none := by
  induction xs with
  | nil => contradiction
  | cons x xs ih =>
    rw [mergeRuns_cons hlawful] at h
    rcases prepend_cases hlawful x (mergeRuns text? ofText xs) with
      ⟨hcons, hapart⟩ | ⟨front, behind, rest, _, hrest, hjoin⟩
    . rw [hcons, List.tail_cons] at h
      cases hmerged : mergeRuns text? ofText xs with
      | nil =>
        rw [hmerged] at h
        contradiction
      | cons y rest =>
        rw [hmerged] at h hapart ih
        rcases List.mem_cons.1 h with rfl | hmem
        . -- the empty text starts what is merged behind `x`
          obtain ⟨behind, rfl, hbehind⟩ := exists_cons_of_empty_head hlawful (by rw [hmerged]; rfl)
          refine ⟨x, [], behind, rfl, ?_, hbehind⟩
          intro z hz
          obtain rfl : x = z := by simpa using hz
          cases hapart _ rfl with
          | inl hnone => exact hnone
          | inr hnone =>
            rw [hlawful.text?_ofText] at hnone
            contradiction
        . obtain ⟨z, front, behind, rfl, hfront, hbehind⟩ := ih hmem
          refine ⟨x, z :: front, behind, rfl, ?_, hbehind⟩
          rw [List.getLast?_cons_cons]
          exact hfront
    . rw [hjoin, List.tail_cons] at h
      rw [hrest, List.tail_cons] at ih
      obtain ⟨z, front, behind, rfl, hfront, hbehind⟩ := ih h
      refine ⟨x, z :: front, behind, rfl, ?_, hbehind⟩
      rw [List.getLast?_cons_cons]
      exact hfront

theorem mergeRuns_empty_cons (hlawful : Lawful text? ofText) {xs : List β}
    (h : ∀ y ∈ xs.head?, text? y = none)
    : mergeRuns text? ofText (ofText "" :: xs) = ofText "" :: mergeRuns text? ofText xs := by
  rw [mergeRuns_cons hlawful]
  rcases prepend_cases hlawful (ofText "") (mergeRuns text? ofText xs) with
    ⟨hcons, _⟩ | ⟨front, behind, rest, _, hmerged, _⟩
  . exact hcons
  . have hnone : text? (ofText behind) = none := by
      apply (forall_mem_head?_mergeRuns hlawful xs).2 h
      rw [hmerged]
      rfl
    rw [hlawful.text?_ofText] at hnone
    contradiction

/--
Only an empty text that has no other text next to it remains empty.
-/
theorem empty_mem_mergeRuns_iff (hlawful : Lawful text? ofText) {xs : List β}
    : ofText "" ∈ mergeRuns text? ofText xs ↔ Alone text? (ofText "") xs := by
  constructor
  . intro h
    cases hmerged : mergeRuns text? ofText xs with
    | nil =>
      rw [hmerged] at h
      contradiction
    | cons y rest =>
      rw [hmerged] at h
      rcases List.mem_cons.1 h with rfl | hmem
      . obtain ⟨behind, rfl, hbehind⟩ := exists_cons_of_empty_head hlawful (by rw [hmerged]; rfl)
        exact ⟨[], behind, rfl, by simp, hbehind⟩
      . obtain ⟨x, front, behind, rfl, hfront, hbehind⟩ :=
          exists_append_of_empty_mem_tail hlawful (by rw [hmerged]; exact hmem)
        exact ⟨x :: front, behind, rfl, hfront, hbehind⟩
  . rintro ⟨front, behind, rfl, hfront, hbehind⟩
    have hempty := mergeRuns_empty_cons hlawful hbehind
    rcases List.eq_nil_or_concat front with rfl | ⟨front, x, rfl⟩
    . rw [List.nil_append, hempty]
      exact List.mem_cons_self
    . have hx : text? x = none := hfront x (by simp)
      rw [List.concat_eq_append, List.append_assoc, List.singleton_append,
        mergeRuns_append_cons hlawful hx, hempty]
      simp

end Stretch

namespace Filter

/--
A filter that a token can stand for. An object filter has one of the types that may follow `type:`
and no name. A field filter has a key of the vocabulary and a value to search for.
-/
def Recognized : Filter → Prop
  | .object objectType objectName => objectType ∈ Vocabulary.objectTypes ∧ objectName = ""
  | .field fieldType fieldName =>
    fieldType ∈ Vocabulary.fieldKeys ∧ ∃ c ∈ fieldName.toList, Text.isBlank c = false ∧ c ≠ ':'
  | .text _ => True

/--
What a filter searches for, if it does not just choose a type of objects.
-/
def searched? : Filter → Option String
  | .object .. => none
  | .field _ fieldName => some fieldName
  | .text searchText => some searchText

theorem ofKeyValue_text_or (key value : String)
    : (ofKeyValue key value).text? = none
      ∨ ofKeyValue key value = .text (key ++ ":" ++ value) := by
  unfold ofKeyValue
  split
  . exact .inl rfl
  . split
    . exact .inl rfl
    . exact .inr rfl

theorem ofKeyValue_of_unrecognized {key value : String}
    (hobject : ¬(key = "type" ∧ value ∈ Vocabulary.objectTypes))
    (hfield : ¬(key ∈ Vocabulary.fieldKeys ∧ ∃ c ∈ value.toList, c ≠ ':'))
    : ofKeyValue key value = .text (key ++ ":" ++ value) := by
  unfold ofKeyValue
  rw [Vocabulary.isObjectType_or_isFileObjectType, if_neg, if_neg]
  . simp only [Bool.and_eq_true, Vocabulary.isFieldKey, isFieldValue, List.any_eq_true,
      decide_eq_true_eq, bne_iff_ne]
    rintro ⟨hkey, c, hc, _, hcolon⟩
    exact hfield ⟨hkey, c, hc, hcolon⟩
  . simp only [Bool.and_eq_true, Vocabulary.isObjectType, decide_eq_true_eq]
    exact hobject

theorem recognized_ofKeyValue (key value : String) : (ofKeyValue key value).Recognized := by
  unfold ofKeyValue
  rw [Vocabulary.isObjectType_or_isFileObjectType]
  split
  . next hobject =>
    simp only [Bool.and_eq_true, Vocabulary.isObjectType, decide_eq_true_eq] at hobject
    exact ⟨hobject.2, rfl⟩
  . split
    . next hfield =>
      simp only [Bool.and_eq_true, Vocabulary.isFieldKey, isFieldValue, List.any_eq_true,
        decide_eq_true_eq, Bool.not_eq_true', bne_iff_ne] at hfield
      exact hfield
    . trivial

theorem recognized_ofToken (token : Token) : (ofToken token).Recognized := by
  cases token with
  | keyValue key separator value => exact recognized_ofKeyValue key value
  | text value => trivial

theorem isChain_merge (filters : List Filter)
    : (merge filters).IsChain (Stretch.Apart text?) :=
  Stretch.isChain_mergeRuns lawful_text? filters

theorem forall_mem_merge {P : Filter → Prop}
    (hjoin : ∀ front behind, P (.text front) → P (.text behind)
      → P (.text (front ++ " " ++ behind)))
    {filters : List Filter} (h : ∀ filter ∈ filters, P filter) : ∀ filter ∈ merge filters, P filter :=
  Stretch.forall_mem_mergeRuns lawful_text? hjoin h

theorem recognized_of_mem_merge {filters : List Filter}
    (h : ∀ filter ∈ filters, filter.Recognized) : ∀ filter ∈ merge filters, filter.Recognized := by
  apply forall_mem_merge _ h
  intro _ _ _ _
  trivial

theorem empty_mem_merge_iff {filters : List Filter}
    : .text "" ∈ merge filters ↔ Stretch.Alone text? (.text "") filters :=
  Stretch.empty_mem_mergeRuns_iff lawful_text?

theorem length_merge_le (filters : List Filter) : (merge filters).length ≤ filters.length :=
  Stretch.length_mergeRuns_le lawful_text? filters

end Filter

end SearchBox
