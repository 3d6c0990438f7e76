import SearchBox.Proofs.Filter.Shape

/-!
This module contains the sections of a list: the texts at its front, and each other element with the
texts right behind it. There is one way to cut a list like this. The main statement is that merging
keeps the sections and joins the texts in each of them.
-/

namespace SearchBox

namespace Stretch

variable {β : Type}

/--
An element that is not a text, and the texts from there to the next such element.
-/
structure Section (text? : β → Option String) where
  value : β
  texts : List String
  text?_value : text? value = none

/--
A list that is cut before each of its elements that are not texts.
-/
structure Sections (text? : β → Option String) where
  front : List String
  behind : List (Section text?)

namespace Sections

variable {text? : β → Option String} (ofText : String → β)

def toList (sections : Sections text?) : List β :=
  sections.front.map ofText
    ++ sections.behind.flatMap (fun part => part.value :: part.texts.map ofText)

/--
The one text that a run of texts is joined to. There is none for an empty run.
-/
def joinRun : List String → List β
  | [] => []
  | text :: texts => [ofText (" ".intercalate (text :: texts))]

/--
The list in which the texts of each section are joined.
-/
def joined (sections : Sections text?) : List β :=
  joinRun ofText sections.front
    ++ sections.behind.flatMap (fun part => part.value :: joinRun ofText part.texts)

def cut (text? : β → Option String) : List β → Sections text?
  | [] => ⟨[], []⟩
  | x :: xs =>
    match h : text? x with
    | none => ⟨[], ⟨x, (cut text? xs).front, h⟩ :: (cut text? xs).behind⟩
    | some text => ⟨text :: (cut text? xs).front, (cut text? xs).behind⟩

variable {ofText : String → β}

theorem cut_of_none {x : β} (h : text? x = none) (xs : List β)
    : cut text? (x :: xs) = ⟨[], ⟨x, (cut text? xs).front, h⟩ :: (cut text? xs).behind⟩ := by
  rw [cut]
  split
  . rfl
  . next hsome =>
    rw [h] at hsome
    contradiction

theorem cut_of_some {x : β} {text : String} (h : text? x = some text) (xs : List β)
    : cut text? (x :: xs) = ⟨text :: (cut text? xs).front, (cut text? xs).behind⟩ := by
  rw [cut]
  split
  . next hnone =>
    rw [h] at hnone
    contradiction
  . next hsome =>
    rw [h, Option.some.injEq] at hsome
    rw [hsome]

theorem toList_cut (hlawful : Lawful text? ofText) (xs : List β)
    : (cut text? xs).toList ofText = xs := by
  induction xs with
  | nil => rfl
  | cons x xs ih =>
    cases hx : text? x with
    | none =>
      rw [cut_of_none hx]
      exact congrArg (x :: ·) ih
    | some text =>
      obtain rfl := (hlawful x text).1 hx
      rw [cut_of_some hx]
      exact congrArg (ofText text :: ·) ih

theorem cut_texts_append (hlawful : Lawful text? ofText) (texts : List String) (xs : List β)
    : cut text? (texts.map ofText ++ xs)
      = ⟨texts ++ (cut text? xs).front, (cut text? xs).behind⟩ := by
  induction texts with
  | nil => rfl
  | cons text texts ih =>
    rw [List.map_cons, List.cons_append, cut_of_some (hlawful.text?_ofText text), ih]
    rfl

theorem toList_nil (front : List String)
    : toList ofText (⟨front, []⟩ : Sections text?) = front.map ofText := by
  simp [toList]

/--
The texts of a section are the front of what stands behind its first element.
-/
theorem toList_cons (front : List String) (part : Section text?) (parts : List (Section text?))
    : toList ofText ⟨front, part :: parts⟩
      = front.map ofText ++ part.value :: toList ofText ⟨part.texts, parts⟩ := rfl

theorem cut_toList (hlawful : Lawful text? ofText) (sections : Sections text?)
    : cut text? (sections.toList ofText) = sections := by
  obtain ⟨front, behind⟩ := sections
  induction behind generalizing front with
  | nil =>
    have htexts := cut_texts_append hlawful front []
    rw [List.append_nil] at htexts
    rw [toList_nil, htexts, cut, List.append_nil]
  | cons part parts ih =>
    rw [toList_cons, cut_texts_append hlawful, cut_of_none part.text?_value, ih, List.append_nil]

theorem toList_eq_iff (hlawful : Lawful text? ofText) {sections : Sections text?} {xs : List β}
    : sections.toList ofText = xs ↔ sections = cut text? xs := by
  constructor
  . rintro rfl
    rw [cut_toList hlawful]
  . rintro rfl
    rw [toList_cut hlawful]

end Sections

variable {text? : β → Option String} {ofText : String → β}

open Sections (joinRun cut)

theorem mergeRuns_texts (hlawful : Lawful text? ofText) (texts : List String)
    : mergeRuns text? ofText (texts.map ofText) = joinRun ofText texts := by
  induction texts with
  | nil => rfl
  | cons text texts ih =>
    rw [List.map_cons, mergeRuns_cons hlawful, ih]
    cases texts with
    | nil => simp [joinRun, prepend, hlawful.text?_ofText]
    | cons next texts => simp [joinRun, prepend, hlawful.text?_ofText]

theorem mergeRuns_toList (hlawful : Lawful text? ofText) (sections : Sections text?)
    : mergeRuns text? ofText (sections.toList ofText) = sections.joined ofText := by
  obtain ⟨front, behind⟩ := sections
  induction behind generalizing front with
  | nil =>
    rw [Sections.toList_nil, mergeRuns_texts hlawful]
    simp [Sections.joined]
  | cons part parts ih =>
    rw [Sections.toList_cons, mergeRuns_append_cons hlawful part.text?_value,
      mergeRuns_texts hlawful, ih]
    rfl

theorem mergeRuns_eq_joined (hlawful : Lawful text? ofText) (xs : List β)
    : mergeRuns text? ofText xs = (cut text? xs).joined ofText := by
  rw [← mergeRuns_toList hlawful, Sections.toList_cut hlawful]

theorem filter_mergeRuns (hlawful : Lawful text? ofText) (xs : List β)
    : (mergeRuns text? ofText xs).filter (fun x => (text? x).isNone)
      = xs.filter (fun x => (text? x).isNone) := by
  induction xs with
  | nil => rfl
  | cons x xs ih =>
    rw [mergeRuns_cons hlawful]
    rcases prepend_cases hlawful x (mergeRuns text? ofText xs) with
      ⟨hcons, _⟩ | ⟨front, behind, rest, rfl, hmerged, hjoin⟩
    . rw [hcons, List.filter_cons, List.filter_cons, ih]
    . rw [hmerged] at ih
      rw [hjoin]
      simpa [hlawful.text?_ofText] using ih

end Stretch

namespace Filter

theorem text?_ne_none_of_merge {filters : List Filter}
    (h : ∀ filter ∈ merge filters, filter.text? ≠ none)
    : ∀ filter ∈ filters, filter.text? ≠ none := by
  have hothers : (merge filters).filter (fun filter => filter.text?.isNone)
      = filters.filter (fun filter => filter.text?.isNone) :=
    Stretch.filter_mergeRuns lawful_text? filters
  have hnone : (merge filters).filter (fun filter => filter.text?.isNone) = [] := by
    rw [List.filter_eq_nil_iff]
    simpa using h
  rw [hothers, List.filter_eq_nil_iff] at hnone
  simpa using hnone

end Filter

namespace Entry

variable {α : Type}

theorem lawful_text? : Stretch.Lawful (text? (α := α)) ofText := by
  intro entry searchText
  cases entry with
  | foreign value => simp [text?, ofText]
  | filter filter => simp [text?, ofText, Filter.lawful_text? filter searchText]

/--
Merging a list keeps its sections and joins the texts in each of them. It changes nothing in a list
that is merged already, and a list can be merged in parts first.
-/
theorem merge_normal_form (xs ys : List (Entry α))
    : (merge xs).IsChain (Stretch.Apart text?)
      ∧ (merge xs).filter (fun entry => entry.text?.isNone)
          = xs.filter (fun entry => entry.text?.isNone)
      ∧ (∀ sections : Stretch.Sections (text? (α := α)),
          sections.toList ofText = xs ↔ sections = .cut text? xs)
      ∧ merge xs = (Stretch.Sections.cut text? xs).joined ofText
      ∧ merge (merge xs) = merge xs
      ∧ merge (xs ++ ys) = merge (merge xs ++ merge ys) := by
  refine ⟨?_, ?_, ?_, ?_, ?_, ?_⟩
  . exact Stretch.isChain_mergeRuns lawful_text? xs
  . exact Stretch.filter_mergeRuns lawful_text? xs
  . intro sections
    exact Stretch.Sections.toList_eq_iff lawful_text?
  . exact Stretch.mergeRuns_eq_joined lawful_text? xs
  . exact Stretch.mergeRuns_mergeRuns lawful_text? xs
  . exact (Stretch.mergeRuns_mergeRuns_append_mergeRuns lawful_text? xs ys).symm

end Entry

end SearchBox
