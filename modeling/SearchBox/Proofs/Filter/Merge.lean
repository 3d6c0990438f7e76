import SearchBox.Filter.Merge

/-!
This module contains the laws of merging neighbouring texts. Merging is a right fold: its step puts
one element before a merged list, and texts are joined by it from the left or from the right alike.
So a list can be cut anywhere, merged in parts, and merged again.
-/

namespace SearchBox

namespace Stretch

variable {β : Type} {text? : β → Option String} {ofText : String → β}

/--
`ofText` makes the one element in which `text?` finds a text.
-/
def Lawful (text? : β → Option String) (ofText : String → β) : Prop :=
  ∀ x text, text? x = some text ↔ x = ofText text

theorem Lawful.text?_ofText (hlawful : Lawful text? ofText) (text : String)
    : text? (ofText text) = some text :=
  (hlawful _ text).2 rfl

/--
A stretch as `ofList` makes it: no run is empty, and texts are in runs only.
-/
def Sound (text? : β → Option String) : Stretch β → Prop
  | .run texts => texts ≠ []
  | .other value => text? value = none

/--
Put an element before a merged list. A text joins the text that starts the list.
-/
def prepend (text? : β → Option String) (ofText : String → β) (x : β) (merged : List β) : List β :=
  match text? x, merged with
  | none, merged => x :: merged
  | some _, [] => [x]
  | some text, y :: rest =>
    match text? y with
    | none => x :: y :: rest
    | some behind => ofText (text ++ " " ++ behind) :: rest

theorem close_run_singleton (text : String) : close ofText (.run [text]) = ofText text := by
  simp [close]

theorem close_run_cons (text : String) {texts : List String} (h : texts ≠ [])
    : close ofText (.run (text :: texts))
      = ofText (text ++ " "
        ++ String.ofList (List.intercalate [' '] (texts.map String.toList))) := by
  obtain ⟨next, texts, rfl⟩ := List.exists_cons_of_ne_nil h
  simp only [close, List.map_cons, List.intercalate_cons_cons]
  congr 1
  apply String.toList_injective
  simp

theorem sound_of_mem_ofList {xs : List β} {stretch : Stretch β} (h : stretch ∈ ofList text? xs)
    : Sound text? stretch := by
  induction xs generalizing stretch with
  | nil => contradiction
  | cons x xs ih =>
    rw [ofList, List.foldr_cons, ← ofList] at h
    unfold add at h
    split at h
    . next hx =>
      rcases List.mem_cons.1 h with rfl | htail
      . exact hx
      . exact ih htail
    . next text texts rest hx hstretches =>
      rcases List.mem_cons.1 h with rfl | htail
      . apply List.cons_ne_nil
      . apply ih
        rw [hstretches]
        exact List.mem_cons_of_mem _ htail
    . rcases List.mem_cons.1 h with rfl | htail
      . apply List.cons_ne_nil
      . exact ih htail

theorem mergeRuns_cons (hlawful : Lawful text? ofText) (x : β) (xs : List β)
    : mergeRuns text? ofText (x :: xs) = prepend text? ofText x (mergeRuns text? ofText xs) := by
  have hsound : ∀ stretch ∈ ofList text? xs, Sound text? stretch :=
    fun _ => sound_of_mem_ofList
  have hofList : ofList text? (x :: xs) = add text? x (ofList text? xs) := rfl
  rw [mergeRuns, mergeRuns, hofList]
  cases hx : text? x with
  | none => simp [add, prepend, hx, close]
  | some text =>
    obtain rfl := (hlawful x text).1 hx
    cases hstretches : ofList text? xs with
    | nil => simp [add, prepend, hx, close_run_singleton]
    | cons stretch rest =>
      -- a text joins what follows it in the stretches if and only if it does so when merged
      rw [hstretches] at hsound
      have hfirst := hsound stretch List.mem_cons_self
      cases stretch with
      | run texts =>
        have hjoined : text? (close ofText (.run texts)) = some _ := hlawful.text?_ofText _
        simp [add, prepend, hx, close_run_cons text hfirst, hjoined]
      | other value =>
        have hvalue : text? value = none := hfirst
        have hclose : close ofText (.other value) = value := rfl
        simp [add, prepend, hx, close_run_singleton, hclose, hvalue]

theorem mergeRuns_eq_foldr (hlawful : Lawful text? ofText) (xs : List β)
    : mergeRuns text? ofText xs = xs.foldr (prepend text? ofText) [] := by
  induction xs with
  | nil => rfl
  | cons x xs ih => rw [mergeRuns_cons hlawful, ih, List.foldr_cons]

theorem mergeRuns_append (hlawful : Lawful text? ofText) (xs ys : List β)
    : mergeRuns text? ofText (xs ++ ys)
      = xs.foldr (prepend text? ofText) (mergeRuns text? ofText ys) := by
  rw [mergeRuns_eq_foldr hlawful, mergeRuns_eq_foldr hlawful, List.foldr_append]

theorem prepend_of_text?_eq_none {x : β} (hx : text? x = none) (merged : List β)
    : prepend text? ofText x merged = x :: merged := by
  simp [prepend, hx]

theorem prepend_prepend (hlawful : Lawful text? ofText) (front behind : String) (merged : List β)
    : prepend text? ofText (ofText front) (prepend text? ofText (ofText behind) merged)
      = prepend text? ofText (ofText (front ++ " " ++ behind)) merged := by
  have htext := hlawful.text?_ofText
  cases merged with
  | nil => simp [prepend, htext]
  | cons y rest =>
    cases hy : text? y with
    | none => simp [prepend, htext, hy]
    | some last => simp [prepend, htext, hy, String.append_assoc]

theorem foldr_prepend (hlawful : Lawful text? ofText) (x : β) (merged behind : List β)
    : (prepend text? ofText x merged).foldr (prepend text? ofText) behind
      = prepend text? ofText x (merged.foldr (prepend text? ofText) behind) := by
  cases hx : text? x with
  | none => rw [prepend_of_text?_eq_none hx, List.foldr_cons]
  | some front =>
    obtain rfl := (hlawful x front).1 hx
    cases merged with
    | nil => simp [prepend, hx]
    | cons y rest =>
      cases hy : text? y with
      | none => simp [prepend, hx, hy]
      | some text =>
        obtain rfl := (hlawful y text).1 hy
        have hjoined : prepend text? ofText (ofText front) (ofText text :: rest)
            = ofText (front ++ " " ++ text) :: rest := by
          simp [prepend, hx, hy]
        rw [hjoined, List.foldr_cons, List.foldr_cons, prepend_prepend hlawful]

theorem mergeRuns_mergeRuns_append (hlawful : Lawful text? ofText) (xs ys : List β)
    : mergeRuns text? ofText (mergeRuns text? ofText xs ++ ys)
      = mergeRuns text? ofText (xs ++ ys) := by
  rw [mergeRuns_append hlawful, mergeRuns_append hlawful]
  induction xs with
  | nil => rfl
  | cons x xs ih => rw [mergeRuns_cons hlawful, foldr_prepend hlawful, ih, List.foldr_cons]

theorem mergeRuns_mergeRuns (hlawful : Lawful text? ofText) (xs : List β)
    : mergeRuns text? ofText (mergeRuns text? ofText xs) = mergeRuns text? ofText xs := by
  have := mergeRuns_mergeRuns_append hlawful xs []
  rw [List.append_nil, List.append_nil] at this
  exact this

theorem mergeRuns_append_mergeRuns (hlawful : Lawful text? ofText) (xs ys : List β)
    : mergeRuns text? ofText (xs ++ mergeRuns text? ofText ys)
      = mergeRuns text? ofText (xs ++ ys) := by
  rw [mergeRuns_append hlawful, mergeRuns_append hlawful, mergeRuns_mergeRuns hlawful]

theorem mergeRuns_mergeRuns_append_mergeRuns (hlawful : Lawful text? ofText) (xs ys : List β)
    : mergeRuns text? ofText (mergeRuns text? ofText xs ++ mergeRuns text? ofText ys)
      = mergeRuns text? ofText (xs ++ ys) := by
  rw [mergeRuns_mergeRuns_append hlawful, mergeRuns_append_mergeRuns hlawful]

theorem prepend_append_cons {value : β} (hvalue : text? value = none) (x : β)
    (merged behind : List β)
    : prepend text? ofText x (merged ++ value :: behind)
      = prepend text? ofText x merged ++ value :: behind := by
  cases hx : text? x with
  | none => simp [prepend, hx]
  | some text =>
    cases merged with
    | nil => simp [prepend, hx, hvalue]
    | cons y rest =>
      cases hy : text? y with
      | none => simp [prepend, hx, hy]
      | some last => simp [prepend, hx, hy]

/--
An element that is not a text keeps what stands before it apart from what stands behind it.
-/
theorem mergeRuns_append_cons (hlawful : Lawful text? ofText) {value : β}
    (hvalue : text? value = none) (xs ys : List β)
    : mergeRuns text? ofText (xs ++ value :: ys)
      = mergeRuns text? ofText xs ++ value :: mergeRuns text? ofText ys := by
  rw [mergeRuns_append hlawful, mergeRuns_cons hlawful, prepend_of_text?_eq_none hvalue]
  induction xs with
  | nil => rfl
  | cons x xs ih =>
    rw [List.foldr_cons, ih, mergeRuns_cons hlawful, prepend_append_cons hvalue]

end Stretch

namespace Filter

theorem lawful_text? : Stretch.Lawful text? .text := by
  intro filter searchText
  cases filter with
  | object objectType objectName => simp [text?]
  | field fieldType fieldName => simp [text?]
  | text searchText' => simp [text?]

theorem merge_cons (filter : Filter) (filters : List Filter)
    : merge (filter :: filters) = Stretch.prepend text? .text filter (merge filters) :=
  Stretch.mergeRuns_cons lawful_text? filter filters

theorem merge_singleton (filter : Filter) : merge [filter] = [filter] := by
  rw [merge_cons]
  cases filter with
  | object objectType objectName => rfl
  | field fieldType fieldName => rfl
  | text searchText => rfl

theorem merge_text_text (front behind : String) (filters : List Filter)
    : merge (.text front :: .text behind :: filters)
      = merge (.text (front ++ " " ++ behind) :: filters) := by
  rw [merge_cons, merge_cons, merge_cons, Stretch.prepend_prepend lawful_text?]

theorem merge_merge_append_merge (filters others : List Filter)
    : merge (merge filters ++ merge others) = merge (filters ++ others) :=
  Stretch.mergeRuns_mergeRuns_append_mergeRuns lawful_text? filters others

theorem merge_append_cons {separator : Filter} (h : separator.text? = none)
    (filters others : List Filter)
    : merge (filters ++ separator :: others) = merge filters ++ separator :: merge others :=
  Stretch.mergeRuns_append_cons lawful_text? h filters others

end Filter

end SearchBox
