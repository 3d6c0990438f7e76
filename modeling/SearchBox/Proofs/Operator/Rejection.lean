import SearchBox.Proofs.Filter.Sections
import SearchBox.Proofs.Operator.Compile

/-!
This module contains the rejection of entries that are not filters. The compilation stops at the
first of them wherever it stands, and merging changes neither which entries these are nor their
order.
-/

namespace SearchBox

variable {α : Type}

namespace Entry

/--
The value of an entry that is not a filter.
-/
def foreign? : Entry α → Option α
  | .filter _ => none
  | .foreign value => some value

theorem eq_filters_or_append (entries : List (Entry α))
    : (∃ filters : List Filter, entries = filters.map .filter)
      ∨ ∃ (filters : List Filter) (value : α) (rest : List (Entry α)),
          entries = filters.map .filter ++ .foreign value :: rest := by
  induction entries with
  | nil => exact .inl ⟨[], rfl⟩
  | cons entry entries ih =>
    cases entry with
    | foreign value => exact .inr ⟨[], value, entries, rfl⟩
    | filter filter =>
      rcases ih with ⟨filters, rfl⟩ | ⟨filters, value, rest, rfl⟩
      . exact .inl ⟨filter :: filters, rfl⟩
      . exact .inr ⟨filter :: filters, value, rest, rfl⟩

theorem filterMap_foreign?_filters (filters : List Filter)
    : (filters.map (Entry.filter (α := α))).filterMap foreign? = [] := by
  rw [List.filterMap_map, List.filterMap_eq_nil_iff]
  intro filter _
  rfl

theorem head?_foreign?_append (filters : List Filter) (value : α) (rest : List (Entry α))
    : ((filters.map filter ++ foreign value :: rest).filterMap foreign?).head? = some value := by
  rw [List.filterMap_append, filterMap_foreign?_filters]
  rfl

theorem filterMap_foreign?_others (entries : List (Entry α))
    : (entries.filter (fun entry => entry.text?.isNone)).filterMap foreign?
      = entries.filterMap foreign? := by
  rw [List.filterMap_filter]
  congr
  funext entry
  cases entry with
  | foreign value => rfl
  | filter filter => simp [foreign?]

theorem filterMap_foreign?_merge (entries : List (Entry α))
    : (merge entries).filterMap foreign? = entries.filterMap foreign? := by
  rw [← filterMap_foreign?_others, ← filterMap_foreign?_others entries, merge,
    Stretch.filter_mergeRuns lawful_text?]

end Entry

namespace Operator

variable (base : Options)

/--
No filter before an entry that is not a filter takes it, and nothing behind it is looked at.
-/
theorem ofEntries_filters_append (filters : List Filter) (value : α) (rest : List (Entry α))
    : ofEntries base (filters.map .filter ++ .foreign value :: rest) = .error ⟨value⟩ := by
  have hnext : ∀ entry ∈ (Entry.foreign value :: rest).head?, entry.text? = none := by
    simp [Entry.text?]
  rw [ofEntries, Compile.steps_append base hnext, Compile.steps_map_filter, Compile.steps]
  rfl

example : ofEntries {} [.filter (.object "metric" ""), .foreign 7, .filter (.text "a")]
    = .error ⟨7⟩ := rfl

variable {base} {entries : List (Entry α)} {e : NotAFilter α}

theorem ofEntries_eq_error_iff_head?
    : ofEntries base entries = .error e
      ↔ (entries.filterMap Entry.foreign?).head? = some e.value := by
  rcases Entry.eq_filters_or_append entries with ⟨filters, rfl⟩ | ⟨filters, value, rest, rfl⟩
  . rw [ofEntries_map_filter, Entry.filterMap_foreign?_filters]
    simp
  . rw [ofEntries_filters_append, Entry.head?_foreign?_append, Except.error.injEq,
      Option.some.injEq]
    cases e
    rw [NotAFilter.mk.injEq]

theorem ofEntries_eq_error_iff
    : ofEntries base entries = .error e
      ↔ ∃ (filters : List Filter) (rest : List (Entry α)),
          entries = filters.map .filter ++ .foreign e.value :: rest := by
  constructor
  . intro h
    rw [ofEntries_eq_error_iff_head?] at h
    rcases Entry.eq_filters_or_append entries with ⟨filters, rfl⟩ | ⟨filters, value, rest, rfl⟩
    . rw [Entry.filterMap_foreign?_filters] at h
      contradiction
    . rw [Entry.head?_foreign?_append, Option.some.injEq] at h
      exact ⟨filters, rest, by rw [h]⟩
  . rintro ⟨filters, rest, rfl⟩
    exact ofEntries_filters_append base filters e.value rest

theorem exists_ofEntries_eq_error_iff
    : (∃ e, ofEntries base entries = .error e) ↔ ∃ value, .foreign value ∈ entries := by
  constructor
  . rintro ⟨e, h⟩
    obtain ⟨filters, rest, rfl⟩ := ofEntries_eq_error_iff.1 h
    exact ⟨e.value, List.mem_append_right _ List.mem_cons_self⟩
  . rintro ⟨value, hvalue⟩
    rcases Entry.eq_filters_or_append entries with ⟨filters, rfl⟩ | ⟨filters, first, rest, rfl⟩
    . simp at hvalue
    . exact ⟨_, ofEntries_filters_append base filters first rest⟩

theorem ofEntries_merge_eq_error_iff
    : ofEntries base (Entry.merge entries) = .error e ↔ ofEntries base entries = .error e := by
  rw [ofEntries_eq_error_iff_head?, ofEntries_eq_error_iff_head?, Entry.filterMap_foreign?_merge]

end Operator

end SearchBox
