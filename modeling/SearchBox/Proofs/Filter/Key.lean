import Mathlib.Data.List.TakeWhile
import Mathlib.Data.Set.Function
import SearchBox.Filter.Json
import SearchBox.Proofs.Query.Shape
import SearchBox.Proofs.Text.Span

/-!
This module contains the reading of filters from their keys and from their JSON forms. The dashes of
a key are not escaped, so a key can be read only if the type in it has no dash of its own. The main
statement is that such a key belongs to one filter, as all keys of the filters of queries do, and
that any filter at all can be read from its JSON form.
-/

namespace SearchBox.Filter

/--
The type that a filter names is spelled without dashes.
-/
def HasPlainType : Filter → Prop
  | .object objectType _ => '-' ∉ objectType.toList
  | .field fieldType _ => '-' ∉ fieldType.toList
  | .text _ => True

instance (filter : Filter) : Decidable filter.HasPlainType :=
  match filter with
  | .object objectType _ => inferInstanceAs (Decidable ('-' ∉ objectType.toList))
  | .field fieldType _ => inferInstanceAs (Decidable ('-' ∉ fieldType.toList))
  | .text _ => inferInstanceAs (Decidable True)

/--
The text in front of the first dash, and the text behind it.
-/
def cutAtDash (text : String) : String × String :=
  (String.ofList (text.toList.takeWhile (· != '-')),
    String.ofList (text.toList.dropWhile (· != '-')).tail)

def ofKey? (key : String) : Option Filter :=
  let whole := cutAtDash key
  let typed := cutAtDash whole.2
  match whole.1 with
  | "object" => some (.object typed.1 typed.2)
  | "field" => some (.field typed.1 typed.2)
  | "text" => some (.text whole.2)
  | _ => none

theorem cutAtDash_append {front : String} (h : '-' ∉ front.toList) (behind : String)
    : cutAtDash (front ++ "-" ++ behind) = (front, behind) := by
  have hfront : ∀ c ∈ front.toList, (c != '-') = true := by
    intro c hc
    rw [bne_iff_ne]
    rintro rfl
    exact h hc
  have htext : (front ++ "-" ++ behind).toList = front.toList ++ '-' :: behind.toList := by simp
  unfold cutAtDash
  rw [htext, Text.takeWhile_append_cons (by decide), Text.dropWhile_append_cons (by decide),
    List.takeWhile_eq_self_iff.2 hfront, List.dropWhile_eq_nil_iff.2 hfront]
  simp

/--
What stands in a key behind its kind.
-/
def afterKind : Filter → String
  | .object objectType objectName => objectType ++ "-" ++ objectName
  | .field fieldType fieldName => fieldType ++ "-" ++ fieldName
  | .text searchText => searchText

theorem key_eq (filter : Filter) : filter.key = filter.kind ++ "-" ++ filter.afterKind := by
  cases filter with
  | object objectType objectName =>
    simp only [key, kind, afterKind, ← String.append_assoc]
    rfl
  | field fieldType fieldName =>
    simp only [key, kind, afterKind, ← String.append_assoc]
    rfl
  | text searchText => rfl

theorem cutAtDash_key (filter : Filter)
    : cutAtDash filter.key = (filter.kind, filter.afterKind) := by
  rw [key_eq, cutAtDash_append]
  cases filter with
  | object objectType objectName => simp [kind]
  | field fieldType fieldName => simp [kind]
  | text searchText => simp [kind]

theorem ofKey?_key {filter : Filter} (h : filter.HasPlainType)
    : ofKey? filter.key = some filter := by
  unfold ofKey?
  rw [cutAtDash_key]
  dsimp only
  cases filter with
  | object objectType objectName =>
    rw [afterKind, cutAtDash_append h]
    rfl
  | field fieldType fieldName =>
    rw [afterKind, cutAtDash_append h]
    rfl
  | text searchText => rfl

theorem eq_of_key_eq {filter other : Filter} (hfilter : filter.HasPlainType)
    (hother : other.HasPlainType) (h : filter.key = other.key) : filter = other := by
  apply Option.some.inj
  rw [← ofKey?_key hfilter, ← ofKey?_key hother, h]

theorem kindOfKey_key (filter : Filter) : kindOfKey filter.key = filter.kind := by
  have hcut : kindOfKey filter.key = (cutAtDash filter.key).1 := rfl
  rw [hcut, cutAtDash_key]

theorem toJson_eq (filter : Filter)
    : filter.toJson = .object (("type", .string filter.kind) :: filter.fields
        ++ [("key", .string filter.key)]) := by
  rw [toJson, kindOfKey_key]

theorem ofJson?_toJson (filter : Filter) : ofJson? filter.toJson = some filter := by
  rw [toJson_eq]
  cases filter with
  | object objectType objectName => rfl
  | field fieldType fieldName => rfl
  | text searchText => rfl

theorem hasPlainType_of_recognized {filter : Filter} (h : filter.Recognized)
    : filter.HasPlainType := by
  have hobject : ∀ objectType ∈ Vocabulary.objectTypes, '-' ∉ objectType.toList := by decide
  have hfield : ∀ fieldType ∈ Vocabulary.fieldKeys, '-' ∉ fieldType.toList := by decide
  cases filter with
  | object objectType objectName => exact hobject objectType h.1
  | field fieldType fieldName => exact hfield fieldType h.1
  | text searchText => trivial

/--
Filters of queries, and all others whose types have no dashes, have the same key only if they are
the same. The JSON form of any filter names its kind, and the filter can be read from it.
-/
theorem key_identifies
    : (∀ query other : String, ∀ f ∈ ofQuery query, ∀ g ∈ ofQuery other, f.key = g.key → f = g)
      ∧ Set.InjOn key {filter | filter.HasPlainType}
      ∧ ∀ filter : Filter,
        kindOfKey filter.key = filter.kind
          ∧ filter.toJson = .object (("type", .string filter.kind) :: filter.fields
            ++ [("key", .string filter.key)])
          ∧ ofJson? filter.toJson = some filter := by
  refine ⟨?_, ?_, ?_⟩
  . intro query other f hf g hg
    apply eq_of_key_eq
    . exact hasPlainType_of_recognized (recognized_of_mem_ofQuery query f hf)
    . exact hasPlainType_of_recognized (recognized_of_mem_ofQuery other g hg)
  . intro f hf g hg
    exact eq_of_key_eq hf hg
  . intro filter
    exact ⟨kindOfKey_key filter, toJson_eq filter, ofJson?_toJson filter⟩

theorem key_identifies_dashes
    : let f : Filter := .field "owner" "a-b"
      let named : Filter := .object "metric" "a-b"
      f ∈ ofQuery "x owner:a-b" ∧ f ∈ ofQuery "owner:'a-b' type:metric"
        ∧ (∀ g ∈ ofQuery "owner:'a-b' type:metric", f.key = g.key → f = g)
        ∧ named.HasPlainType
        ∧ ∀ other : Filter, other.HasPlainType → named.key = other.key → named = other := by
  have hfirst : .field "owner" "a-b" ∈ ofQuery "x owner:a-b" := by decide +kernel
  have hsecond : .field "owner" "a-b" ∈ ofQuery "owner:'a-b' type:metric" := by decide +kernel
  have hnamed : HasPlainType (.object "metric" "a-b") := by decide
  refine ⟨hfirst, hsecond, ?_, hnamed, ?_⟩
  . exact key_identifies.1 _ _ _ hfirst
  . intro other hother
    exact key_identifies.2.1 hnamed hother

/--
With a dash in the type, two filters can have the same key.
-/
example : key (.object "a-b" "c") = key (.object "a" "b-c") := by decide

end SearchBox.Filter
