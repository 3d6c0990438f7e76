import SearchBox.Filter.Merge
import SearchBox.Journal
import SearchBox.Operator.Compile
import SearchBox.Token.Scanner

/-!
This module contains the way of a query through its stages: from the text to tokens, filters and
operators. Each stage reports what it did.
-/

namespace SearchBox

open Journal

namespace Query

def tokens (query : String) : Logged (List Token) :=
  let tokens := Token.tokenize query
  if query.toList.all Text.isBlank then
    -- a blank query is not worth a report
    ⟨tokens, []⟩
  else
    ⟨tokens, [.tokenized query.length tokens.length]⟩

def filters (query : String) : Logged (List Filter) := do
  let tokens ← tokens query
  let filters := Filter.merge (tokens.map Filter.ofToken)
  ⟨filters, [.parsed tokens.length filters.length]⟩

def compile (base : Options) (filters : List Filter) : Logged (List Operator) :=
  let steps := Compile.filterSteps base filters
  let ops := steps.filterMap Compile.Step.op?
  ⟨ops, (steps.filterMap Compile.Step.discarded?).map .discarded
    ++ [.compiled ops.length filters.length]⟩

def operators (base : Options) (query : String) : Logged (List Operator) := do
  let filters ← filters query
  compile base filters

theorem value_tokens (query : String) : (tokens query).value = Token.tokenize query := by
  rw [tokens]
  split <;> rfl

end Query

def Filter.ofQuery (query : String) : List Filter :=
  (Query.filters query).value

def Operator.ofQuery (base : Options) (query : String) : List Operator :=
  (Query.operators base query).value

theorem Filter.ofQuery_eq (query : String)
    : Filter.ofQuery query = Filter.merge ((Token.tokenize query).map Filter.ofToken) := by
  rw [← Query.value_tokens]
  rfl

theorem Operator.ofQuery_eq (base : Options) (query : String)
    : Operator.ofQuery base query = Operator.ofFilters base (Filter.ofQuery query) := rfl

end SearchBox
