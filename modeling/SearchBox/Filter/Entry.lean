import SearchBox.Filter.Basic
import SearchBox.Json.Basic

/-!
This module contains the entries of lists that are expected to hold filters but may hold other
values too, and the error for an entry that is not a filter.
-/

namespace SearchBox

/--
A filter, or a value of type `α` in the place of one.
-/
inductive Entry (α : Type) where
  | filter (filter : Filter)
  | foreign (value : α)
  deriving Repr

structure NotAFilter (α : Type) where
  value : α
  deriving Repr

def NotAFilter.message (e : NotAFilter Json) : String :=
  "not a filter: " ++ e.value.shown

namespace Entry

variable {α : Type}

def text? : Entry α → Option String
  | .filter f => f.text?
  | .foreign _ => none

def ofText (text : String) : Entry α :=
  .filter (.text text)

def toFilter : Entry α → Except (NotAFilter α) Filter
  | .filter f => .ok f
  | .foreign value => .error ⟨value⟩

end Entry

end SearchBox
