/-!
This module contains the journal that the stages of a search keep: what they report, how a report is
worded, and values that come with the reports made on the way to them.
-/

namespace SearchBox.Journal

inductive Level where
  | debug
  | info
  | warning
  deriving DecidableEq, Repr

def Level.rank : Level → Nat
  | .debug => 10
  | .info => 20
  | .warning => 30

def Level.name : Level → String
  | .debug => "DEBUG"
  | .info => "INFO"
  | .warning => "WARNING"

inductive Report where
  | tokenized (chars tokens : Nat)
  | parsed (tokens filters : Nat)
  | discarded (objectType : String)
  | compiled (operators filters : Nat)
  | split (id : Int) (files operators : Nat)
  deriving DecidableEq, Repr

namespace Report

def logger : Report → String
  | .tokenized .. => "aml_search.search.tokenizer"
  | .parsed .. => "aml_search.search.filters"
  | .discarded .. => "aml_search.search.operators"
  | .compiled .. => "aml_search.search.operators"
  | .split .. => "aml_search.search.dispatch"

/--
The level of a report. Only a filter without effect is of interest to the user.
-/
def level : Report → Level
  | .discarded .. => .info
  | _ => .debug

def message : Report → String
  | .tokenized chars tokens => s!"tokenized {chars} chars into {tokens} tokens"
  | .parsed tokens filters => s!"parsed {tokens} tokens into {filters} filters"
  | .discarded objectType => s!"discarding {objectType} filter with no search text after it"
  | .compiled operators filters => s!"built {operators} operators from {filters} filters"
  | .split id files operators => s!"split search {id} over {files} files and {operators} operators"

def isAtLeast (level : Level) (report : Report) : Bool :=
  level.rank ≤ report.level.rank

end Report

structure Logged (α : Type) where
  value : α
  reports : List Report := []
  deriving Repr

namespace Logged

def bind {α β : Type} (x : Logged α) (f : α → Logged β) : Logged β :=
  let y := f x.value
  ⟨y.value, x.reports ++ y.reports⟩

def reportsFrom {α : Type} (level : Level) (x : Logged α) : List Report :=
  x.reports.filter (Report.isAtLeast level)

instance : Monad Logged where
  pure value := ⟨value, []⟩
  bind := bind

end Logged

end SearchBox.Journal
