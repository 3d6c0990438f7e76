import SearchBox.Plan
import SearchBox.Query

/-!
This module contains a whole search: a query is compiled, its operators are planned over the files,
and the plan is split into jobs.
-/

namespace SearchBox

open Journal

namespace Search

def run (operators : Logged (List Operator)) (source : FileSource) (id : Int) (take : Option Nat)
    : Logged (List Job) := do
  let ops ← operators
  (Plan.ofSource source ops id).run take

def ofQuery (base : Options) (query : String) (source : FileSource) (id : Int) (take : Option Nat)
    : Logged (List Job) :=
  run (Query.operators base query) source id take

end Search

end SearchBox
