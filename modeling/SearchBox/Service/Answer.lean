import SearchBox.Filter.Json
import SearchBox.Query

/-!
This module contains the answers that all services give about a query.
-/

namespace SearchBox.Answer

def filters (query : String) : Json :=
  let filters := Filter.ofQuery query
  .object [("count", .ofNat filters.length), ("filters", Filter.listToJson filters)]

def operators (options : Options) (query : String) : Json :=
  let ops := Operator.ofQuery options query
  .object [("count", .ofNat ops.length), ("operators", Operator.listToJson ops)]

end SearchBox.Answer
