import SearchBox.Operator.Reader
import SearchBox.Plan
import SearchBox.Service.Answer
import SearchBox.Settings

/-!
This module contains the tools that a server offers to a language model: they answer the filters of
a query, its operators, or the plan of a search.
-/

namespace SearchBox.Tools

inductive Call where
  | parse (query : String)
  | compile (query : String) (modes : Modes)
  | plan (query : String) (files : List (String × String)) (id : Json)

inductive Request where
  | configure (given : List (String × Json))
  | call (tool : Call)

/--
The files of a plan. Of contents for the same path, the last one counts.
-/
def filesOf (files : List (String × String)) : List File :=
  (OrderedMap.ofList files).toList.map (fun entry => ⟨entry.1, entry.2⟩)

/--
The answer of the tool that plans a search. The number of the search is answered as it was given.
-/
def planAnswer (options : Options) (query : String) (files : List (String × String)) (id : Json)
    : Checked Json := do
  let ops := Operator.ofQuery options query
  let number ← Json.readSearchId id
  let jobs := (Plan.ofSource (.list (filesOf files)) ops number).jobs
  let units := jobs.map fun job =>
    Json.object [("path", .string job.file.path), ("operator", job.op.toJson)]
  return .object [("search_id", id), ("count", .ofNat jobs.length), ("units", .array units)]

def Call.answer (settings : Settings) : Call → Checked Json
  | .parse query => .ok (Answer.filters query)
  | .compile query modes => .ok (Answer.operators (settings.optionsFor modes) query)
  | .plan query files id => planAnswer settings.baseOptions query files id

/--
The settings of the server after a request, and the answer to it. New settings are answered by the
options that they give to each operator. If they are not valid, the old ones stay.
-/
def Request.answer (settings : Settings) : Request → Settings × Checked Json
  | .configure given =>
    match Settings.load [] given with
    | .ok settings => (settings, .ok settings.baseOptions.toJson)
    | .error faults => (settings, .error faults)
  | .call tool => (settings, tool.answer settings)

/--
The answers of a server that starts with these settings. A request that fails does not keep the
server from answering the next one.
-/
def run (settings : Settings) : List Request → List (Checked Json)
  | [] => []
  | request :: requests =>
    let (settings, reply) := request.answer settings
    reply :: run settings requests

end SearchBox.Tools
