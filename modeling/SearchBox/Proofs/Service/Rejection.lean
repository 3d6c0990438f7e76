import SearchBox.Proofs.Operator.Rejection
import SearchBox.Proofs.Service.Agreement

/-!
This module contains what the services fail for: the number of a search that cannot be read,
settings that are not valid, and a fault that cannot be shown. The filters of a query are never
rejected, and the main statement sets this against the rejection of entries that are not filters.
-/

namespace SearchBox

theorem Entry.mapM_toFilter {α : Type} (filters : List Filter)
    : (filters.map (Entry.filter (α := α))).mapM toFilter = .ok filters := by
  induction filters with
  | nil => rfl
  | cons filter filters ih =>
    rw [List.map_cons, List.mapM_cons, ih]
    rfl

namespace Tools

theorem planAnswer_eq_error_iff {options : Options} {query : String}
    {files : List (String × String)} {id : Json} {faults : FieldFaults}
    : planAnswer options query files id = .error faults ↔ Json.readSearchId id = .error faults := by
  cases hid : Json.readSearchId id with
  | error found =>
    have hfails : planAnswer options query files id = .error found := by
      rw [planAnswer, hid]
      rfl
    rw [hfails, Except.error.injEq, Except.error.injEq]
  | ok number =>
    rw [planAnswer_eq_ok hid]
    simp

theorem answer_eq_error_iff {settings : Settings} {call : Call} {faults : FieldFaults}
    : call.answer settings = .error faults
      ↔ ∃ query files id, call = .plan query files id ∧ Json.readSearchId id = .error faults := by
  cases call with
  | parse query => simp [Call.answer]
  | compile query modes => simp [Call.answer]
  | plan query files id =>
    rw [Call.answer, planAnswer_eq_error_iff]
    simp

end Tools

namespace Http

/--
What is at fault in a decoded body that `read` looks into.
-/
def faultsOf {α : Type} (read : List (String × Json) → Checked α) (body : Option Json)
    : List BodyFault :=
  match checkBody read body with
  | .ok _ => []
  | .error faults => faults

def Endpoint.faults : Endpoint → Option Json → List BodyFault
  | .health => fun _ => []
  | .parse => faultsOf readQuery
  | .operators => faultsOf readQueryModes

theorem status_respond_faultsOf {α : Type} (read : List (String × Json) → Checked α)
    (answer : α → Json) (body : Option Json)
    : (respond read answer body).status = 500
      ↔ ∃ fault ∈ faultsOf read body, fault.input.isWritable = false := by
  unfold respond faultsOf
  cases checkBody read body with
  | ok value => simp [Response.ok]
  | error faults => exact Response.status_unprocessable_eq_500_iff

namespace Session

theorem status_respond_of_endpoint?_eq_none {request : Request} (h : request.endpoint? = none)
    (session : Session) : (session.respond request).2.status ≠ 500 := by
  obtain ⟨refusal, hrefusal, hhandle⟩ := exists_handle_eq h
  have hstatus : refusal.status ≠ 500 := by
    rcases hrefusal with rfl | rfl
    . simp [Response.notFound]
    . simp [Response.methodNotAllowed]
  rw [respond, hhandle]
  simp only
  split
  . exact hstatus
  . exact hstatus

theorem status_serve_eq_iff (session : Session) (endpoint : Endpoint) (body : Body)
    : (session.serve endpoint body).2.status = 500
      ↔ ∃ decoded, body.decode = .ok decoded
        ∧ (endpoint = .operators ∧ session.settings.2 = none
          ∨ ∃ fault ∈ endpoint.faults decoded, fault.input.isWritable = false) := by
  cases hbody : body.decode with
  | error reason =>
    cases endpoint with
    | health => simp [serve, Response.ok]
    | parse => simp [serve_undecodable _ hbody, Response.status_undecodable_ne]
    | operators => simp [serve_undecodable _ hbody, Response.status_undecodable_ne]
  | ok decoded =>
    cases endpoint with
    | health => simp [serve, Response.ok, Endpoint.faults]
    | parse => simp [serve_parse hbody, status_respond_faultsOf, Endpoint.faults]
    | operators =>
      rw [serve_operators hbody]
      cases session.settings.2 with
      | none => simp [operatorsResponse, Response.serverError]
      | some settings => simp [operatorsResponse, status_respond_faultsOf, Endpoint.faults]

theorem status_respond_eq_iff (session : Session) (request : Request)
    : (session.respond request).2.status = 500
      ↔ ∃ endpoint body, request.endpoint? = some endpoint ∧ request.body.decode = .ok body
        ∧ (endpoint = .operators ∧ session.settings.2 = none
          ∨ ∃ fault ∈ endpoint.faults body, fault.input.isWritable = false) := by
  cases hendpoint : request.endpoint? with
  | none => simp [status_respond_of_endpoint?_eq_none hendpoint]
  | some endpoint =>
    rw [respond_of_endpoint? hendpoint, status_serve_eq_iff]
    simp

end Session

end Http

theorem CommandLine.run_eq_error_iff {env : Environment} {arguments : List String}
    {faults : FieldFaults}
    : run env arguments = .error faults
      ↔ (∃ query modes, outcome arguments = .query query modes)
        ∧ Settings.load env [] = .error faults := by
  unfold run
  cases outcome arguments with
  | help => simp
  | refused refusal => simp
  | query query modes =>
    cases Settings.load env [] with
    | ok settings =>
      constructor
      . intro h
        contradiction
      . rintro ⟨_, h⟩
        contradiction
    | error found =>
      constructor
      . intro h
        exact ⟨⟨query, modes, rfl⟩, congrArg Except.error (Except.error.inj h)⟩
      . rintro ⟨_, h⟩
        exact congrArg Except.error (Except.error.inj h)

namespace Operator

/--
How a list of entries is rejected, as it is and when it is merged.
-/
structure Rejects {α : Type} (base : Options) (entries : List (Entry α)) : Prop where
  fails_iff : (∃ e, ofEntries base entries = .error e) ↔ ∃ value, .foreign value ∈ entries
  /--
  Behind any filters, the first entry that is not a filter is the one that the error names.
  -/
  error_iff : ∀ e, ofEntries base entries = .error e
    ↔ ∃ (filters : List Filter) (rest : List (Entry α)),
        entries = filters.map .filter ++ .foreign e.value :: rest
  foreign_merge : (Entry.merge entries).filterMap Entry.foreign?
    = entries.filterMap Entry.foreign?
  merge_error_iff : ∀ e,
    ofEntries base (Entry.merge entries) = .error e ↔ ofEntries base entries = .error e

end Operator

/--
No filter of a query is rejected where entries of the type `α` may stand in its place, and what
makes a service fail is found without a look at the filters.
-/
structure Answer.NeverRejects (α : Type) : Prop where
  operators : ∀ base query,
    Operator.ofEntries base ((Filter.ofQuery query).map (Entry.filter (α := α)))
      = .ok (Operator.ofQuery base query)
  filters : ∀ query, ((Filter.ofQuery query).map (Entry.filter (α := α))).mapM Entry.toFilter
    = .ok (Filter.ofQuery query)
  tool : ∀ (settings : Settings) (call : Tools.Call) faults, call.answer settings = .error faults
    ↔ ∃ query files id, call = .plan query files id ∧ Json.readSearchId id = .error faults
  request : ∀ (session : Http.Session) request, (session.respond request).2.status = 500
    ↔ ∃ endpoint body, request.endpoint? = some endpoint ∧ request.body.decode = .ok body
      ∧ (endpoint = .operators ∧ session.settings.2 = none
        ∨ ∃ fault ∈ endpoint.faults body, fault.input.isWritable = false)
  commandLine : ∀ env arguments faults, CommandLine.run env arguments = .error faults
    ↔ (∃ query modes, CommandLine.outcome arguments = .query query modes)
      ∧ Settings.load env [] = .error faults

/--
A list of entries is rejected for the first one that is not a filter, and the error shows it. So no
service rejects a query.
-/
theorem Operator.ofEntries_rejects {α : Type} (base : Options) (entries : List (Entry α))
    : Rejects base entries
      ∧ (∀ (filters : List Filter) (value : Json) (rest : List (Entry Json)),
          (ofEntries base (filters.map .filter ++ .foreign value :: rest)).mapError
              NotAFilter.message
            = .error ("not a filter: " ++ value.shown))
      ∧ Answer.NeverRejects α := by
  refine ⟨⟨?_, ?_, ?_, ?_⟩, ?_, ⟨?_, ?_, ?_, ?_, ?_⟩⟩
  . exact exists_ofEntries_eq_error_iff
  . exact fun _ => ofEntries_eq_error_iff
  . exact Entry.filterMap_foreign?_merge entries
  . exact fun _ => ofEntries_merge_eq_error_iff
  . intro filters value rest
    rw [ofEntries_filters_append]
    rfl
  . intro base query
    rw [ofEntries_map_filter, ofQuery_eq]
  . exact fun query => Entry.mapM_toFilter (Filter.ofQuery query)
  . exact fun _ _ _ => Tools.answer_eq_error_iff
  . exact Http.Session.status_respond_eq_iff
  . exact fun _ _ _ => CommandLine.run_eq_error_iff

end SearchBox
