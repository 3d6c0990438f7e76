import SearchBox.Service.Http

/-!
This module contains the way of a request through the service over HTTP: the endpoint that it
reaches, the decoding of its body, and the answer. The last statement says that only requests for
operators are answered with a look at the session, and only if their bodies can be decoded.
-/

namespace SearchBox.Http

/--
The endpoint that a request reaches, with the path and the method of that endpoint.
-/
def Request.endpoint? (request : Request) : Option Endpoint :=
  (Endpoint.ofTarget? request.target).filter (fun endpoint => request.verb == endpoint.method)

/--
The answer to a request for operators under settings that may not be valid.
-/
def operatorsResponse (settings? : Option Settings) (body : Option Json) : Response :=
  match settings? with
  | none => .serverError
  | some settings =>
    respond readQueryModes
      (fun (query, modes) => Answer.operators (settings.optionsFor modes) query) body

theorem Request.endpoint?_eq_some_iff {request : Request} {endpoint : Endpoint}
    : request.endpoint? = some endpoint
      ↔ Endpoint.ofTarget? request.target = some endpoint ∧ request.verb = endpoint.method := by
  rw [endpoint?, Option.filter_eq_some_iff, beq_iff_eq]

theorem Request.not_verb_bne_method {request : Request} {endpoint : Endpoint}
    (h : request.endpoint? = some endpoint) : ¬(request.verb != endpoint.method) = true := by
  simp [(endpoint?_eq_some_iff.1 h).2]

theorem Request.verb_beq_head {request : Request} {endpoint : Endpoint}
    (h : request.endpoint? = some endpoint) : (request.verb == "HEAD") = false := by
  rw [(endpoint?_eq_some_iff.1 h).2]
  cases endpoint with
  | health => rfl
  | parse => rfl
  | operators => rfl

namespace Response

theorem status_unprocessable (faults : List BodyFault)
    : (unprocessable faults).status
      = if faults.all (·.input.isWritable) then 422 else 500 := by
  rw [unprocessable]
  split
  . rfl
  . rfl

theorem status_unprocessable_eq_500_iff {faults : List BodyFault}
    : (unprocessable faults).status = 500
      ↔ ∃ fault ∈ faults, fault.input.isWritable = false := by
  rw [status_unprocessable]
  simp

theorem status_undecodable_ne (reason : Undecodable) : (undecodable reason).status ≠ 500 := by
  cases reason with
  | malformed position text => simp [undecodable]
  | unreadable => simp [undecodable]

end Response

namespace Session

theorem serve_operators {body : Body} {decoded : Option Json} (h : body.decode = .ok decoded)
    (session : Session)
    : session.serve .operators body
      = (session.settings.1, operatorsResponse session.settings.2 decoded) := by
  unfold serve
  rw [h]
  cases hsettings : session.settings with
  | mk next settings? =>
    cases settings? with
    | none => rfl
    | some settings => rfl

theorem serve_undecodable {endpoint : Endpoint} (hne : endpoint ≠ .health) {body : Body}
    {reason : Undecodable} (h : body.decode = .error reason) (session : Session)
    : session.serve endpoint body = (session, .undecodable reason) := by
  unfold serve
  rw [h]
  cases endpoint with
  | health => contradiction
  | parse => rfl
  | operators => rfl

theorem serve_parse {body : Body} {decoded : Option Json} (h : body.decode = .ok decoded)
    (session : Session)
    : session.serve .parse body = (session, Http.respond readQuery Answer.filters decoded) := by
  unfold serve
  rw [h]

theorem respond_of_endpoint? {request : Request} {endpoint : Endpoint}
    (h : request.endpoint? = some endpoint) (session : Session)
    : session.respond request = session.serve endpoint request.body := by
  unfold respond handle
  rw [(Request.endpoint?_eq_some_iff.1 h).1, Request.verb_beq_head h]
  simp only
  rw [if_neg (Request.not_verb_bne_method h)]
  rfl

/--
A request that reaches no endpoint is refused, whatever the session is.
-/
theorem exists_handle_eq {request : Request} (h : request.endpoint? = none)
    : ∃ refusal, (refusal = .notFound ∨ refusal = .methodNotAllowed)
      ∧ ∀ session : Session, session.handle request = (session, refusal) := by
  unfold handle
  cases htarget : Endpoint.ofTarget? request.target with
  | none => exact ⟨_, .inl rfl, fun _ => rfl⟩
  | some endpoint =>
    have hverb : request.verb ≠ endpoint.method := by
      intro hverb
      rw [Request.endpoint?_eq_some_iff.2 ⟨htarget, hverb⟩] at h
      contradiction
    refine ⟨_, .inr rfl, ?_⟩
    intro session
    simp [hverb]

end Session

end SearchBox.Http
