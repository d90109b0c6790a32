import PanelQuery.Datasource

/-!
# Data sources - sessions

A session is a row of calls to one data source, over a service that may answer by everything it has
been asked before.  Whatever is called and whatever the service answers, each request goes to the
endpoint of its call, is put together as the service expects it, and carries the credentials of the
data source.

Main results:

- `Datasource.sendsProperly_perform`: what a single call sends.
- `Datasource.session_sent`: what every call of a session sends.
-/

namespace PanelQuery

open Template Service

/-! ## Requests -/

namespace Service

/-- The values of all headers of a name, in order. -/
def headerValues (name : String) (headers : List (String × String)) : List String :=
  (headers.filter fun h => Request.foldHeaderName h.1 == Request.foldHeaderName name).map (·.2)

theorem headerValues_cons_self (name value : String) (headers : List (String × String)) :
    headerValues name ((name, value) :: headers) = value :: headerValues name headers := by
  simp [headerValues]

theorem headerValues_cons_of_ne {name key : String}
    (h : Request.foldHeaderName key ≠ Request.foldHeaderName name) (value : String)
    (headers : List (String × String)) :
    headerValues name ((key, value) :: headers) = headerValues name headers := by
  simp [headerValues, h]

/-- A request that is put together as the service expects it, with some credentials. -/
structure Request.IsProper (credentials : Credentials) (r : Request) : Prop where
  test : r.endpoint.path = "/test" →
    r.method.name = "GET" ∧ r.body = none ∧ headerValues "Content-Type" r.headers = []
  others : r.endpoint.path ≠ "/test" →
    r.method.name = "POST" ∧ (∃ members, r.body = some (.object members)) ∧
      headerValues "Content-Type" r.headers = ["application/json"]
  authorization : headerValues "Authorization" r.headers = credentials.authorization.toList
  withCredentials : r.withCredentials = true ↔
    credentials.authorization.isSome = true ∨ credentials.forwards = true

theorem Credentials.headerValues_contentType (c : Credentials) :
    headerValues "Content-Type" c.headers = [] := by
  unfold headers
  split
  · rw [headerValues_cons_of_ne (by decide +kernel)]
    rfl
  · rfl

theorem Credentials.headerValues_authorization (c : Credentials) :
    headerValues "Authorization" c.headers = c.authorization.toList := by
  unfold headers
  split
  · rename_i value hvalue
    rw [headerValues_cons_self, hvalue]
    rfl
  · rename_i hnone
    rw [hnone]
    rfl

theorem Credentials.withCredentials_iff (c : Credentials) :
    c.withCredentials = true ↔ c.authorization.isSome = true ∨ c.forwards = true := by
  simp [withCredentials]

/-- A request that posts an object is proper, unless it goes to the test endpoint. -/
theorem Request.isProper_post {endpoint : Endpoint} (h : endpoint.path ≠ "/test")
    (members : List (String × Json)) (credentials : Credentials) :
    (Request.post endpoint (.object members) credentials).IsProper credentials where
  test htest := absurd htest h
  others _ := by
    refine ⟨rfl, ⟨members, rfl⟩, ?_⟩
    rw [post_headers, headerValues_cons_self, credentials.headerValues_contentType]
  authorization := by
    rw [post_headers, headerValues_cons_of_ne (by decide +kernel)]
    exact credentials.headerValues_authorization
  withCredentials := credentials.withCredentials_iff

/-- A request without a body is proper at the test endpoint. -/
theorem Request.isProper_get (credentials : Credentials) :
    (Request.get .test credentials).IsProper credentials where
  test _ := ⟨rfl, rfl, credentials.headerValues_contentType⟩
  others h := absurd rfl h
  authorization := credentials.headerValues_authorization
  withCredentials := credentials.withCredentials_iff

end Service

/-! ## Calls -/

/-- A call to a data source. -/
inductive Call where
  | refresh (r : Refresh)
  | check
  | columns
  | values (field : String)
  | conditionValues (t : Target) (group condition : Nat) (like : String)
  | search (text : String) (range : Option TimeRange)
  | tables (name : Option String)
  | metrics (series : String) (kind : LookupKind)
  | operators
  | parentBindings (field : String)
  | measurementType
  | compile (scope : Scope) (t : Target)

/-- What a call gives. -/
inductive Outcome where
  | data (result : Except RefreshFault Json)
  | checked (result : CheckOutcome)
  | suggestions (result : Except LookupFault (List Suggestion))
  | values (result : Except LookupFault (List Json))
  | bindings (result : List Binding)
  | name (result : String)
  | compiled (result : Except CompileFault CompiledQuery)

/-- The path that a call asks; some calls are answered without the service. -/
def Call.path? : Call → Option String
  | .refresh _ => some "/query"
  | .check => some "/test"
  | .columns | .values _ | .conditionValues .. | .search .. | .tables _ | .metrics .. =>
    some "/search"
  | .operators | .parentBindings _ | .measurementType | .compile .. => none

namespace Datasource

/-- Carry out a call. -/
def perform (ds : Datasource) (transport : Transport) : Call → Exchange Outcome
  | .refresh r => (ds.refresh transport r).map .data
  | .check => (ds.check transport).map .checked
  | .columns => (ds.columns transport).map .suggestions
  | .values field => (ds.values transport field).map .suggestions
  | .conditionValues t group condition like =>
    (ds.conditionValues transport t group condition like).map .values
  | .search text range => (ds.search transport text range).map .suggestions
  | .tables name => (ds.tables transport name).map .suggestions
  | .metrics series kind => (ds.metrics transport series kind).map .suggestions
  | .operators => .settled (.suggestions (.ok operators))
  | .parentBindings field => .settled (.bindings (ds.parentBindings field))
  | .measurementType => .settled (.name ds.measurementType)
  | .compile scope t => .settled (.compiled (t.compile ds.dashboard ds.name scope))

/-- What a call may send: one proper request to its path, or nothing. -/
structure SendsProperly (ds : Datasource) (call : Call) (sent : List Request) : Prop where
  length_le : sent.length ≤ 1
  eq_nil : call.path? = none → sent = []
  path : ∀ r ∈ sent, call.path? = some r.endpoint.path
  proper : ∀ r ∈ sent, r.IsProper ds.credentials

variable {ds : Datasource} {call : Call}

theorem sendsProperly_nil : ds.SendsProperly call [] where
  length_le := Nat.zero_le 1
  eq_nil _ := rfl
  path := by simp
  proper := by simp

theorem sendsProperly_singleton {r : Request} (hpath : call.path? = some r.endpoint.path)
    (hproper : r.IsProper ds.credentials) : ds.SendsProperly call [r] where
  length_le := Nat.le_refl 1
  eq_nil hnone := by simp [hpath] at hnone
  path := by simpa using hpath
  proper := by simpa using hproper

/-- A lookup posts its body to the search endpoint. -/
theorem sendsProperly_lookupRequest (l : Lookup) (hpath : call.path? = some "/search") :
    ds.SendsProperly call [ds.lookupRequest l] :=
  sendsProperly_singleton hpath (Request.isProper_post (by decide) _ ds.credentials)

theorem sendsProperly_refresh (transport : Transport) (r : Refresh) :
    ds.SendsProperly (.refresh r) (ds.refresh transport r).sent := by
  unfold refresh
  split
  · exact sendsProperly_nil
  · exact sendsProperly_nil
  · exact sendsProperly_singleton rfl (Request.isProper_post (by decide) _ ds.credentials)

theorem sendsProperly_conditionValues (transport : Transport) (t : Target) (group condition : Nat)
    (like : String) : ds.SendsProperly (.conditionValues t group condition like)
      (ds.conditionValues transport t group condition like).sent := by
  unfold conditionValues
  split
  · exact sendsProperly_lookupRequest _ rfl
  · exact sendsProperly_nil

/-- Whatever is called, what is sent is proper. -/
theorem sendsProperly_perform (ds : Datasource) (transport : Transport) (call : Call) :
    ds.SendsProperly call (ds.perform transport call).sent := by
  cases call with
  | refresh r => exact sendsProperly_refresh transport r
  | check => exact sendsProperly_singleton rfl (Request.isProper_get ds.credentials)
  | columns => exact sendsProperly_lookupRequest _ rfl
  | values field => exact sendsProperly_lookupRequest _ rfl
  | conditionValues t group condition like =>
      exact sendsProperly_conditionValues transport t group condition like
  | search text range => exact sendsProperly_lookupRequest _ rfl
  | tables name => exact sendsProperly_lookupRequest _ rfl
  | metrics series kind => exact sendsProperly_lookupRequest _ rfl
  | operators => exact sendsProperly_nil
  | parentBindings field => exact sendsProperly_nil
  | measurementType => exact sendsProperly_nil
  | compile scope t => exact sendsProperly_nil

/-! ## Sessions -/

/-- Calls one after the other.  How the service answers may depend on all the requests that it has
seen. -/
def session (ds : Datasource) (service : List Request → Transport) :
    List Request → List Call → List (Call × Exchange Outcome)
  | _, [] => []
  | seen, call :: calls =>
    let exchange := ds.perform (service seen) call
    (call, exchange) :: session ds service (seen ++ exchange.sent) calls

theorem session_calls (ds : Datasource) (service : List Request → Transport) (seen : List Request)
    (calls : List Call) : (ds.session service seen calls).map (·.1) = calls := by
  induction calls generalizing seen with
  | nil => rfl
  | cons call calls ih => rw [session, List.map_cons, ih]

/-- In every session each call sends what it may send, whatever the service has seen and answers. -/
theorem session_sent (ds : Datasource) (service : List Request → Transport) (seen : List Request)
    (calls : List Call) :
    (ds.session service seen calls).map (·.1) = calls ∧
      ∀ step ∈ ds.session service seen calls, ds.SendsProperly step.1 step.2.sent := by
  refine ⟨session_calls ds service seen calls, ?_⟩
  induction calls generalizing seen with
  | nil => simp [session]
  | cons call calls ih =>
      rw [session, List.forall_mem_cons]
      exact ⟨ds.sendsProperly_perform (service seen) call, ih _⟩

end Datasource
end PanelQuery
