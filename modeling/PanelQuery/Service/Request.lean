import PanelQuery.Json.Basic

/-!
# The service - requests

Requests to the endpoints of the time-series service.  A request that carries a body posts it as
JSON; credentials add their header to every request.

Main results:

- `post_headers` and `get_headers`: the headers of a request, in order.
-/

namespace PanelQuery
namespace Service

/-- The endpoints of the service. -/
inductive Endpoint where
  | query
  | search
  | test
deriving DecidableEq, Repr

/-- The path of an endpoint. -/
def Endpoint.path : Endpoint → String
  | .query => "/query"
  | .search => "/search"
  | .test => "/test"

/-- The methods that requests use. -/
inductive Method where
  | get
  | post
deriving DecidableEq, Repr

/-- The name of a method. -/
def Method.name : Method → String
  | .get => "GET"
  | .post => "POST"

/-- Credentials for every request: the value of the authorization header, and whether to forward the
credentials of the environment. -/
structure Credentials where
  authorization : Option String := none
  forwards : Bool := false
deriving DecidableEq, Repr

namespace Credentials

/-- No credentials. -/
def anonymous : Credentials := {}

/-- Credentials in a ready-made header value. -/
def basic (value : String) : Credentials :=
  ⟨some value, true⟩

/-- The header that credentials add. -/
def headers (c : Credentials) : List (String × String) :=
  match c.authorization with
  | some value => [("Authorization", value)]
  | none => []

/-- Whether requests with these credentials ask for the credentials of the environment too. -/
def withCredentials (c : Credentials) : Bool :=
  c.authorization.isSome || c.forwards

end Credentials

/-- A request to the service. -/
structure Request where
  endpoint : Endpoint
  method : Method
  body : Option Json
  headers : List (String × String)
  withCredentials : Bool

namespace Request

/-- A request that posts a body. -/
def post (endpoint : Endpoint) (body : Json) (credentials : Credentials) : Request where
  endpoint := endpoint
  method := .post
  body := some body
  headers := ("Content-Type", "application/json") :: credentials.headers
  withCredentials := credentials.withCredentials

/-- A request without a body. -/
def get (endpoint : Endpoint) (credentials : Credentials) : Request where
  endpoint := endpoint
  method := .get
  body := none
  headers := credentials.headers
  withCredentials := credentials.withCredentials

@[simp]
theorem post_headers (endpoint : Endpoint) (body : Json) (credentials : Credentials) :
    (post endpoint body credentials).headers =
      ("Content-Type", "application/json") :: credentials.headers :=
  rfl

@[simp]
theorem get_headers (endpoint : Endpoint) (credentials : Credentials) :
    (get endpoint credentials).headers = credentials.headers :=
  rfl

/-- A header name without regard to the case of ASCII letters. -/
def foldHeaderName (name : String) : String :=
  String.ofList (name.toList.map Char.toLower)

/-- The value of the first header of a name. -/
def header? (r : Request) (name : String) : Option String :=
  (r.headers.find? fun h => foldHeaderName h.1 == foldHeaderName name).map (·.2)

end Request
end Service
end PanelQuery
