import PanelQuery.Service.Request

/-!
# The service - exchanges

What comes of sending a request: a response, or one of four failures.  A transport is any function
that answers requests; an operation on the service yields its result together with the requests that
it sent.

Main results:

- `Exchange.ofRequest_sent`: an exchange over one request sends that request and nothing else.
-/

namespace PanelQuery
namespace Service

/-- Why a request brought no response. -/
inductive Failure where
  /-- No connection could be made. -/
  | unavailable
  /-- No answer came in time. -/
  | timeout
  /-- The request could not be put together or carried out. -/
  | unsendable (detail : String)
  /-- The service answered with an error status. -/
  | status (code : Nat) (message : String)
deriving DecidableEq, Repr

/-- The text of a failure. -/
def Failure.message : Failure → String
  | .unavailable => "TSDS unavailable"
  | .timeout => "Request timeout"
  | .unsendable detail => "Request failed: " ++ detail
  | .status code message => "TSDS error " ++ toString code ++ ": " ++ message

/-- A response of the service. -/
structure Response where
  status : Nat
  data : Json

/-- Anything that answers requests. -/
abbrev Transport := Request → Except Failure Response

/-- The result of an operation, and the requests that it sent, in order. -/
structure Exchange (α : Type) where
  sent : List Request
  result : α

namespace Exchange

variable {α β : Type}

/-- A result that needs no request. -/
def settled (result : α) : Exchange α :=
  ⟨[], result⟩

/-- Send one request. -/
def ofRequest (transport : Transport) (request : Request) : Exchange (Except Failure Response) :=
  ⟨[request], transport request⟩

/-- Apply a function to the result. -/
def map (f : α → β) (e : Exchange α) : Exchange β :=
  ⟨e.sent, f e.result⟩

@[simp]
theorem ofRequest_sent (transport : Transport) (request : Request) :
    (ofRequest transport request).sent = [request] :=
  rfl

@[simp]
theorem map_sent (f : α → β) (e : Exchange α) : (e.map f).sent = e.sent :=
  rfl

@[simp]
theorem map_result (f : α → β) (e : Exchange α) : (e.map f).result = f e.result :=
  rfl

end Exchange
end Service
end PanelQuery
