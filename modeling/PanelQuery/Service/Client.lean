import PanelQuery.Json.Printer
import PanelQuery.Json.Reader
import PanelQuery.Service.Address
import PanelQuery.Service.Exchange
import PanelQuery.Text.Blank

/-!
# The service - client

The transport that sends requests over a network.  A request becomes a message to an address under a
base URL; what the network delivers for it becomes a response or a failure.

Main results:

- `Delivery.outcome_ok_iff`: a delivery is a response exactly when a text came with a status of
  success.
- `Client.transport_of_message`: the outcome of a request depends on its message alone.
-/

namespace PanelQuery
namespace Service

/-- A message as it goes over the network. -/
structure Message where
  method : Method
  address : Address
  headers : List (String × String)
  body : Option String
deriving DecidableEq, Repr

/-- How an exchange of messages broke off. -/
structure Breakdown where
  timedOut : Bool
  connecting : Bool
  detail : String
deriving DecidableEq, Repr

/-- The failure that a breakdown counts as: a timeout before a missing connection. -/
def Breakdown.toFailure (b : Breakdown) : Failure :=
  if b.timedOut then .timeout
  else if b.connecting then .unavailable
  else .unsendable b.detail

/-- What a network delivers for a message: a status and then the text, or a breakdown before either.
-/
inductive Delivery where
  | answered (status : Nat) (text : Except Breakdown String)
  | broken (breakdown : Breakdown)

/-- Anything that delivers messages. -/
abbrev Network := Message → Delivery

/-- Whether a status means success. -/
def isSuccess (status : Nat) : Bool :=
  200 ≤ status && status ≤ 299

/-- The data of a text: null for white space, the value of a JSON text, and any other text itself.
-/
def dataOf (text : String) : Json :=
  if Text.isBlankText text then .null
  else (Json.parse? text).getD (.string text)

namespace Delivery

/-- The outcome of a delivery. -/
def outcome : Delivery → Except Failure Response
  | .broken b => .error b.toFailure
  | .answered _ (.error b) => .error b.toFailure
  | .answered status (.ok text) =>
    if isSuccess status then .ok ⟨status, dataOf text⟩ else .error (.status status text)

/-- A delivery is a response exactly when a text came with a status of success. -/
theorem outcome_ok_iff {d : Delivery} {r : Response} :
    d.outcome = .ok r ↔
      ∃ status text, d = .answered status (.ok text) ∧ isSuccess status = true ∧
        r = ⟨status, dataOf text⟩ := by
  constructor
  · intro h
    match d, h with
    | .broken b, h => simp [outcome] at h
    | .answered _ (.error b), h => simp [outcome] at h
    | .answered status (.ok text), h =>
      by_cases hs : isSuccess status = true
      · refine ⟨status, text, rfl, hs, ?_⟩
        simp only [outcome, hs, if_true, Except.ok.injEq] at h
        exact h.symm
      · simp [outcome, hs] at h
  · rintro ⟨status, text, rfl, hs, rfl⟩
    simp [outcome, hs]

end Delivery

/-- Whether a text can be the value of a header: no control characters but tabs. -/
def isHeaderText (value : String) : Bool :=
  value.toList.all fun c => c == '\t' || (0x20 ≤ c.toNat && c.toNat != 0x7F)

/-- A client of the service at a base URL. -/
structure Client where
  baseUrl : String
deriving DecidableEq, Repr

namespace Client

/-- A client for a URL; slashes at its end do not count. -/
def ofUrl (url : String) : Client :=
  ⟨String.ofList ((url.toList.reverse.dropWhile (· == '/')).reverse)⟩

/-- The message for a request, or why there is none. -/
def message (c : Client) (r : Request) : Except String Message :=
  match Address.parse? (c.baseUrl ++ r.endpoint.path) with
  | none => .error "the URL has no host"
  | some address =>
    if r.headers.all fun h => isHeaderText h.2 then
      .ok ⟨r.method, address, r.headers, r.body.map Json.write⟩
    else .error "a header value has control characters"

/-- The transport over a network. -/
def transport (c : Client) (network : Network) : Transport := fun r =>
  match c.message r with
  | .ok m => (network m).outcome
  | .error detail => .error (.unsendable detail)

/-- The outcome of a request depends on its message alone. -/
theorem transport_of_message {c : Client} {r : Request} {m : Message} (h : c.message r = .ok m)
    (network : Network) : c.transport network r = (network m).outcome := by
  simp [transport, h]

/-- The messages that go over the network for some requests. -/
def messages (c : Client) (sent : List Request) : List Message :=
  sent.filterMap fun r => (c.message r).toOption

end Client
end Service
end PanelQuery
