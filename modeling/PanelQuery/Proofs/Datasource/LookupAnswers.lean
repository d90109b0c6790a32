import PanelQuery.Proofs.Datasource.LookupCalls
import PanelQuery.Proofs.Service.Delivery

/-!
# Data sources - lookups over a network

What a lookup makes of the answer to it.  Every text with a status of success is good enough: the
elements of a list are what was found, and anything else is nothing found.  Only another status or
an exchange that broke off makes a lookup fail, and it passes on why.

Main results:

- `itemsOf_dataOf`: the items of a response are the elements of the list in its text.
- `Datasource.answers_over_network`: what is delivered for a request decides what comes of it.
-/

namespace PanelQuery

open Template Service

/-- The elements of the list that a text stands for; a text that stands for no list has none. -/
def elementsOf (text : String) : List Json :=
  match Json.parse? text with
  | some (.array elements) => elements
  | _ => []

/-- What a lookup call gives when it found some elements: one suggestion for each, or the elements
themselves with a note in place of none. -/
def Call.found : Call → List Json → Outcome
  | .conditionValues .., [] => .values (.ok [.string "No results found"])
  | .conditionValues .., elements => .values (.ok elements)
  | _, elements => .suggestions (.ok (elements.mapIdx Suggestion.ofItem))

/-- What a lookup call gives when its request failed. -/
def Call.failing : Call → Failure → Outcome
  | .conditionValues .., failure => .values (.error (.failed failure))
  | _, failure => .suggestions (.error (.failed failure))

/-- The items of a response are the elements of the list in its text. -/
theorem itemsOf_dataOf (text : String) : Lookup.itemsOf (dataOf text) = elementsOf text := by
  unfold elementsOf
  cases hparse : Json.parse? text with
  | some value =>
      rw [dataOf_of_parse hparse]
      cases value <;> rfl
  | none =>
      by_cases hblank : Text.isBlankText text = true
      · rw [dataOf_of_isBlankText hblank]
        rfl
      · rw [dataOf_of_parse_eq_none hblank hparse]
        rfl

theorem Call.outcomeOf_ok (call : Call) (elements : List Json) :
    call.outcomeOf (.ok elements) = call.found elements := by
  cases call with
  | conditionValues t group condition like => cases elements <;> rfl
  | _ => rfl

theorem Call.outcomeOf_error (call : Call) (failure : Failure) :
    call.outcomeOf (.error (.failed failure)) = call.failing failure := by
  cases call <;> rfl

theorem Call.failing_injective {call : Call} {failure failure' : Failure}
    (h : call.failing failure = call.failing failure') : failure = failure' := by
  cases call <;> simpa [Call.failing] using h

theorem Call.found_ne_failing (call : Call) (elements : List Json) (failure : Failure) :
    call.found elements ≠ call.failing failure := by
  cases call with
  | conditionValues t group condition like => cases elements <;> simp [Call.found, Call.failing]
  | _ => simp [Call.found, Call.failing]

namespace Datasource

variable {ds : Datasource} {c : Client} {network : Network} {call : Call} {l : Lookup}

theorem perform_result_of_transport_ok {transport : Transport} {response : Response}
    (hl : ds.lookupSent? call = some l) (h : transport (ds.lookupRequest l) = .ok response) :
    (ds.perform transport call).result = call.found (Lookup.itemsOf response.data) := by
  rw [perform_of_lookupSent hl, ← call.outcomeOf_ok]
  simp [lookup, Exchange.ofRequest, h]

theorem perform_result_of_transport_error {transport : Transport} {failure : Failure}
    (hl : ds.lookupSent? call = some l) (h : transport (ds.lookupRequest l) = .error failure) :
    (ds.perform transport call).result = call.failing failure := by
  rw [perform_of_lookupSent hl, ← call.outcomeOf_error]
  simp [lookup, Exchange.ofRequest, h]

/-- A lookup over a network fails for the failure that the delivery yields, and else gives what it
found. -/
theorem perform_result_over_network (hl : ds.lookupSent? call = some l) :
    (∀ status text, c.delivery network (ds.lookupRequest l) = .answered status (.ok text) →
      200 ≤ status → status ≤ 299 →
        (ds.perform (c.transport network) call).result = call.found (elementsOf text)) ∧
    ∀ failure, (ds.perform (c.transport network) call).result = call.failing failure ↔
      (c.delivery network (ds.lookupRequest l)).Yields (.error failure) := by
  have hfailing : ∀ failure, (c.delivery network (ds.lookupRequest l)).Yields (.error failure) →
      (ds.perform (c.transport network) call).result = call.failing failure := by
    intro failure hyields
    exact perform_result_of_transport_error hl (Client.transport_eq_iff.2 hyields)
  constructor
  · intro status text hdelivery hlow hhigh
    have hyields : (c.delivery network (ds.lookupRequest l)).Yields
        (.ok ⟨status, dataOf text⟩) := by
      rw [hdelivery]
      exact .response hlow hhigh (isDataOf_iff.2 rfl)
    rw [perform_result_of_transport_ok hl (Client.transport_eq_iff.2 hyields), itemsOf_dataOf]
  · intro failure
    refine ⟨?_, hfailing failure⟩
    intro hresult
    cases htransport : c.transport network (ds.lookupRequest l) with
    | ok response =>
        rw [perform_result_of_transport_ok hl htransport] at hresult
        exact absurd hresult (call.found_ne_failing _ failure)
    | error failure' =>
        rw [perform_result_of_transport_error hl htransport] at hresult
        obtain rfl := Call.failing_injective hresult
        exact Client.transport_eq_iff.1 htransport

theorem check_result_eq_working_iff {transport : Transport} :
    (ds.check transport).result = .working ↔
      ∃ data, transport (.get .test ds.credentials) = .ok ⟨200, data⟩ := by
  simp only [check, Exchange.map_result, Exchange.ofRequest]
  cases transport (.get .test ds.credentials) with
  | error failure => simp
  | ok response =>
      obtain ⟨status, data⟩ := response
      simp

/-- A check over a network succeeds for an answer with status 200, whatever its text is. -/
theorem check_result_over_network :
    (ds.check (c.transport network)).result = .working ↔
      ∃ text, c.delivery network (.get .test ds.credentials) = .answered 200 (.ok text) := by
  rw [check_result_eq_working_iff]
  constructor
  · rintro ⟨data, htransport⟩
    have hyields := Client.transport_eq_iff.1 htransport
    -- Of all ways to yield a result only an answer with a text gives a response.
    generalize c.delivery network (.get .test ds.credentials) = d at hyields
    cases hyields with
    | response _ _ _ => exact ⟨_, rfl⟩
  · rintro ⟨text, hdelivery⟩
    refine ⟨dataOf text, Client.transport_eq_iff.2 ?_⟩
    rw [hdelivery]
    exact .response (by decide) (by decide) (isDataOf_iff.2 rfl)

/-- What is delivered for a request decides what comes of it, for every base URL and every data
source.  A transport yields one result for it.  A lookup, where its condition is there, sends one
request; it gives what it found in any text that came with a status of success, and fails for what
the delivery fails for.  A check is content with status 200. -/
theorem answers_over_network (url : String) (network : Network) (ds : Datasource) :
    (∀ request result, (Client.ofUrl url).transport network request = result ↔
      ((Client.ofUrl url).delivery network request).Yields result) ∧
    (∀ call, Call.path? call = some "/search" → call.HasPlace →
      ∃ request, (ds.perform ((Client.ofUrl url).transport network) call).sent = [request] ∧
        (∀ status text,
          (Client.ofUrl url).delivery network request = .answered status (.ok text) →
            200 ≤ status → status ≤ 299 →
              (ds.perform ((Client.ofUrl url).transport network) call).result =
                call.found (elementsOf text)) ∧
        ∀ failure,
          (ds.perform ((Client.ofUrl url).transport network) call).result = call.failing failure ↔
            ((Client.ofUrl url).delivery network request).Yields (.error failure)) ∧
    ((ds.check ((Client.ofUrl url).transport network)).result = .working ↔
      ∃ text, (Client.ofUrl url).delivery network (.get .test ds.credentials) =
        .answered 200 (.ok text)) := by
  refine ⟨fun request result => Client.transport_eq_iff, ?_, check_result_over_network⟩
  intro call hpath hplace
  obtain ⟨l, hl⟩ := exists_lookupSent_iff.2 ⟨hpath, hplace⟩
  exact ⟨ds.lookupRequest l, perform_sent_of_lookupSent hl, perform_result_over_network hl⟩

/-- A network that answers every message with a text that is no JSON. -/
def busyNetwork : Network := fun _ => .answered 203 (.ok "busy")

/-- A data source without a dashboard. -/
def bareSource : Datasource where
  name := "flows"
  dashboard := .empty

theorem answers_over_network_busyNetwork :
    (bareSource.perform ((Client.ofUrl "http://service/").transport busyNetwork)
      (.metrics "interface" .table)).result = .suggestions (.ok []) := by
  obtain ⟨request, hsent, hfound, -⟩ := (answers_over_network "http://service/" busyNetwork
    bareSource).2.1 (.metrics "interface" .table) rfl trivial
  obtain rfl := List.singleton_inj.1 hsent
  have hmessage : ((Client.ofUrl "http://service/").message
      (bareSource.lookupRequest (bareSource.metricLookup "interface" .table))).toOption.isSome =
        true := by
    decide +kernel
  have hdelivery : (Client.ofUrl "http://service/").delivery busyNetwork
      (bareSource.lookupRequest (bareSource.metricLookup "interface" .table)) =
        .answered 203 (.ok "busy") := by
    unfold Client.delivery
    split
    · rfl
    · rename_i hnone
      simp [hnone, Except.toOption] at hmessage
  have helements : elementsOf "busy" = [] := by
    have hparse : (Json.parse? "busy").isNone = true := by decide +kernel
    rw [elementsOf, Option.isNone_iff_eq_none.1 hparse]
  rw [hfound _ _ hdelivery (by decide) (by decide), helements]
  rfl

end Datasource
end PanelQuery
