import PanelQuery.Lookup.Body
import PanelQuery.Lookup.Suggestion
import PanelQuery.Service.Exchange

/-!
# Data sources

A data source answers a dashboard: it runs panel refreshes, looks up metadata for the editor and
checks that the service can be reached.  Each operation sends at most one request, and it keeps
nothing for the next one.

Main results:

- `Datasource.refresh_sent_of_fault`: a refresh that does not compile sends nothing.
-/

namespace PanelQuery

open Template Service

/-- Why a lookup failed. -/
inductive LookupFault where
  /-- The request brought no response. -/
  | failed (failure : Failure)
  /-- The target has no condition at the place. -/
  | noCondition (group condition : Nat)
deriving DecidableEq, Repr

/-- The text of a fault. -/
def LookupFault.message : LookupFault → String
  | .failed failure => "Search request failed: " ++ failure.message
  | .noCondition group condition =>
    "No where condition at group " ++ toString group ++ ", index " ++ toString condition

/-- Why a refresh failed. -/
inductive RefreshFault where
  /-- A target cannot be compiled. -/
  | notCompiled (fault : CompileFault)
  /-- The request brought no response. -/
  | failed (failure : Failure)
deriving DecidableEq, Repr

/-- The text of a fault. -/
def RefreshFault.message : RefreshFault → String
  | .notCompiled fault => "Query error: " ++ fault.message
  | .failed failure => "Transport error: " ++ failure.message

/-- What a check of the service found. -/
inductive CheckOutcome where
  | working
  | notWorking
deriving DecidableEq, Repr

namespace CheckOutcome

/-- Whether the service works. -/
def isSuccess : CheckOutcome → Bool
  | .working => true
  | .notWorking => false

/-- An outcome as a document. -/
def toJson : CheckOutcome → Json
  | .working => .object [
      ("status", .string "success"), ("message", .string "Data source is working"),
      ("title", .string "Success")]
  | .notWorking => .object [("error", .string "Data source isn't working")]

end CheckOutcome

/-- A data source of a dashboard.  Adhoc filters are bound to its name. -/
structure Datasource where
  name : String
  dashboard : Dashboard := .empty
  credentials : Credentials := .anonymous

namespace Datasource

/-! ## What the dashboard says -/

/-- The measurement type when the dashboard names none. -/
def defaultMeasurementType : String := "interface"

/-- The target of a lookup of measurement types that names none. -/
def defaultTableTarget : String := "Find tables"

/-- The measurement type: the name of the first variable that carries filters. -/
def measurementType (ds : Datasource) : String :=
  ((ds.dashboard.declarations.find? (·.isAdhoc)).map (·.name)).getD defaultMeasurementType

/-- What is bound before a field: every variable with values, and the filters up to the first one on
the field. -/
def parentBindings (ds : Datasource) (field : String) : List Binding :=
  ds.dashboard.valued.map (fun v => ⟨v.name, v.current⟩) ++
    ((ds.dashboard.filtersOf ds.name).takeWhile fun f => f.key != field).map fun f =>
      ⟨f.key, some (.single f.value)⟩

/-! ## Lookups -/

/-- The lookup of columns. -/
def columnsLookup (ds : Datasource) : Lookup :=
  .columns (ds.dashboard.resolveLookup ds.measurementType)

/-- The lookup of the values of a field, narrowed by what is bound before it. -/
def valuesLookup (ds : Datasource) (field : String) : Lookup :=
  .valuesUnder (ds.dashboard.resolveLookup ds.measurementType) (ds.parentBindings field)
    (ds.dashboard.resolveLookup field) ""

/-- The condition that narrows another one of its group: the first one elsewhere in the group whose
field has been filled in.  A group of one is not searched. -/
def siblingOf (conditions : List Target.Condition) (index : Nat) : Option Target.Condition :=
  if 1 < conditions.length then
    (conditions.zipIdx.find? fun c => c.2 != index && c.1.hasField).map (·.1)
  else none

/-- The lookup of the values for a condition of a target. -/
def conditionLookup (ds : Datasource) (t : Target) (group condition : Nat) (like : String) :
    Except LookupFault Lookup :=
  match t.groups[group]? with
  | none => .error (.noCondition group condition)
  | some g =>
    match g.conditions[condition]? with
    | none => .error (.noCondition group condition)
    | some c =>
      let resolve := ds.dashboard.resolveLookup
      match siblingOf g.conditions condition with
      | some s =>
        .ok (.valuesBeside (resolve t.series) (resolve c.left) (resolve like) (resolve s.left)
          (resolve s.right))
      | none => .ok (.values (resolve t.series) (resolve c.left) (resolve like))

/-- The lookup of a free search. -/
def searchLookup (ds : Datasource) (text : String) (range : Option TimeRange) : Lookup :=
  { target := ds.dashboard.resolveLookupTarget text, kind := .search, range }

/-- The lookup of measurement types. -/
def tablesLookup (ds : Datasource) (name : Option String) : Lookup :=
  { target := ds.dashboard.resolveLookup (name.getD defaultTableTarget), kind := .table }

/-- The lookup of a type that the editor names. -/
def metricLookup (ds : Datasource) (series : String) (kind : LookupKind) : Lookup :=
  { target := ds.dashboard.resolveLookup series, kind }

/-- The request of a lookup. -/
def lookupRequest (ds : Datasource) (l : Lookup) : Request :=
  .post .search l.toJson ds.credentials

/-- Carry out a lookup, and give what it finds. -/
def lookup (ds : Datasource) (transport : Transport) (l : Lookup) :
    Exchange (Except LookupFault (List Json)) :=
  (Exchange.ofRequest transport (ds.lookupRequest l)).map fun
    | .ok response => .ok (Lookup.itemsOf response.data)
    | .error failure => .error (.failed failure)

/-- Carry out a lookup, and give what it finds as suggestions. -/
def suggest (ds : Datasource) (transport : Transport) (l : Lookup) :
    Exchange (Except LookupFault (List Suggestion)) :=
  (ds.lookup transport l).map (·.map Suggestion.ofData)

/-- The columns of the measurement type. -/
def columns (ds : Datasource) (transport : Transport) :
    Exchange (Except LookupFault (List Suggestion)) :=
  ds.suggest transport ds.columnsLookup

/-- The values of a field. -/
def values (ds : Datasource) (transport : Transport) (field : String) :
    Exchange (Except LookupFault (List Suggestion)) :=
  ds.suggest transport (ds.valuesLookup field)

/-- The values for a condition of a target. -/
def conditionValues (ds : Datasource) (transport : Transport) (t : Target) (group condition : Nat)
    (like : String) : Exchange (Except LookupFault (List Json)) :=
  match ds.conditionLookup t group condition like with
  | .ok l => (ds.lookup transport l).map (·.map Lookup.itemsOrNote)
  | .error fault => .settled (.error fault)

/-- The results of a free search. -/
def search (ds : Datasource) (transport : Transport) (text : String) (range : Option TimeRange) :
    Exchange (Except LookupFault (List Suggestion)) :=
  ds.suggest transport (ds.searchLookup text range)

/-- The measurement types. -/
def tables (ds : Datasource) (transport : Transport) (name : Option String) :
    Exchange (Except LookupFault (List Suggestion)) :=
  ds.suggest transport (ds.tablesLookup name)

/-- The results of a lookup of a type that the editor names. -/
def metrics (ds : Datasource) (transport : Transport) (series : String) (kind : LookupKind) :
    Exchange (Except LookupFault (List Suggestion)) :=
  ds.suggest transport (ds.metricLookup series kind)

/-- The comparisons that are offered. -/
def operators : List Suggestion :=
  Suggestion.ofData (Target.Comparison.menu.map fun c => .string c.write)

/-! ## Refreshes and checks -/

/-- The answer to a refresh without visible targets. -/
def noData : Json :=
  .object [("data", .array [])]

/-- Run a refresh, and give the answer of the service unchanged. -/
def refresh (ds : Datasource) (transport : Transport) (r : Refresh) :
    Exchange (Except RefreshFault Json) :=
  match r.entries ds.dashboard ds.name with
  | .error fault => .settled (.error (.notCompiled fault))
  | .ok [] => .settled (.ok noData)
  | .ok entries =>
    (Exchange.ofRequest transport (.post .query (r.body entries) ds.credentials)).map fun
      | .ok response => .ok response.data
      | .error failure => .error (.failed failure)

/-- A refresh that does not compile sends nothing. -/
theorem refresh_sent_of_fault (ds : Datasource) (transport : Transport) {r : Refresh}
    {fault : CompileFault} (h : r.entries ds.dashboard ds.name = .error fault) :
    (ds.refresh transport r).sent = [] := by
  simp [refresh, h, Exchange.settled]

/-- Check that the service works: it has to answer with status 200. -/
def check (ds : Datasource) (transport : Transport) : Exchange CheckOutcome :=
  (Exchange.ofRequest transport (.get .test ds.credentials)).map fun
    | .ok response => if response.status = 200 then .working else .notWorking
    | .error _ => .notWorking

end Datasource
end PanelQuery
