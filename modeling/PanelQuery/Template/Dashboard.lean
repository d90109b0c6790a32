import PanelQuery.Template.Rendering

/-!
# Templates - dashboard state

What a dashboard knows: its template variables and its adhoc filters, both in declaration order.  A
variable of the type `adhoc` names a measurement type and has no value of its own.

Main results:

- `filtersOf_everySource`: filters that are bound to every source are seen under any name.
-/

namespace PanelQuery
namespace Template

/-- A template variable. -/
structure Variable where
  name : String
  kind : String
  current : Option Selection
deriving DecidableEq, Repr

namespace Variable

/-- The type of variables that carry filters. -/
def adhocKind : String := "adhoc"

/-- The type that is taken when none is given. -/
def defaultKind : String := "custom"

/-- A variable with a value. -/
def custom (name : String) (value : Selection) : Variable :=
  ⟨name, defaultKind, some value⟩

/-- A variable that carries filters. -/
def adhoc (name : String) : Variable :=
  ⟨name, adhocKind, none⟩

/-- Whether a variable carries filters instead of a value. -/
def isAdhoc (v : Variable) : Bool :=
  v.kind == adhocKind

end Variable

/-- A filter that the dashboard applies to every panel. -/
structure AdhocFilter where
  key : String
  operator : String
  value : String
deriving DecidableEq, Repr

namespace AdhocFilter

/-- A filter as a condition in query text. -/
def write (f : AdhocFilter) : String :=
  f.key ++ f.operator ++ "\"" ++ f.value ++ "\""

/-- Filters as one condition. -/
def writeAll (filters : List AdhocFilter) : String :=
  " and ".intercalate (filters.map write)

end AdhocFilter

/-- Which data sources see the adhoc filters of a dashboard. -/
inductive FilterBinding where
  | everySource
  | noSource
  | onlySource (name : String)
deriving DecidableEq, Repr

/-- The template state of a dashboard. -/
structure Dashboard where
  declarations : List Variable := []
  filters : List AdhocFilter := []
  binding : FilterBinding := .everySource
deriving DecidableEq, Repr

namespace Dashboard

/-- A dashboard without variables and filters. -/
def empty : Dashboard := {}

/-- Declare one more variable. -/
def addVariable (d : Dashboard) (v : Variable) : Dashboard :=
  { d with declarations := d.declarations ++ [v] }

/-- Add one more filter. -/
def addFilter (d : Dashboard) (f : AdhocFilter) : Dashboard :=
  { d with filters := d.filters ++ [f] }

/-- The filters that a data source sees. -/
def filtersOf (d : Dashboard) (source : String) : List AdhocFilter :=
  match d.binding with
  | .everySource => d.filters
  | .noSource => []
  | .onlySource name => if source = name then d.filters else []

@[simp]
theorem filtersOf_everySource (d : Dashboard) (source : String) (h : d.binding = .everySource) :
    d.filtersOf source = d.filters := by
  simp [filtersOf, h]

/-- The variables that have values. -/
def valued (d : Dashboard) : List Variable :=
  d.declarations.filter fun v => !v.isAdhoc

end Dashboard

/-- Values that one request sets for variables, in place of the dashboard's. -/
abbrev Scope := List (String × Selection)

/-- The value of a variable within a request: the request's own, or else the current value of the
first variable of that name that has values. -/
def Dashboard.valueOf (d : Dashboard) (scope : Scope) (name : String) : Option Selection :=
  match scope.lookup name with
  | some value => some value
  | none => (d.valued.find? fun v => v.name == name).bind (·.current)

end Template
end PanelQuery
