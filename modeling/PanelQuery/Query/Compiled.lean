import PanelQuery.Query.WhereClause
import PanelQuery.Template.Interpolation

/-!
# Queries - compiled targets

A structured target becomes query text with its clauses in a fixed order, and a table of the labels
of its aggregations.  A raw target becomes its own text.  Values of variables are written in at the
end, over the whole text; the keys of the label table are the expressions before that.

Main results:

- `labels_find?`: an expression has the label of the last aggregation that has it.
-/

namespace PanelQuery

open Template

/-- The text of a query, and the labels of its aggregating expressions. -/
structure CompiledQuery where
  text : String
  labels : KeyTable String
deriving DecidableEq, Repr

namespace CompiledQuery

/-- The labels as a document. -/
def labelsJson (q : CompiledQuery) : Json :=
  .object (q.labels.map fun l => (l.1, .string l.2))

/-- A compiled query as a document. -/
def toJson (q : CompiledQuery) : Json :=
  .object [("text", .string q.text), ("aliases", q.labelsJson)]

end CompiledQuery

/-- Why a target cannot be compiled. -/
inductive CompileFault where
  /-- A raw target has no text. -/
  | emptyRawQuery
deriving DecidableEq, Repr

/-- The text of a fault. -/
def CompileFault.message : CompileFault → String
  | .emptyRawQuery => "Raw query target has no query text"

namespace Target

/-- What a structured target selects: its metrics, and then its aggregations. -/
def selection (t : Target) : List String :=
  t.metrics ++ t.aggregations.map Aggregation.expression

/-- The clause that a grouping adds. -/
def groupClause : Option String → String
  | some field => " by " ++ field
  | none => ""

/-- The clause that conditions add. -/
def whereText (filters : String) (groups : List Group) : String :=
  match whereClause? filters groups with
  | some clause => " where " ++ clause
  | none => ""

/-- The text of a structured target before values are written in. -/
def assemble (t : Target) (filters : String) : String :=
  "get " ++ ", ".intercalate t.selection ++ " between ($START,$END)" ++ groupClause t.groupBy ++
    " from " ++ t.series ++ whereText filters t.groups

/-- The labels of a target's aggregations, by expression. -/
def labels (t : Target) : KeyTable String :=
  KeyTable.ofList (t.aggregations.map fun a => (a.expression, a.label))

/-- An expression has the label of the last aggregation that has it. -/
theorem labels_find? (t : Target) (expression : String) :
    KeyTable.find? expression t.labels =
      ((t.aggregations.map fun a => (a.expression, a.label)).reverse.find?
        fun e => e.1 = expression).map (·.2) :=
  KeyTable.find?_ofList _ _

/-- Compile a target for a data source of a dashboard, under the values that a request sets. -/
def compile (dashboard : Dashboard) (source : String) (scope : Scope) (t : Target) :
    Except CompileFault CompiledQuery :=
  if t.rawQuery then
    match t.text with
    | some text => .ok ⟨dashboard.resolveQuery scope text, []⟩
    | none => .error .emptyRawQuery
  else
    .ok ⟨dashboard.resolveQuery scope (t.assemble (dashboard.filterCondition source)), t.labels⟩

end Target
end PanelQuery
