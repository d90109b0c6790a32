import PanelQuery.Target.Operator

/-!
# Targets - panel query rows

A target is one query row of a panel.  A structured target selects metrics and aggregated values of
a series, under conditions that stand in groups; a raw target carries query text.
-/

namespace PanelQuery

namespace Target

/-- A comparison of a field with a value, joined to the condition before it. -/
structure Condition where
  connective : Connective
  left : String
  comparison : Comparison
  right : String
deriving DecidableEq, Repr

/-- Whether the field of a condition has been filled in. -/
def Condition.hasField (c : Condition) : Bool :=
  !Text.isBlankText c.left

/-- Conditions in parentheses, joined to the group before. -/
structure Group where
  operator : Connective
  conditions : List Condition
deriving DecidableEq, Repr

/-- The function that aggregates a value. -/
inductive Aggregator where
  /-- A percentile with its rank. -/
  | percentile (rank : String)
  /-- Any other function, by name. -/
  | named (name : String)
deriving DecidableEq, Repr

/-- The text of an aggregating function. -/
def Aggregator.write : Aggregator → String
  | .percentile rank => "percentile(" ++ rank ++ ")"
  | .named name => name

/-- The text of a rank that was given as a number: an integer of 64 bits with a sign as it is, any
other number positionally. -/
def rankText : Json.Number → String
  | .integer i =>
    if i < 9223372036854775808 then toString i
    else ((Binary64.ofInt? i).map Decimal.Layout.plain.write).getD (toString i)
  | .float x => Decimal.Layout.plain.write x

/-- A value field under an aggregating function, with the label for its results. -/
structure Aggregation where
  field : String
  aggregator : Aggregator
  label : String
deriving DecidableEq, Repr

/-- The expression of an aggregation in query text; results carry its label. -/
def Aggregation.expression (a : Aggregation) : String :=
  "aggregate(values." ++ a.field ++ ", $quantify, " ++ a.aggregator.write ++ ")"

end Target

/-- One query row of a panel. -/
structure Target where
  refId : String := ""
  hide : Bool := false
  rawQuery : Bool := false
  text : Option String := none
  series : String := ""
  metrics : List String := []
  aggregations : List Target.Aggregation := []
  groupBy : Option String := none
  groups : List Target.Group := []
  bucket : Option Json := none
  targetAlias : Option String := none
  kind : Option String := none

namespace Target

/-- A structured target of a series. -/
def ofSeries (series : String) : Target :=
  { series }

/-- A raw target with its text. -/
def ofText (text : String) : Target :=
  { rawQuery := true, text := some text }

/-- Select one more metric. -/
def addMetric (t : Target) (name : String) : Target :=
  { t with metrics := t.metrics ++ [name] }

/-- Select one more aggregated value. -/
def addAggregation (t : Target) (a : Aggregation) : Target :=
  { t with aggregations := t.aggregations ++ [a] }

/-- Add one more group of conditions. -/
def addGroup (t : Target) (g : Group) : Target :=
  { t with groups := t.groups ++ [g] }

/-- Leave a target out of refreshes. -/
def hidden (t : Target) : Target :=
  { t with hide := true }

/-- The field that stands for no grouping. -/
def noGrouping : String := " "

/-- The grouping that a field name asks for: none for an empty name and for the one that stands for
no grouping. -/
def grouping (field : String) : Option String :=
  if field = noGrouping ∨ field = "" then none else some field

/-- Group by a field. -/
def groupedBy (t : Target) (field : String) : Target :=
  { t with groupBy := grouping field }

/-- The request type of a target that names none. -/
def defaultKind : String := "timeserie"

/-- The condition at a place: the position of its group, and its own within the group. -/
def condition? (t : Target) (group condition : Nat) : Option Condition :=
  t.groups[group]?.bind fun g => g.conditions[condition]?

end Target
end PanelQuery
