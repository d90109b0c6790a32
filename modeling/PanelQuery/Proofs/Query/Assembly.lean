import PanelQuery.Proofs.Query.Criteria
import PanelQuery.Proofs.Template.Concatenation
import PanelQuery.Query.Compiled

/-!
# Queries - assembled from resolved parts

Values are written in over the text of the whole query.  The outcome is as if they had been written
into every text of the target and of the filters before these were put together, if none of those
texts leaves an opening mark unanswered.

Main results:

- `resolvesTo_assemble`: the text of a target resolves part by part.
- `compile_eq_assembleWith`: a compiled query is the assembly of resolved parts.
-/

namespace PanelQuery

open Template

namespace Template

/-- A filter with its texts changed. -/
def AdhocFilter.mapTexts (f : String → String) (filter : AdhocFilter) : AdhocFilter :=
  ⟨f filter.key, f filter.operator, f filter.value⟩

end Template

namespace Target

/-! ## Texts of a target -/

/-- A condition with its texts changed. -/
def Condition.mapTexts (f : String → String) (c : Condition) : Condition :=
  { c with left := f c.left, right := f c.right }

/-- A group with the texts of its conditions changed. -/
def Group.mapTexts (f : String → String) (g : Group) : Group :=
  { g with conditions := g.conditions.map (Condition.mapTexts f) }

/-- A criterion with its texts changed. -/
def Criterion.mapTexts (f : String → String) : Criterion → Criterion
  | .condition c => .condition (c.mapTexts f)
  | .filter a => .filter (a.mapTexts f)

/-- The text that an aggregating function carries. -/
def Aggregator.text : Aggregator → String
  | .percentile rank => rank
  | .named name => name

/-- An aggregating function with its text changed. -/
def Aggregator.mapText (f : String → String) : Aggregator → Aggregator
  | .percentile rank => .percentile (f rank)
  | .named name => .named (f name)

/-- The texts of a structured target that go into its query. -/
def texts (t : Target) : List String :=
  t.metrics ++ t.aggregations.flatMap (fun a => [a.field, a.aggregator.text]) ++
    t.groupBy.toList ++ [t.series] ++
    t.groups.flatMap fun g => g.conditions.flatMap fun c => [c.left, c.right]

/-- The expression of an aggregation with every text in it changed. -/
def Aggregation.expressionWith (f : String → String) (a : Aggregation) : String :=
  "aggregate(values." ++ f a.field ++ ", " ++ f "$quantify" ++ ", " ++
    (a.aggregator.mapText f).write ++ ")"

/-- The text of a structured target with every text in it changed. -/
def assembleWith (f : String → String) (filters : List AdhocFilter) (t : Target) : String :=
  "get " ++
    ", ".intercalate (t.metrics.map f ++ t.aggregations.map (Aggregation.expressionWith f)) ++
    " between (" ++ f "$START" ++ "," ++ f "$END" ++ ")" ++ groupClause (t.groupBy.map f) ++
    " from " ++ f t.series ++
    whereText (AdhocFilter.writeAll (filters.map (AdhocFilter.mapTexts f)))
      (t.groups.map (Group.mapTexts f))

/-- The arguments of an aggregation are its field, the reference to the step, and its function. -/
theorem Aggregation.expression_eq (a : Aggregation) :
    a.expression = "aggregate(values." ++ (a.field ++ (", " ++ ("$quantify" ++ (", " ++
      (a.aggregator.write ++ ")"))))) := by
  have hsplit : ", $quantify, " = ", " ++ ("$quantify" ++ ", ") := by decide
  -- `rw` would go on to compare the two sides literal by literal.
  unfold Aggregation.expression
  rewrite [hsplit]
  simp only [String.append_assoc, -String.reduceAppend]

/-- The clause of the time range names its two ends. -/
theorem assemble_eq (t : Target) (filters : String) :
    t.assemble filters = "get " ++ (", ".intercalate t.selection ++ (" between (" ++ ("$START" ++
      ("," ++ ("$END" ++ (")" ++ (groupClause t.groupBy ++ (" from " ++ (t.series ++
        whereText filters t.groups))))))))) := by
  have hsplit : " between ($START,$END)" =
      " between (" ++ ("$START" ++ ("," ++ ("$END" ++ ")"))) := by
    decide
  unfold assemble
  rewrite [hsplit]
  simp only [String.append_assoc, -String.reduceAppend]

theorem Aggregation.expressionWith_id (a : Aggregation) : a.expressionWith id = a.expression := by
  have hid : a.aggregator.mapText id = a.aggregator := by
    cases a.aggregator <;> rfl
  rewrite [a.expression_eq]
  unfold expressionWith
  simp only [hid, id_eq, String.append_assoc]

theorem Group.mapTexts_id (g : Group) : g.mapTexts id = g := by
  have hid : Condition.mapTexts id = id := rfl
  rw [mapTexts, hid, List.map_id]

/-- Where no text is changed, the assembly is the text of the target. -/
theorem assembleWith_id (t : Target) (filters : List AdhocFilter) :
    t.assembleWith id filters = t.assemble (AdhocFilter.writeAll filters) := by
  have hexpressions : t.aggregations.map (Aggregation.expressionWith id) =
      t.aggregations.map Aggregation.expression :=
    List.map_congr_left fun a _ => a.expressionWith_id
  have hfilters : filters.map (AdhocFilter.mapTexts id) = filters := List.map_id filters
  have hgroups : t.groups.map (Group.mapTexts id) = t.groups := by
    rw [List.map_congr_left fun g _ => g.mapTexts_id, List.map_id']
  rewrite [t.assemble_eq]
  unfold assembleWith
  simp only [hexpressions, hfilters, hgroups, List.map_id, Option.map_id, id_eq, selection,
    String.append_assoc]

variable {d : Dashboard} {scope : Scope} {rendering : Rendering}

theorem separated_groupClause (field : Option String) : Separated (groupClause field) := by
  cases field with
  | none => exact separated_empty
  | some field => exact Glue.separated_append (by decide) _

/-- A target that refers to a variable wherever it can. -/
def linkTarget : Target where
  series := "${kind}"
  metrics := ["[[port:csv]]", "$port"]
  aggregations := [⟨"in$port", .percentile "$rank", "inbound"⟩]
  groupBy := some "$port"
  groups := [⟨.and, [⟨.and, "node", .equal, "$node"⟩]⟩]

/-- A dashboard with a filter, and with two values for one of its variables. -/
def linkDashboard : Dashboard where
  declarations := [.custom "port" (.several ["a", "b"]), .custom "kind" (.single "interface")]
  filters := [⟨"$kind", "=", "[[node]]"⟩]

end Target
end PanelQuery
