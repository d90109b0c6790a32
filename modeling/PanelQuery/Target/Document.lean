import PanelQuery.Target.Basic
import PanelQuery.Target.Fault

/-!
# Targets - the editor's document

The panel editor keeps a target as lists that run in parallel: one entry of each for every
aggregation, and for every group and condition an operator.  Here the document is read field by
field, and then its lists are folded into records.

An operator list either has a slot for every sibling, of which the first is unused, or is one
shorter.  Lists of no sibling or a single one are not looked at.
-/

namespace PanelQuery
namespace Target

open Json (Decoder RecordDecoder)

/-- A condition as the editor keeps it. -/
structure EditorCondition where
  left : String
  op : String
  right : String

/-- The value side of a condition: null is empty, a string is itself, anything else is its text. -/
def decodeOperand : Decoder String
  | .null => .ok ""
  | .string s => .ok s
  | v => .ok v.write

/-- The fields of a condition. -/
def EditorCondition.fields : RecordDecoder EditorCondition :=
  EditorCondition.mk
    <$> .defaulted "left" Decoder.text ""
    <*> .defaulted "op" Decoder.text ""
    <*> .defaulted "right" decodeOperand ""

/-- Read a condition. -/
def EditorCondition.decode : Decoder EditorCondition :=
  EditorCondition.fields.decode "WireCondition"

/-- A target as the editor keeps it. -/
structure EditorRow where
  refId : String
  hide : Bool
  rawQuery : Bool
  text : Option String
  series : String
  metrics : List String
  valueFields : List String
  aggregators : List String
  ranks : List Json
  labels : List (Option String)
  groupByField : Option String
  groups : List (List EditorCondition)
  groupOperators : List (Option String)
  conditionOperators : List (List (Option String))
  bucket : Option Json
  targetAlias : Option String
  kind : Option String

/-- A list of operators; an entry may be null. -/
def decodeOperators : Decoder (List (Option String)) :=
  Decoder.list (Decoder.nullable Decoder.text)

/-- The fields of the editor's document. -/
def EditorRow.fields : RecordDecoder EditorRow :=
  EditorRow.mk
    <$> .defaulted "refId" Decoder.text ""
    <*> .defaulted "hide" Decoder.boolean false
    <*> .defaulted "rawQuery" Decoder.boolean false
    <*> .defaulted "target" (Decoder.nullable Decoder.text) none
    <*> .defaulted "series" Decoder.text ""
    <*> .defaulted "metric_array" (Decoder.list Decoder.text) [] (some "metricArray")
    <*> .defaulted "metricValues_array" (Decoder.list Decoder.text) [] (some "metricValuesArray")
    <*> .defaulted "aggregator" (Decoder.list Decoder.text) []
    <*> .defaulted "percentileValue" (Decoder.list Decoder.any) []
    <*> .defaulted "metricValueAliases" decodeOperators []
    <*> .defaulted "groupby_field" (Decoder.nullable Decoder.text) none (some "groupbyField")
    <*> .defaulted "whereClauseGroup" (Decoder.list (Decoder.list EditorCondition.decode)) []
    <*> .defaulted "outerGroupOperator" decodeOperators []
    <*> .defaulted "inlineGroupOperator" (Decoder.list decodeOperators) []
    <*> .defaulted "bucket" (Decoder.nullable Decoder.any) none
    <*> .defaulted "target_alias" (Decoder.nullable Decoder.text) none (some "targetAlias")
    <*> .defaulted "type" (Decoder.nullable Decoder.text) none

/-- Read the editor's document. -/
def EditorRow.decode : Decoder EditorRow :=
  EditorRow.fields.decode "WireTarget"

/-- The name of the function that takes a rank. -/
def percentileName : String := "percentile"

/-- The rank that a value states: a string that is not empty, or a number. -/
def rankOf? : Json → Option String
  | .string s => if s = "" then none else some s
  | .number n => some n.write
  | _ => none

/-- The aggregating function of an entry, with its rank if it takes one. -/
def aggregatorOf (index : Nat) (name : String) (rank : Option Json) : Except Fault Aggregator :=
  if name = percentileName then
    match rank.bind rankOf? with
    | some text => .ok (.percentile text)
    | none => .error (.missingRank index)
  else .ok (.named name)

/-- Fold the entries from an index on into aggregations. -/
def aggregationsFrom (index : Nat) (ranks : List Json) (labels : List (Option String)) :
    List String → List String → Except Fault (List Aggregation)
  | field :: fields, name :: names => do
    let aggregator ← aggregatorOf index name ranks[index]?
    let rest ← aggregationsFrom (index + 1) ranks labels fields names
    return ⟨field, aggregator, (labels[index]?.join).getD ""⟩ :: rest
  | _, _ => .ok []

/-- Fold the aggregation lists into aggregations. -/
def EditorRow.toAggregations (row : EditorRow) : Except Fault (List Aggregation) :=
  if row.aggregators.length ≠ row.valueFields.length then
    .error (.misaligned .aggregators row.aggregators.length row.valueFields.length)
  else if row.valueFields.length < row.labels.length then
    .error (.misaligned .labels row.labels.length row.valueFields.length)
  else aggregationsFrom 0 row.ranks row.labels row.valueFields row.aggregators

/-- How far the entries of an operator list lie before the siblings that they belong to. -/
def operatorShift (list : AlignedList) (found siblings : Nat) : Except Fault Nat :=
  if siblings ≤ 1 ∨ found = siblings then .ok 0
  else if found + 1 = siblings then .ok 1
  else .error (.misaligned list found siblings)

/-- The connective that an entry of an operator list states; an entry that is missing or null is
empty. -/
def connectiveOf (entry : Option (Option String)) : Except Fault Connective :=
  let text := entry.join.getD ""
  match Connective.ofText? text with
  | some c => .ok c
  | none => .error (.unknownOperator text)

/-- The connective of the sibling at an index.  The first one has nothing to be joined to. -/
def connectiveAt (operators : List (Option String)) (shift index : Nat) : Except Fault Connective :=
  if index = 0 then .ok .and else connectiveOf operators[index - shift]?

/-- Fold the conditions of a group from an index on. -/
def conditionsFrom (operators : List (Option String)) (shift index : Nat) :
    List EditorCondition → Except Fault (List Condition)
  | [] => .ok []
  | c :: rest => do
    let connective ← connectiveAt operators shift index
    match Comparison.ofText? c.op with
    | none => throw (.unknownOperator c.op)
    | some comparison =>
      let others ← conditionsFrom operators shift (index + 1) rest
      return ⟨connective, c.left, comparison, c.right⟩ :: others

/-- Fold the groups from an index on. -/
def groupsFrom (operators : List (Option String)) (shift : Nat)
    (conditionOperators : List (List (Option String))) (index : Nat) :
    List (List EditorCondition) → Except Fault (List Group)
  | [] => .ok []
  | conditions :: rest => do
    let operator ← connectiveAt operators shift index
    let inner := conditionOperators[index]?.getD []
    let innerShift ← operatorShift .conditionOperators inner.length conditions.length
    let folded ← conditionsFrom inner innerShift 0 conditions
    let others ← groupsFrom operators shift conditionOperators (index + 1) rest
    return ⟨operator, folded⟩ :: others

/-- Fold the lists of conditions and operators into groups. -/
def EditorRow.toGroups (row : EditorRow) : Except Fault (List Group) := do
  let shift ← operatorShift .groupOperators row.groupOperators.length row.groups.length
  groupsFrom row.groupOperators shift row.conditionOperators 0 row.groups

/-- Fold the editor's lists into a target. -/
def EditorRow.toTarget (row : EditorRow) : Except Fault Target := do
  let aggregations ← row.toAggregations
  let groups ← row.toGroups
  return {
    refId := row.refId
    hide := row.hide
    rawQuery := row.rawQuery
    text := row.text
    series := row.series
    metrics := row.metrics
    aggregations
    groupBy := row.groupByField.bind grouping
    groups
    bucket := row.bucket
    targetAlias := row.targetAlias
    kind := row.kind }

/-- Read a target from the editor's document. -/
def decode (document : Json) : Except Fault Target :=
  match EditorRow.decode document with
  | .ok row => row.toTarget
  | .error fault => .error (.malformed fault)

/-- Read targets; the first fault counts. -/
def decodeAll : List Json → Except Fault (List Target)
  | [] => .ok []
  | document :: rest => do
    let target ← decode document
    let targets ← decodeAll rest
    return target :: targets

end Target
end PanelQuery
