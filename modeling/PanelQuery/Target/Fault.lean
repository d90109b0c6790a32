import PanelQuery.Json.Fault

/-!
# Targets - faults

Why an editor document is not a target, and the text of each reason.
-/

namespace PanelQuery
namespace Target

/-- The lists of an editor document that have to line up with others. -/
inductive AlignedList where
  | aggregators
  | labels
  | groupOperators
  | conditionOperators
deriving DecidableEq, Repr

/-- The key of a list in the editor document. -/
def AlignedList.key : AlignedList → String
  | .aggregators => "aggregator"
  | .labels => "metricValueAliases"
  | .groupOperators => "outerGroupOperator"
  | .conditionOperators => "inlineGroupOperator"

/-- Why an editor document is not a target. -/
inductive Fault where
  /-- The document has another shape. -/
  | malformed (fault : Json.Fault)
  /-- A list does not line up with the one that it belongs to. -/
  | misaligned (list : AlignedList) (found expected : Nat)
  /-- A percentile has no rank. -/
  | missingRank (index : Nat)
  /-- A text is no operator. -/
  | unknownOperator (text : String)

/-- The reason alone. -/
def Fault.reason : Fault → String
  | .malformed fault => fault.message
  | .misaligned list found expected =>
    "Misaligned target: " ++ list.key ++ " has " ++ toString found ++ " entries, expected " ++
      toString expected
  | .missingRank index => "Missing percentile value for aggregation " ++ toString index
  | .unknownOperator text => "Invalid operator: " ++ Text.quoted text

/-- The text of a fault. -/
def Fault.message (f : Fault) : String :=
  "Invalid target: " ++ f.reason

end Target
end PanelQuery
