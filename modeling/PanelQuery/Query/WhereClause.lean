import PanelQuery.Target.Basic

/-!
# Queries - where clauses

The text of a target's conditions.  Every group stands in parentheses, and the condition of the
adhoc filters is appended to each of them; a target without groups has no where clause, whatever the
filters.

Main results:

- `whereClause?_eq_none_iff`: there is a where clause exactly when there are groups.
-/

namespace PanelQuery
namespace Target

/-- The text of a condition. -/
def Condition.write (c : Condition) : String :=
  c.left ++ " " ++ c.comparison.write ++ " \"" ++ c.right ++ "\""

/-- The text of the conditions after the first, each behind its connective. -/
def writeFurtherConditions : List Condition → String
  | [] => ""
  | c :: rest => " " ++ c.connective.write ++ " " ++ c.write ++ writeFurtherConditions rest

/-- The text of conditions; the connective of the first joins nothing. -/
def writeConditions : List Condition → String
  | [] => ""
  | c :: rest => c.write ++ writeFurtherConditions rest

/-- Conditions narrowed by those of the filters; either may be empty. -/
def narrow (conditions filters : String) : String :=
  if filters = "" then conditions
  else if conditions = "" then filters
  else conditions ++ " and " ++ filters

/-- The text of a group. -/
def Group.write (filters : String) (g : Group) : String :=
  "( " ++ narrow (writeConditions g.conditions) filters ++ " )"

/-- The text of the groups after the first, each behind its operator. -/
def writeFurtherGroups (filters : String) : List Group → String
  | [] => ""
  | g :: rest =>
    " " ++ g.operator.write ++ " " ++ g.write filters ++ writeFurtherGroups filters rest

/-- The where clause of some groups, if there are any. -/
def whereClause? (filters : String) : List Group → Option String
  | [] => none
  | g :: rest => some (g.write filters ++ writeFurtherGroups filters rest)

/-- There is a where clause exactly when there are groups. -/
theorem whereClause?_eq_none_iff {filters : String} {groups : List Group} :
    whereClause? filters groups = none ↔ groups = [] := by
  cases groups <;> simp [whereClause?]

end Target
end PanelQuery
