import PanelQuery.Query.WhereClause
import PanelQuery.Template.Dashboard

/-!
# Queries - criteria of a where clause

The body of a group is a chain of criteria: the conditions of the group, each behind its connective,
and then the adhoc filters, each behind `and`.  A where clause is the chain of its groups.

Main results:

- `Group.write_eq_writeChain`: the text of a group is the chain of its criteria in parentheses.
- `whereClause?_cons`: a where clause is the chain of its groups.
-/

namespace PanelQuery
namespace Target

open Template

/-! ## Chains -/

/-- The text of links, each behind its connective. -/
def writeFurther : List (Connective × String) → String
  | [] => ""
  | (connective, text) :: rest => " " ++ connective.write ++ " " ++ text ++ writeFurther rest

/-- The text of a chain; the connective of its first link joins nothing. -/
def writeChain : List (Connective × String) → String
  | [] => ""
  | (_, text) :: rest => text ++ writeFurther rest

theorem writeFurther_append (links more : List (Connective × String)) :
    writeFurther (links ++ more) = writeFurther links ++ writeFurther more := by
  induction links with
  | nil => simp [writeFurther]
  | cons link links ih => simp [writeFurther, ih, String.append_assoc]

/-! ## Criteria -/

/-- What narrows a group: a condition of its own, or an adhoc filter. -/
inductive Criterion where
  | condition (c : Condition)
  | filter (f : AdhocFilter)
deriving DecidableEq, Repr

namespace Criterion

/-- What joins a criterion to the one before. -/
def connective : Criterion → Connective
  | .condition c => c.connective
  | .filter _ => .and

/-- The text of a criterion. -/
def write : Criterion → String
  | .condition c => c.write
  | .filter f => f.write

/-- A criterion as a link of a chain. -/
def link (c : Criterion) : Connective × String :=
  (c.connective, c.write)

end Criterion

/-- The criteria of a group under filters. -/
def Group.criteria (filters : List AdhocFilter) (g : Group) : List Criterion :=
  g.conditions.map .condition ++ filters.map .filter

theorem Condition.write_ne_empty (c : Condition) : c.write ≠ "" := by
  simp [Condition.write]

theorem writeFurtherConditions_eq_writeFurther (conditions : List Condition) :
    writeFurtherConditions conditions =
      writeFurther (conditions.map (Criterion.link ∘ Criterion.condition)) := by
  induction conditions with
  | nil => rfl
  | cons c conditions ih =>
      rw [List.map_cons, writeFurtherConditions, ih]
      rfl

theorem writeConditions_eq_writeChain (conditions : List Condition) :
    writeConditions conditions =
      writeChain (conditions.map (Criterion.link ∘ Criterion.condition)) := by
  cases conditions with
  | nil => rfl
  | cons c conditions =>
      rw [List.map_cons, writeConditions, writeFurtherConditions_eq_writeFurther]
      rfl

theorem writeFilters_cons (f : AdhocFilter) (filters : List AdhocFilter) :
    AdhocFilter.writeAll (f :: filters) =
      f.write ++ writeFurther (filters.map (Criterion.link ∘ Criterion.filter)) := by
  induction filters generalizing f with
  | nil => simp [AdhocFilter.writeAll, writeFurther]
  | cons g filters ih =>
      have hand : " " ++ Connective.and.write ++ " " = " and " := by decide
      simp only [AdhocFilter.writeAll, List.map_cons, String.intercalate_cons_cons] at ih ⊢
      rw [ih g]
      simp only [Function.comp_apply, Criterion.link, Criterion.connective, Criterion.write,
        writeFurther, hand, String.append_assoc]

theorem writeFilters_eq_writeChain (filters : List AdhocFilter) :
    AdhocFilter.writeAll filters =
      writeChain (filters.map (Criterion.link ∘ Criterion.filter)) := by
  cases filters with
  | nil => rfl
  | cons f filters => exact writeFilters_cons f filters

theorem writeFilters_eq_empty_iff (filters : List AdhocFilter) :
    AdhocFilter.writeAll filters = "" ↔ filters = [] := by
  cases filters with
  | nil => exact iff_of_true rfl rfl
  | cons f filters => simp [writeFilters_cons, AdhocFilter.write]

theorem writeConditions_eq_empty_iff (conditions : List Condition) :
    writeConditions conditions = "" ↔ conditions = [] := by
  cases conditions with
  | nil => exact iff_of_true rfl rfl
  | cons c conditions => simp [writeConditions, c.write_ne_empty]

/-- Filters continue the chain of the conditions. -/
theorem narrow_eq_writeChain (conditions : List Condition) (filters : List AdhocFilter) :
    narrow (writeConditions conditions) (AdhocFilter.writeAll filters) =
      writeChain ((conditions.map Criterion.condition ++
        filters.map Criterion.filter).map Criterion.link) := by
  rw [List.map_append, List.map_map, List.map_map]
  cases filters with
  | nil => simpa [narrow, writeFilters_eq_empty_iff] using writeConditions_eq_writeChain conditions
  | cons f filters =>
      have hfilters : AdhocFilter.writeAll (f :: filters) ≠ "" := by
        simp [writeFilters_eq_empty_iff]
      cases conditions with
      | nil =>
          have hconditions : writeConditions [] = "" := rfl
          rw [narrow, if_neg hfilters, if_pos hconditions, writeFilters_eq_writeChain]
          rfl
      | cons c conditions =>
          have hconditions : writeConditions (c :: conditions) ≠ "" := by
            simp [writeConditions_eq_empty_iff]
          have hand : " " ++ Connective.and.write ++ " " = " and " := by decide
          rw [narrow, if_neg hfilters, if_neg hconditions, writeConditions,
            writeFurtherConditions_eq_writeFurther, writeFilters_cons, List.map_cons,
            List.cons_append, List.map_cons]
          simp only [Function.comp_apply, Criterion.link, Criterion.connective, Criterion.write,
            writeChain, writeFurther_append, writeFurther, hand, String.append_assoc]

/-- The text of a group is the chain of its criteria in parentheses. -/
theorem Group.write_eq_writeChain (filters : List AdhocFilter) (g : Group) :
    g.write (AdhocFilter.writeAll filters) =
      "( " ++ writeChain ((g.criteria filters).map Criterion.link) ++ " )" := by
  rw [Group.write, narrow_eq_writeChain]
  rfl

/-! ## Groups -/

/-- A group as a link of the clause. -/
def Group.link (filters : String) (g : Group) : Connective × String :=
  (g.operator, g.write filters)

theorem writeFurtherGroups_eq_writeFurther (filters : String) (groups : List Group) :
    writeFurtherGroups filters groups = writeFurther (groups.map (Group.link filters)) := by
  induction groups with
  | nil => rfl
  | cons g groups ih =>
      rw [List.map_cons, writeFurtherGroups, ih]
      rfl

/-- A where clause is the chain of its groups. -/
theorem whereClause?_cons (filters : String) (g : Group) (groups : List Group) :
    whereClause? filters (g :: groups) =
      some (writeChain ((g :: groups).map (Group.link filters))) := by
  rw [whereClause?, writeFurtherGroups_eq_writeFurther]
  rfl

end Target
end PanelQuery
