import Mathlib
import PanelQuery.Proofs.Query.Assembly
import PanelQuery.Proofs.Template.SetSpelling

/-!
# Queries - the clause of the time range

The time range of a query stands behind everything that it selects.  Its two ends are references
that the dashboard leaves alone, and its comma is not meant to be rewritten; but it is rewritten
wherever a brace has come to stand before it.

Main results:

- `timeClause_infix_compile_iff`: when a compiled query still has the clause.
- `timeClause_lost`: a variable with two values among the metrics is enough to lose it.
-/

namespace PanelQuery
namespace Target

open Template

/-- The clause of the time range, with its ends left open. -/
def timeClause : String := " between ($START,$END)"

/-- The clause that comes first in a structured query. -/
def selectClause (t : Target) : String :=
  "get " ++ ", ".intercalate t.selection

/-- The clauses that follow the time range. -/
def furtherClauses (filters : String) (t : Target) : String :=
  groupClause t.groupBy ++ " from " ++ t.series ++ whereText filters t.groups

theorem assemble_eq_clauses (t : Target) (filters : String) :
    t.assemble filters = t.selectClause ++ (timeClause ++ t.furtherClauses filters) := by
  simp only [assemble, selectClause, timeClause, furtherClauses, String.append_assoc]

theorem separated_furtherClauses (t : Target) (filters : String) :
    Separated (t.furtherClauses filters) := by
  unfold furtherClauses
  rewrite [String.append_assoc, String.append_assoc]
  exact (separated_groupClause t.groupBy).append fun _ => Glue.separated_append (by decide) _

theorem segments_timeClause :
    segments timeClause = [.literal " between (", .reference (.bare "START"), .literal ",",
      .reference (.bare "END"), .literal ")"] := by
  decide +kernel

section

variable {d : Dashboard} {scope : Scope}

/-- With its ends unbound, the clause is resolved to itself. -/
theorem resolve_timeClause (hstart : d.valueOf scope "START" = none)
    (hend : d.valueOf scope "END" = none) (rendering : Rendering) :
    d.resolve scope rendering timeClause = timeClause := by
  rw [Dashboard.resolve, segments_timeClause]
  simp only [List.map_cons, List.map_nil, Dashboard.resolveSegment, Dashboard.resolveReference,
    Reference.name, hstart, hend]
  rfl

/-- Behind a select clause that leaves no opening mark unanswered, the clause is kept. -/
theorem resolve_assemble {t : Target} (hstart : d.valueOf scope "START" = none)
    (hend : d.valueOf scope "END" = none) (hselect : ReferenceClosed t.selectClause)
    (rendering : Rendering) (filters : String) :
    d.resolve scope rendering (t.assemble filters) =
      d.resolve scope rendering t.selectClause ++
        (timeClause ++ d.resolve scope rendering (t.furtherClauses filters)) := by
  have hclosed : ReferenceClosed timeClause := by decide +kernel
  rw [assemble_eq_clauses, Dashboard.resolve_append d scope rendering hselect
      (Separated.append (by decide) fun h => absurd h (by decide)),
    Dashboard.resolve_append d scope rendering hclosed (t.separated_furtherClauses filters),
    resolve_timeClause hstart hend]

end

/-- A text with a comma and without braces, behind another and before a third, stands before all
sets exactly if there is no brace in the text before it, or it also occurs there. -/
theorem infix_beforeSets_iff {a w b : String} (hbrace : '{' ∉ w.toList) :
    w.toList <:+: beforeSets (a ++ (w ++ b)) ↔ '{' ∉ a.toList ∨ w.toList <:+: beforeSets a := by
  by_cases ha : '{' ∈ a.toList
  · rw [beforeSets_append_of_mem ha]
    exact ⟨.inr, fun h => h.resolve_left fun hnot => hnot ha⟩
  · rw [beforeSets_append_of_not_mem ha, beforeSets_append_of_not_mem hbrace]
    exact iff_of_true (List.infix_append' a.toList w.toList (beforeSets b)) (.inl ha)

/-- When the ends of the time range are unbound, a compiled query still has the clause exactly if it
stands before the first opening brace of the resolved text.  Behind a select clause that leaves no
opening mark unanswered that is so exactly if the select clause resolves to a text without braces,
or has the clause itself before its first one. -/
theorem timeClause_infix_compile_iff {t : Target} {d : Dashboard} {source : String} {scope : Scope}
    (hstructured : t.rawQuery = false) (hstart : d.valueOf scope "START" = none)
    (hend : d.valueOf scope "END" = none) :
    ∃ q, t.compile d source scope = .ok q ∧
      (timeClause.toList <:+: q.text.toList ↔ timeClause.toList <:+:
        beforeSets (d.resolve scope .glob (t.assemble (d.filterCondition source)))) ∧
      (ReferenceClosed t.selectClause →
        (timeClause.toList <:+: q.text.toList ↔
          '{' ∉ (d.resolve scope .glob t.selectClause).toList ∨
            timeClause.toList <:+: beforeSets (d.resolve scope .glob t.selectClause))) := by
  refine ⟨⟨d.resolveQuery scope (t.assemble (d.filterCondition source)), t.labels⟩, ?_, ?_, ?_⟩
  · rw [compile, if_neg (by simp [hstructured])]
  · exact infix_spellSets_iff (by decide) (by decide)
  · intro hselect
    rw [Dashboard.resolveQuery, infix_spellSets_iff (by decide) (by decide),
      resolve_assemble hstart hend hselect, infix_beforeSets_iff (by decide)]

theorem timeClause_infix_compile_linkTarget :
    linkTarget.rawQuery = false ∧
      linkDashboard.valueOf [("node", .single "n1")] "START" = none ∧
      linkDashboard.valueOf [("node", .single "n1")] "END" = none ∧
      ∃ q, linkTarget.compile linkDashboard "flows" [("node", .single "n1")] = .ok q ∧
        (timeClause.toList <:+: q.text.toList ↔ timeClause.toList <:+:
          beforeSets (linkDashboard.resolve [("node", .single "n1")] .glob
            (linkTarget.assemble (linkDashboard.filterCondition "flows")))) ∧
        (ReferenceClosed linkTarget.selectClause →
          (timeClause.toList <:+: q.text.toList ↔
            '{' ∉ (linkDashboard.resolve [("node", .single "n1")] .glob
              linkTarget.selectClause).toList ∨
              timeClause.toList <:+: beforeSets (linkDashboard.resolve [("node", .single "n1")]
                .glob linkTarget.selectClause))) :=
  ⟨rfl, by decide, by decide, timeClause_infix_compile_iff rfl (by decide) (by decide)⟩

/-- A metric that refers to a variable with two values loses the clause. -/
theorem timeClause_lost :
    ¬ ∀ (t : Target) (d : Dashboard) (source : String) (scope : Scope), t.rawQuery = false →
      d.valueOf scope "START" = none → d.valueOf scope "END" = none →
      d.valueOf scope "quantify" = none →
      ∃ q, t.compile d source scope = .ok q ∧ timeClause.toList <:+: q.text.toList := by
  intro hclaim
  obtain ⟨q, hq, hin⟩ := hclaim { series := "interface", metrics := ["$m"] }
    { declarations := [.custom "m" (.several ["a", "b"])] } "tsds" [] rfl (by decide) (by decide)
    (by decide)
  have htext : Target.compile { declarations := [.custom "m" (.several ["a", "b"])] } "tsds" []
      { series := "interface", metrics := ["$m"] } =
        .ok ⟨"get \x7ba or b\x7d between ($START or $END) from interface", []⟩ := by
    cbv
  obtain rfl := Except.ok.inj (htext.symm.trans hq)
  exact absurd hin (by decide +kernel)

end Target
end PanelQuery
