import PanelQuery.Proofs.Datasource.Session

/-!
# Data sources - calls that look something up

Most calls come down to one lookup: they send its request, and make their outcome of the items that
the answer holds.

Main results:

- `Datasource.perform_of_lookupSent`: a call that sends a lookup is that lookup and what it makes of
  the items.
- `Datasource.exists_lookupSent_iff`: which calls send a lookup.
-/

namespace PanelQuery

open Template Service

/-- A call asks for values of a condition only where the target has one. -/
def Call.HasPlace : Call → Prop
  | .conditionValues t group condition _ =>
    ∃ g, t.groups[group]? = some g ∧ ∃ c, g.conditions[condition]? = some c
  | _ => True

/-- What a call makes of the items that its lookup found: a list of values, or suggestions. -/
def Call.outcomeOf : Call → Except LookupFault (List Json) → Outcome
  | .conditionValues .. => fun found => .values (found.map Lookup.itemsOrNote)
  | _ => fun found => .suggestions (found.map Suggestion.ofData)

namespace Datasource

/-- The lookup that a call sends, if it sends one. -/
def lookupSent? (ds : Datasource) : Call → Option Lookup
  | .columns => some ds.columnsLookup
  | .values field => some (ds.valuesLookup field)
  | .conditionValues t group condition like => (ds.conditionLookup t group condition like).toOption
  | .search text range => some (ds.searchLookup text range)
  | .tables name => some (ds.tablesLookup name)
  | .metrics series kind => some (ds.metricLookup series kind)
  | .refresh _ | .check | .operators | .parentBindings _ | .measurementType | .compile .. => none

variable {ds : Datasource} {transport : Transport} {call : Call} {l : Lookup}

theorem lookupSent?_conditionValues_eq_some_iff {t : Target} {group condition : Nat}
    {like : String} :
    ds.lookupSent? (.conditionValues t group condition like) = some l ↔
      ds.conditionLookup t group condition like = .ok l := by
  rw [lookupSent?]
  cases ds.conditionLookup t group condition like <;> simp [Except.toOption]

/-- A call that sends a lookup is that lookup, and what the call makes of the items. -/
theorem perform_of_lookupSent (h : ds.lookupSent? call = some l) :
    ds.perform transport call = (ds.lookup transport l).map call.outcomeOf := by
  cases call with
  | conditionValues t group condition like =>
      rw [lookupSent?_conditionValues_eq_some_iff] at h
      simp only [perform, conditionValues, h]
      rfl
  | columns | values field | search text range | tables name | metrics series kind =>
      cases h
      rfl
  | refresh r | check | operators | parentBindings field | measurementType | compile scope t =>
      cases h

theorem perform_sent_of_lookupSent (h : ds.lookupSent? call = some l) :
    (ds.perform transport call).sent = [ds.lookupRequest l] := by
  rw [perform_of_lookupSent h]
  rfl

/-- The calls to the search endpoint send a lookup, if the condition that they are for is there. -/
theorem exists_lookupSent_iff :
    (∃ l, ds.lookupSent? call = some l) ↔ call.path? = some "/search" ∧ call.HasPlace := by
  cases call with
  | conditionValues t group condition like =>
      simp only [lookupSent?, conditionLookup, Call.HasPlace, Call.path?, true_and]
      cases t.groups[group]? with
      | none => simp [Except.toOption]
      | some g =>
          cases hc : g.conditions[condition]? with
          | none => simp [hc, Except.toOption]
          | some c => cases hs : siblingOf g.conditions condition <;> simp [hc, hs, Except.toOption]
  | _ => simp [lookupSent?, Call.path?, Call.HasPlace]

end Datasource
end PanelQuery
