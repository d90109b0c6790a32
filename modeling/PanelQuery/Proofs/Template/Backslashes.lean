import PanelQuery.Proofs.Template.PatternRendering

/-!
# Templates - texts without backslashes

The target of a free lookup is resolved with values as patterns, and then loses its backslashes.
Escaping a value adds nothing but backslashes, so what is left is what would be left if values had
been written as they are.

Main results:

- `stripBackslashes_escapePattern`: without backslashes, an escaped text is the text.
- `Dashboard.resolveLookupTarget_eq_verbatim`: the target of a free lookup, put together from values
  that are not escaped.
- `Dashboard.resolveLookupTarget_spec`: stripping undoes all escaping.
-/

namespace PanelQuery
namespace Template

/-! ## Without backslashes -/

@[simp]
theorem toList_stripBackslashes (s : String) :
    (stripBackslashes s).toList = s.toList.filter (· != '\\') := by
  simp [stripBackslashes]

theorem backslash_not_mem_stripBackslashes (s : String) :
    '\\' ∉ (stripBackslashes s).toList := by
  simp

@[simp]
theorem stripBackslashes_append (s t : String) :
    stripBackslashes (s ++ t) = stripBackslashes s ++ stripBackslashes t := by
  simp [← String.toList_inj]

theorem stripBackslashes_join (items : List String) :
    stripBackslashes (String.join items) = String.join (items.map stripBackslashes) := by
  induction items with
  | nil => decide
  | cons s items ih => simp [ih]

/-- Items lose their backslashes one by one, if there are none between them. -/
theorem stripBackslashes_intercalate {mark : String} (hmark : stripBackslashes mark = mark)
    (items : List String) :
    stripBackslashes (mark.intercalate items) =
      mark.intercalate (items.map stripBackslashes) := by
  induction items with
  | nil => simp [← String.toList_inj]
  | cons s items ih => cases items with
    | nil => simp
    | cons t items =>
        rw [String.intercalate_cons_cons, stripBackslashes_append, stripBackslashes_append, hmark,
          ih]
        simp only [List.map_cons, String.intercalate_cons_cons]

namespace Rendering

theorem filter_escapeChars (cs : List Char) :
    (escapeChars cs).filter (· != '\\') = cs.filter (· != '\\') := by
  induction cs with
  | nil => rfl
  | cons c cs ih =>
      cases hc : isPatternChar c with
      | true => simp [escapeChars_cons_of_pattern hc, ih, List.filter_cons]
      | false => simp [escapeChars_cons_of_plain hc, ih, List.filter_cons]

/-- An escaped text has more backslashes than the text, and nothing else. -/
theorem stripBackslashes_escapePattern (s : String) :
    stripBackslashes (escapePattern s) = stripBackslashes s := by
  rw [← String.toList_inj, toList_stripBackslashes, toList_stripBackslashes, toList_escapePattern,
    filter_escapeChars]

/-! ## Values as they are -/

/-- Write a selection without escaping: a pattern has its values as they are, and any number of them
but one stand in parentheses, separated by bars. -/
def writeVerbatim : Rendering → Selection → String
  | .regex, s =>
    match s.values with
    | [v] => v
    | vs => "(" ++ "|".intercalate vs ++ ")"
  | r, s => r.write s

/-- Without backslashes it makes no difference whether a list of values is escaped. -/
theorem stripBackslashes_intercalate_escapePattern (vs : List String) :
    stripBackslashes ("|".intercalate (vs.map escapePattern)) =
      stripBackslashes ("|".intercalate vs) := by
  have hmark : stripBackslashes "|" = "|" := by decide
  have hvalues : stripBackslashes ∘ escapePattern = stripBackslashes :=
    funext stripBackslashes_escapePattern
  rw [stripBackslashes_intercalate hmark, stripBackslashes_intercalate hmark, List.map_map, hvalues]

/-- Without backslashes it makes no difference whether a selection is escaped. -/
theorem stripBackslashes_write (r : Rendering) (s : Selection) :
    stripBackslashes (r.write s) = stripBackslashes (r.writeVerbatim s) := by
  cases r with
  | regex => match s with
    | .single v => exact stripBackslashes_escapePattern v
    | .several [v] => exact stripBackslashes_escapePattern v
    | .several [] => rfl
    | .several (v :: w :: vs) =>
        simp only [write, writeVerbatim, Selection.values, List.map_cons, stripBackslashes_append]
        rw [← List.map_cons, ← List.map_cons, stripBackslashes_intercalate_escapePattern]
  | glob | raw | csv | pipe => rfl

/-- Without backslashes a single value is the same in every rendering. -/
theorem stripBackslashes_write_of_values_eq {s : Selection} {v : String} (h : s.values = [v])
    (r : Rendering) : stripBackslashes (r.write s) = stripBackslashes v := by
  cases s with
  | single w =>
      obtain rfl : w = v := by simpa [Selection.values] using h
      cases r with
      | regex => exact stripBackslashes_escapePattern w
      | glob | raw | csv | pipe => rfl
  | several vs =>
      obtain rfl : vs = [v] := h
      cases r with
      | regex => exact stripBackslashes_escapePattern v
      | glob | raw | csv | pipe => simp [write]

end Rendering

namespace Dashboard

/-! ## Targets of free lookups -/

/-- A reference with its value written in as it is, in the format of the reference or as a pattern.
-/
def verbatimReference (d : Dashboard) (ref : Reference) : String :=
  match d.valueOf [] ref.name with
  | some s => ((ref.format.bind Rendering.ofName?).getD .regex).writeVerbatim s
  | none => ref.raw

/-- A template with the values of its variables written in as they are. -/
def resolveVerbatim (d : Dashboard) (text : String) : String :=
  String.join ((segments text).map fun
    | .literal t => t
    | .reference ref => d.verbatimReference ref)

variable {d : Dashboard}

/-- Templates are the same without backslashes if their segments are. -/
theorem stripBackslashes_join_congr {segs : List Segment} {write write' : Segment → String}
    (h : ∀ s ∈ segs, stripBackslashes (write s) = stripBackslashes (write' s)) :
    stripBackslashes (String.join (segs.map write)) =
      stripBackslashes (String.join (segs.map write')) := by
  rw [stripBackslashes_join, stripBackslashes_join, List.map_map, List.map_map]
  congr 1
  exact List.map_congr_left h

/-- The target of a free lookup is what remains of the template with values as they are. -/
theorem resolveLookupTarget_eq_verbatim (d : Dashboard) (text : String) :
    d.resolveLookupTarget text = stripBackslashes (d.resolveVerbatim text) := by
  refine stripBackslashes_join_congr ?_
  intro s _
  cases s with
  | literal t => rfl
  | reference ref =>
      simp only [resolveSegment, resolveReference, verbatimReference]
      cases d.valueOf [] ref.name with
      | none => rfl
      | some value => exact Rendering.stripBackslashes_write _ value

/-- Every variable that has a value has a single one, given by itself or as a list of one. -/
def HasSingleValues (d : Dashboard) : Prop :=
  ∀ v ∈ d.valued, ∀ s ∈ v.current, ∃ value, s.values = [value]

theorem HasSingleValues.values_eq (h : d.HasSingleValues) {name : String} {s : Selection}
    (hs : d.valueOf [] name = some s) : ∃ value, s.values = [value] := by
  obtain ⟨v, hfound, hcurrent⟩ := Option.bind_eq_some_iff.1 hs
  exact h v (List.mem_of_find?_eq_some hfound) s hcurrent

/-- With single values it makes no difference in which rendering a target is resolved. -/
theorem HasSingleValues.resolveLookupTarget_eq (h : d.HasSingleValues) (rendering : Rendering)
    (text : String) :
    d.resolveLookupTarget text = stripBackslashes (d.resolve [] rendering text) := by
  refine stripBackslashes_join_congr ?_
  intro s _
  cases s with
  | literal t => rfl
  | reference ref =>
      simp only [resolveSegment, resolveReference]
      cases hs : d.valueOf [] ref.name with
      | none => rfl
      | some value =>
          obtain ⟨v, hv⟩ := h.values_eq hs
          simp only [Rendering.stripBackslashes_write_of_values_eq hv]

/-- The target of a free lookup has no backslashes, and is what remains without them of the template
with values as they are; so where every variable has a single value, it is what remains of query
text. -/
theorem resolveLookupTarget_spec (d : Dashboard) :
    (∀ text, '\\' ∉ (d.resolveLookupTarget text).toList ∧
      d.resolveLookupTarget text = stripBackslashes (d.resolveVerbatim text)) ∧
    (d.HasSingleValues → ∀ text,
      d.resolveLookupTarget text = stripBackslashes (d.resolve [] .glob text)) := by
  refine ⟨fun text => ⟨?_, d.resolveLookupTarget_eq_verbatim text⟩, ?_⟩
  · exact backslash_not_mem_stripBackslashes _
  · intro h text
    exact h.resolveLookupTarget_eq .glob text

/-- A dashboard with single values of both kinds, and a variable that has none. -/
def routerDashboard : Dashboard :=
  { declarations := [.custom "node" (.single "rtr.nyc"), .custom "port" (.several ["a\\|b"]),
      .adhoc "interface", ⟨"rack", Variable.defaultKind, none⟩] }

theorem resolveLookupTarget_spec_routerDashboard :
    routerDashboard.HasSingleValues ∧
      routerDashboard.resolveLookupTarget "get \\d $node/${port:regex} [[rack]]" =
        stripBackslashes
          (routerDashboard.resolve [] .glob "get \\d $node/${port:regex} [[rack]]") := by
  have hsingle : routerDashboard.HasSingleValues := by
    simp [HasSingleValues, valued, routerDashboard, Variable.isAdhoc, Variable.custom,
      Variable.adhoc, Variable.defaultKind, Variable.adhocKind, Selection.values]
  exact ⟨hsingle, (resolveLookupTarget_spec routerDashboard).2 hsingle _⟩

end Dashboard
end Template
end PanelQuery
