import PanelQuery.Proofs.KeyTable
import PanelQuery.Query.Compiled

/-!
# Queries - the table of labels

The labels of a compiled target are kept by expression.  Aggregations may differ and still have one
expression, and then the last of them counts, also with an empty label.  Nothing but the
aggregations of a target has a part in its labels.

Main results:

- `mem_keys_labels_iff`: the keys are the expressions of the aggregations.
- `labels_eq_iff`: the labels are the table that has for every expression its last label.
- `labels_last_wins`: the labels of every compiled target.
-/

namespace PanelQuery
namespace Target

open Template

/-- A label is that of the last one of some aggregations that has an expression. -/
def IsLastLabel (aggregations : List Aggregation) (expression label : String) : Prop :=
  ∃ front a back, aggregations = front ++ a :: back ∧ a.expression = expression ∧
    a.label = label ∧ ∀ b ∈ back, b.expression ≠ expression

theorem isLast_map_iff {aggregations : List Aggregation} {expression label : String} :
    KeyTable.IsLast (aggregations.map fun a => (a.expression, a.label)) expression label ↔
      IsLastLabel aggregations expression label := by
  constructor
  · rintro ⟨before, behind, hsplit, hbehind⟩
    obtain ⟨front, rest, rfl, rfl, hrest⟩ := List.map_eq_append_iff.1 hsplit
    obtain ⟨a, back, rfl, ha, rfl⟩ := List.map_eq_cons_iff.1 hrest
    obtain ⟨hexpression, hlabel⟩ := Prod.mk.inj ha
    refine ⟨front, a, back, rfl, hexpression, hlabel, ?_⟩
    intro b hb
    exact hbehind _ (List.mem_map_of_mem hb)
  · rintro ⟨front, a, back, rfl, rfl, rfl, hback⟩
    refine ⟨front.map _, back.map _, List.map_append, ?_⟩
    intro e he
    obtain ⟨b, hb, rfl⟩ := List.mem_map.1 he
    exact hback b hb

/-- The keys of the labels are the expressions of the aggregations. -/
theorem mem_keys_labels_iff {t : Target} {key : String} :
    key ∈ t.labels.map (·.1) ↔ key ∈ t.aggregations.map Aggregation.expression := by
  rw [labels, KeyTable.mem_keys_ofList_iff, List.map_map]
  rfl

/-- The labels are the table that has for every expression its last label. -/
theorem labels_eq_iff {t : Target} {table : KeyTable String} :
    table = t.labels ↔ table.IsOrdered ∧ ∀ expression label,
      (expression, label) ∈ table ↔ IsLastLabel t.aggregations expression label := by
  rw [labels, KeyTable.eq_ofList_iff]
  simp only [isLast_map_iff]

/-- A percentile has the expression of a function that is named like it. -/
theorem Aggregation.expression_percentile (field rank label label' : String) :
    expression ⟨field, .percentile rank, label⟩ =
      expression ⟨field, .named ("percentile(" ++ rank ++ ")"), label'⟩ :=
  rfl

theorem compile_eq_of_structured {t : Target} (h : t.rawQuery = false) (d : Dashboard)
    (source : String) (scope : Scope) :
    t.compile d source scope =
      .ok ⟨d.resolveQuery scope (t.assemble (d.filterCondition source)), t.labels⟩ := by
  rw [compile, if_neg (by simp [h])]

theorem compile_eq_ok_iff_of_raw {t : Target} (h : t.rawQuery = true) {d : Dashboard}
    {source : String} {scope : Scope} {q : CompiledQuery} :
    t.compile d source scope = .ok q ↔
      ∃ text, t.text = some text ∧ q = ⟨d.resolveQuery scope text, []⟩ := by
  rw [compile, if_pos h]
  cases t.text with
  | none => simp
  | some text => simp [eq_comm]

/-- The labels of a structured target have a key for every expression of its aggregations, and under
it the label of the last aggregation with that expression.  They are those of every structured
target with the same aggregations, for every dashboard, data source and scope.  A raw target is
compiled exactly if it has a text, and then without labels.  A percentile and a function that is
named like it have one expression. -/
theorem labels_last_wins (t : Target) :
    (t.rawQuery = false → ∃ labels : KeyTable String,
      (∀ key, key ∈ labels.map (·.1) ↔ key ∈ t.aggregations.map Aggregation.expression) ∧
      (∀ table, table = labels ↔ table.IsOrdered ∧ ∀ expression label,
        (expression, label) ∈ table ↔ IsLastLabel t.aggregations expression label) ∧
      ∀ (t' : Target) (d : Dashboard) (source : String) (scope : Scope), t'.rawQuery = false →
        t'.aggregations = t.aggregations →
          ∃ text, t'.compile d source scope = .ok ⟨text, labels⟩) ∧
    (t.rawQuery = true → ∀ (d : Dashboard) (source : String) (scope : Scope) (q : CompiledQuery),
      t.compile d source scope = .ok q ↔
        ∃ text, t.text = some text ∧ q = ⟨d.resolveQuery scope text, []⟩) ∧
    ∀ field rank label label', Aggregation.expression ⟨field, .percentile rank, label⟩ =
      Aggregation.expression ⟨field, .named ("percentile(" ++ rank ++ ")"), label'⟩ := by
  refine ⟨fun _ => ⟨t.labels, fun _ => mem_keys_labels_iff, fun _ => labels_eq_iff, ?_⟩, ?_,
    Aggregation.expression_percentile⟩
  · intro t' d source scope hstructured haggregations
    have hlabels : t'.labels = t.labels := by rw [labels, labels, haggregations]
    exact ⟨_, hlabels ▸ compile_eq_of_structured hstructured d source scope⟩
  · intro hraw d source scope q
    exact compile_eq_ok_iff_of_raw hraw

/-- A target in which a percentile takes the label away from a function that is named like it. -/
def relabelledTarget : Target where
  series := "interface"
  aggregations := [⟨"input", .named "percentile(95)", "p95"⟩, ⟨"output", .named "max", "out"⟩,
    ⟨"input", .percentile "95", ""⟩]

theorem labels_last_wins_relabelledTarget :
    relabelledTarget.rawQuery = false ∧
      IsLastLabel relabelledTarget.aggregations
        "aggregate(values.input, $quantify, percentile(95))" "" ∧
      (∃ text, ({ relabelledTarget with series := "node", groupBy := some "site" } : Target).compile
        .empty "flows" [("input", .single "r1")] = .ok ⟨text,
          [("aggregate(values.input, $quantify, percentile(95))", ""),
            ("aggregate(values.output, $quantify, max)", "out")]⟩) ∧
      ∃ text,
        ({ relabelledTarget with rawQuery := true, text := some "get input" } : Target).compile
          .empty "flows" [] = .ok ⟨text, []⟩ := by
  obtain ⟨labels, -, htable, hcompile⟩ := (labels_last_wins relabelledTarget).1 rfl
  have hlabels : labels = relabelledTarget.labels :=
    labels_eq_iff.2 ((htable labels).1 rfl)
  have hwritten : relabelledTarget.labels =
      [("aggregate(values.input, $quantify, percentile(95))", ""),
        ("aggregate(values.output, $quantify, max)", "out")] := by
    decide +kernel
  have hlast : ("aggregate(values.input, $quantify, percentile(95))", "") ∈ labels := by
    simp [hlabels, hwritten]
  refine ⟨rfl, (((htable labels).1 rfl).2 _ _).1 hlast, ?_, _,
    ((labels_last_wins _).2.1 rfl .empty "flows" [] _).2 ⟨"get input", rfl, rfl⟩⟩
  rw [← hwritten, ← hlabels]
  exact hcompile _ .empty "flows" [("input", .single "r1")] rfl rfl

end Target
end PanelQuery
