import PanelQuery.Proofs.Target.EditorDocument
import PanelQuery.Proofs.Target.Folding

/-!
# Targets - normal form

Not every target has a document.  The editor's lists have no place for the operator of a first group
or condition, spell a missing grouping in two ways, and cannot tell a function that is called like
the percentile from the percentile itself.  A target that keeps to what the lists can say is in
normal form; it is written entry by entry, and reading a document gives such targets only.

Main results:

- `isNormal_of_decode`: a document gives a target in normal form.
- `toTarget_toRow`: a target in normal form is folded back from its row.
- `exists_decode_iff_isNormal`: the targets that documents give are those in normal form.
-/

namespace PanelQuery
namespace Target

/-- A target that the editor's lists can state: what comes first is joined by `and`, aggregating
functions are told from the percentile by name, and neither a grouping nor a bucket stands for none.
-/
structure IsNormal (t : Target) : Prop where
  groups : JoinedByAnd Group.operator t.groups
  conditions : ∀ g ∈ t.groups, JoinedByAnd Condition.connective g.conditions
  aggregators : ∀ a ∈ t.aggregations, a.aggregator.IsStatable
  groupBy_ne_empty : t.groupBy ≠ some ""
  groupBy_ne_noGrouping : t.groupBy ≠ some noGrouping
  bucket_ne_null : t.bucket ≠ some .null

/-! ## Grouping -/

theorem grouping_of_ne {field : String} (hempty : field ≠ "") (hnone : field ≠ noGrouping) :
    grouping field = some field :=
  if_neg fun h => h.elim hnone hempty

theorem grouping_eq_some {field f : String} (h : grouping field = some f) :
    f ≠ "" ∧ f ≠ noGrouping := by
  unfold grouping at h
  split at h
  · cases h
  · rename_i hne
    cases h
    exact ⟨fun hf => hne (.inr hf), fun hf => hne (.inl hf)⟩

/-! ## From a document to a target -/

namespace EditorRow

theorem toAggregations_eq_ok {row : EditorRow} {as : List Aggregation}
    (h : row.toAggregations = .ok as) :
    aggregationsFrom 0 row.ranks row.labels row.valueFields row.aggregators = .ok as := by
  unfold toAggregations at h
  split at h
  · cases h
  · split at h
    · cases h
    · exact h

theorem toGroups_eq_ok_iff {row : EditorRow} {gs : List Group} :
    row.toGroups = .ok gs ↔ ∃ shift,
      operatorShift .groupOperators row.groupOperators.length row.groups.length = .ok shift ∧
        groupsFrom row.groupOperators shift row.conditionOperators 0 row.groups = .ok gs :=
  bind_eq_ok_iff

theorem toTarget_eq_ok_iff {row : EditorRow} {t : Target} :
    row.toTarget = .ok t ↔ ∃ as, row.toAggregations = .ok as ∧ ∃ gs, row.toGroups = .ok gs ∧
      Target.mk row.refId row.hide row.rawQuery row.text row.series row.metrics as
        (row.groupByField.bind grouping) gs row.bucket row.targetAlias row.kind = t := by
  simp only [toTarget, bind_eq_ok_iff, pure_eq_ok_iff]

/-- A row without a null bucket is folded into a target in normal form. -/
theorem isNormal_of_toTarget {row : EditorRow} {t : Target} (hbucket : row.bucket ≠ some .null)
    (h : row.toTarget = .ok t) : t.IsNormal := by
  obtain ⟨as, has, gs, hgs, rfl⟩ := toTarget_eq_ok_iff.1 h
  obtain ⟨shift, -, hfold⟩ := toGroups_eq_ok_iff.1 hgs
  have hgroupBy : ∀ f, row.groupByField.bind grouping = some f → f ≠ "" ∧ f ≠ noGrouping := by
    intro f hf
    obtain ⟨field, -, hfield⟩ := Option.bind_eq_some_iff.1 hf
    exact grouping_eq_some hfield
  exact {
    groups := joinedByAnd_of_groupsFrom hfold
    conditions := joinedByAnd_conditions_of_groupsFrom hfold
    aggregators := isStatable_of_aggregationsFrom (toAggregations_eq_ok has)
    groupBy_ne_empty := fun hf => (hgroupBy _ hf).1 rfl
    groupBy_ne_noGrouping := fun hf => (hgroupBy _ hf).2 rfl
    bucket_ne_null := hbucket }

end EditorRow

/-- Every document gives a target in normal form. -/
theorem isNormal_of_decode {document : Json} {t : Target} (h : decode document = .ok t) :
    t.IsNormal := by
  unfold decode at h
  split at h
  · rename_i row hrow
    exact EditorRow.isNormal_of_toTarget (EditorRow.bucket_ne_null_of_decode hrow) h
  · cases h

/-! ## From a target to its document -/

/-- The editor row of a target, with an entry of every list for each of its parts. -/
def toRow (t : Target) : EditorRow where
  refId := t.refId
  hide := t.hide
  rawQuery := t.rawQuery
  text := t.text
  series := t.series
  metrics := t.metrics
  valueFields := t.aggregations.map (·.field)
  aggregators := t.aggregations.map (·.aggregator.entryName)
  ranks := t.aggregations.map (·.aggregator.entryRank)
  labels := t.aggregations.map (some ·.label)
  groupByField := t.groupBy
  groups := t.groups.map (·.conditions.map Condition.toEditor)
  groupOperators := t.groups.map (some ·.operator.write)
  conditionOperators := t.groups.map Group.entryOperators
  bucket := t.bucket
  targetAlias := t.targetAlias
  kind := t.kind

namespace IsNormal

variable {t : Target}

theorem toAggregations_toRow (h : t.IsNormal) : t.toRow.toAggregations = .ok t.aggregations := by
  unfold EditorRow.toAggregations
  rw [if_neg (by simp [toRow]), if_neg (by simp [toRow])]
  exact aggregationsFrom_entries [] h.aggregators

theorem toGroups_toRow (h : t.IsNormal) : t.toRow.toGroups = .ok t.groups := by
  refine EditorRow.toGroups_eq_ok_iff.2 ⟨0, ?_, groupsFrom_entries [] h.groups h.conditions⟩
  simp only [toRow, List.length_map, operatorShift_self]

theorem bind_grouping (h : t.IsNormal) : t.groupBy.bind grouping = t.groupBy := by
  cases hgroupBy : t.groupBy with
  | none => rfl
  | some field =>
      refine grouping_of_ne ?_ ?_
      · rintro rfl
        exact h.groupBy_ne_empty hgroupBy
      · rintro rfl
        exact h.groupBy_ne_noGrouping hgroupBy

/-- A target in normal form is folded back from its row. -/
theorem toTarget_toRow (h : t.IsNormal) : t.toRow.toTarget = .ok t := by
  refine EditorRow.toTarget_eq_ok_iff.2
    ⟨t.aggregations, h.toAggregations_toRow, t.groups, h.toGroups_toRow, ?_⟩
  simp only [toRow, h.bind_grouping]

/-- A target in normal form is read back from the document of its row. -/
theorem decode_toJson_toRow (h : t.IsNormal) : decode t.toRow.toJson = .ok t := by
  unfold decode
  rw [EditorRow.decode_toJson h.bucket_ne_null]
  exact h.toTarget_toRow

end IsNormal

theorem isOrdered_entryRank (a : Aggregator) : a.entryRank.IsOrdered := by
  cases a with
  | percentile rank => exact .string rank
  | named name => exact .null

theorem isOrdered_toJson_toRow {t : Target} (hbucket : ∀ v ∈ t.bucket, v.IsOrdered) :
    t.toRow.toJson.IsOrdered := by
  refine EditorRow.isOrdered_toJson ?_ hbucket
  intro v hv
  obtain ⟨a, -, rfl⟩ := List.mem_map.1 hv
  exact isOrdered_entryRank a.aggregator

/-- The targets that documents give are exactly those in normal form; and if the bucket of such a
target is a value that can be read, so is one of its documents. -/
theorem exists_decode_iff_isNormal (t : Target) :
    ((∃ document, decode document = .ok t) ↔ t.IsNormal) ∧
      ((∀ v ∈ t.bucket, v.IsOrdered) →
        ((∃ document, document.IsOrdered ∧ decode document = .ok t) ↔ t.IsNormal)) := by
  refine ⟨⟨?_, ?_⟩, fun hbucket => ⟨?_, ?_⟩⟩
  · rintro ⟨document, hdecode⟩
    exact isNormal_of_decode hdecode
  · intro h
    exact ⟨t.toRow.toJson, h.decode_toJson_toRow⟩
  · rintro ⟨document, -, hdecode⟩
    exact isNormal_of_decode hdecode
  · intro h
    exact ⟨t.toRow.toJson, isOrdered_toJson_toRow hbucket, h.decode_toJson_toRow⟩

/-- A target with every kind of part: a percentile and another function, groups and conditions that
are joined both ways, and a bucket with a member. -/
def routerTarget : Target where
  refId := "B"
  hide := true
  series := "interface"
  metrics := ["input", "output"]
  aggregations := [⟨"input", .percentile "95", "p95"⟩, ⟨"output", .named "max", ""⟩]
  groupBy := some "node"
  groups := [⟨.and, [⟨.and, "node", .equal, "r1"⟩, ⟨.or, "speed", .greater, "10"⟩]⟩,
    ⟨.or, [⟨.and, "vlan", .less, ""⟩]⟩, ⟨.and, []⟩]
  bucket := some (.object [("width", .string "60s")])

theorem exists_decode_iff_isNormal_routerTarget :
    (∀ v ∈ routerTarget.bucket, v.IsOrdered) ∧ routerTarget.IsNormal ∧
      ∃ document, document.IsOrdered ∧ decode document = .ok routerTarget := by
  have hbucket : ∀ v ∈ routerTarget.bucket, v.IsOrdered := by
    rintro v ⟨⟩
    exact .object (List.pairwise_singleton _ _) (List.forall_mem_singleton.2 (.string "60s"))
  have hnormal : routerTarget.IsNormal := {
    groups := by simp [JoinedByAnd, routerTarget]
    conditions := by simp [JoinedByAnd, routerTarget]
    aggregators := by simp [Aggregator.IsStatable, percentileName, routerTarget]
    groupBy_ne_empty := by simp [routerTarget]
    groupBy_ne_noGrouping := by simp [routerTarget, noGrouping]
    bucket_ne_null := by simp [routerTarget] }
  exact ⟨hbucket, hnormal, ((exists_decode_iff_isNormal routerTarget).2 hbucket).2 hnormal⟩

end Target
end PanelQuery
