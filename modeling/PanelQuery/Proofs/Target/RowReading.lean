import PanelQuery.Proofs.Json.Readings
import PanelQuery.Target.Document

/-!
# Targets - what an editor document states

Every field of an editor row is what the document has under the names of the field, or the default
of the field where it has nothing there.

Main results:

- `EditorCondition.reads_decode`: what a condition is read from.
- `EditorRow.isStatedBy_of_decode`: what a row is read from.
-/

namespace PanelQuery
namespace Target

open Json (Decoder ItemStates MemberStates Reading RecordDecoder)

/-! ## Conditions -/

/-- The value side of a condition: nothing for null, a string, or the text of any other value. -/
inductive OperandStates : Json → String → Prop
  | null : OperandStates .null ""
  | text (s : String) : OperandStates (.string s) s
  | written {v : Json} (hnull : v ≠ .null) (htext : ∀ s, v ≠ .string s) : OperandStates v v.write

/-- A value states a condition, by the keys of an object or by the places of a list. -/
inductive EditorCondition.IsStatedBy : Json → EditorCondition → Prop
  | object {ms : List (String × Json)} {c : EditorCondition}
      (left : MemberStates ms ["left"] .text "" c.left)
      (op : MemberStates ms ["op"] .text "" c.op)
      (right : MemberStates ms ["right"] OperandStates "" c.right) :
      EditorCondition.IsStatedBy (.object ms) c
  | array {vs : List Json} {c : EditorCondition} (left : ItemStates vs 0 .text "" c.left)
      (op : ItemStates vs 1 .text "" c.op) (right : ItemStates vs 2 OperandStates "" c.right) :
      EditorCondition.IsStatedBy (.array vs) c

theorem reads_decodeOperand : Decoder.Reads decodeOperand OperandStates := by
  intro v s h
  cases v with
  | null =>
      cases h
      exact .null
  | string t =>
      cases h
      exact .text _
  | bool _ | number _ | array _ | object _ =>
      cases h
      exact .written nofun nofun

namespace EditorCondition

open Json.Decoder Json.RecordDecoder

theorem reads_decode : Reads decode IsStatedBy := by
  intro v c h
  cases v with
  | object ms =>
      obtain ⟨_, -, hbuild⟩ := bind_eq_ok_iff.1 h
      refine BuildsFrom.seq (.seq (.seq (buildsFrom_pure ?_) (buildsFrom_members reads_text))
        (buildsFrom_members reads_text)) (buildsFrom_members reads_decodeOperand) c hbuild
      intro left hleft op hop right hright
      exact .object hleft hop hright
  | array vs =>
      obtain ⟨b, hbuild, hrest⟩ := bind_eq_ok_iff.1 h
      have hb : IsStatedBy (.array vs) b := by
        refine BuildsFrom.seq (.seq (.seq (buildsFrom_pure ?_) (buildsFrom_items reads_text))
          (buildsFrom_items reads_text)) (buildsFrom_items reads_decodeOperand) b hbuild
        intro left hleft op hop right hright
        exact .array hleft hop hright
      split at hrest
      · cases hrest
      · cases hrest
        exact hb
  | null | bool _ | number _ | string _ => cases h

end EditorCondition

/-! ## Rows -/

/-- An object states a row: every field of the row is what stands under the names of the field, or
its default. -/
structure EditorRow.IsStatedBy (ms : List (String × Json)) (row : EditorRow) : Prop where
  refId : MemberStates ms ["refId"] .text "" row.refId
  hide : MemberStates ms ["hide"] .boolean false row.hide
  rawQuery : MemberStates ms ["rawQuery"] .boolean false row.rawQuery
  text : MemberStates ms ["target"] (.nullable .text) none row.text
  series : MemberStates ms ["series"] .text "" row.series
  metrics : MemberStates ms ["metric_array", "metricArray"] (.list .text) [] row.metrics
  valueFields :
    MemberStates ms ["metricValues_array", "metricValuesArray"] (.list .text) [] row.valueFields
  aggregators : MemberStates ms ["aggregator"] (.list .text) [] row.aggregators
  ranks : MemberStates ms ["percentileValue"] (.list .any) [] row.ranks
  labels : MemberStates ms ["metricValueAliases"] (.list (.nullable .text)) [] row.labels
  groupByField :
    MemberStates ms ["groupby_field", "groupbyField"] (.nullable .text) none row.groupByField
  groups :
    MemberStates ms ["whereClauseGroup"] (.list (.list EditorCondition.IsStatedBy)) [] row.groups
  groupOperators :
    MemberStates ms ["outerGroupOperator"] (.list (.nullable .text)) [] row.groupOperators
  conditionOperators :
    MemberStates ms ["inlineGroupOperator"] (.list (.list (.nullable .text))) []
      row.conditionOperators
  bucket : MemberStates ms ["bucket"] (.nullable .any) none row.bucket
  targetAlias :
    MemberStates ms ["target_alias", "targetAlias"] (.nullable .text) none row.targetAlias
  kind : MemberStates ms ["type"] (.nullable .text) none row.kind

namespace EditorRow

open Json.Decoder Json.RecordDecoder

/-- What a row is read from. -/
theorem isStatedBy_of_decode {ms : List (String × Json)} {row : EditorRow}
    (h : EditorRow.decode (.object ms) = .ok row) : row.IsStatedBy ms := by
  have htext := reads_text.nullable
  have htexts := reads_text.list
  have hgroups := EditorCondition.reads_decode.list.list
  have hoperators : Reads decodeOperators _ := htext.list
  have hfields : BuildsFrom (.members ms) 0 fields (IsStatedBy ms) := by
    -- From the last field of the record to the first one.
    refine .seq ?_ (buildsFrom_members htext)
    refine .seq ?_ (buildsFrom_members htext)
    refine .seq ?_ (buildsFrom_members reads_any.nullable)
    refine .seq ?_ (buildsFrom_members hoperators.list)
    refine .seq ?_ (buildsFrom_members hoperators)
    refine .seq ?_ (buildsFrom_members hgroups)
    refine .seq ?_ (buildsFrom_members htext)
    refine .seq ?_ (buildsFrom_members hoperators)
    refine .seq ?_ (buildsFrom_members reads_any.list)
    refine .seq ?_ (buildsFrom_members htexts)
    refine .seq ?_ (buildsFrom_members htexts)
    refine .seq ?_ (buildsFrom_members htexts)
    refine .seq ?_ (buildsFrom_members reads_text)
    refine .seq ?_ (buildsFrom_members htext)
    refine .seq ?_ (buildsFrom_members reads_boolean)
    refine .seq ?_ (buildsFrom_members reads_boolean)
    refine .seq ?_ (buildsFrom_members reads_text)
    refine buildsFrom_pure ?_
    intros
    constructor <;> assumption
  obtain ⟨_, -, hbuild⟩ := bind_eq_ok_iff.1 h
  exact hfields row hbuild

end EditorRow

end Target
end PanelQuery
