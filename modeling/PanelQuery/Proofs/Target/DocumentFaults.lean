import PanelQuery.Proofs.Json.Refusals
import PanelQuery.Proofs.Target.RowFaults
import PanelQuery.Proofs.Target.RowReading

/-!
# Targets - faults of editor documents

A document is checked in two passes.  In the first one its keys are looked at in their order, and a
key that is a second name of a field, or whose value is of another type, ends the decoding.  The
second pass folds the lists of the row that is left.  So the fault that is reported is always the
first one in a fixed order, whatever else is wrong.

Main results:

- `EditorRow.failsBy_decode`: what the editor's document is refused for.
- `decode_reports_first_fault`: which fault decoding a document reports.
-/

namespace PanelQuery
namespace Target

open Json (Decoder DistinctNames Field KeyFault KnownKey RecordDecoder Refusal)

/-! ## Keys and their types -/

/-- The keys of a condition. -/
def EditorCondition.keys : List KnownKey :=
  [⟨"left", none, .text⟩, ⟨"op", none, .text⟩, ⟨"right", none, .any⟩]

/-- What a condition is refused for. -/
def EditorCondition.refusal : Refusal :=
  .record "WireCondition" EditorCondition.keys

/-- The keys of the editor's document. -/
def EditorRow.keys : List KnownKey :=
  [⟨"refId", none, .text⟩, ⟨"hide", none, .boolean⟩, ⟨"rawQuery", none, .boolean⟩,
    ⟨"target", none, .nullable .text⟩, ⟨"series", none, .text⟩,
    ⟨"metric_array", some "metricArray", .list .text⟩,
    ⟨"metricValues_array", some "metricValuesArray", .list .text⟩,
    ⟨"aggregator", none, .list .text⟩, ⟨"percentileValue", none, .list .any⟩,
    ⟨"metricValueAliases", none, .list (.nullable .text)⟩,
    ⟨"groupby_field", some "groupbyField", .nullable .text⟩,
    ⟨"whereClauseGroup", none, .list (.list EditorCondition.refusal)⟩,
    ⟨"outerGroupOperator", none, .list (.nullable .text)⟩,
    ⟨"inlineGroupOperator", none, .list (.list (.nullable .text))⟩,
    ⟨"bucket", none, .nullable .any⟩,
    ⟨"target_alias", some "targetAlias", .nullable .text⟩, ⟨"type", none, .nullable .text⟩]

open Json.Decoder

theorem failsBy_decodeOperators : FailsBy decodeOperators (.list (.nullable .text)) :=
  failsBy_text.nullable.list

theorem failsBy_decodeOperand : FailsBy decodeOperand .any := by
  refine failsBy_any_of_ok fun v => ?_
  unfold decodeOperand
  split <;> exact ⟨_, rfl⟩

namespace EditorCondition

theorem isLenient_fields : fields.IsLenient := by
  unfold fields
  apply_rules [RecordDecoder.IsLenient.seq, RecordDecoder.isLenient_pure,
    RecordDecoder.isLenient_defaulted]

theorem failsBy_fields : List.Forall₂ Field.FailsBy fields.fields keys :=
  .cons (failsBy_text.field _ _) <| .cons (failsBy_text.field _ _) <|
    .cons (failsBy_decodeOperand.field _ _) .nil

theorem failsBy_decode : FailsBy decode refusal :=
  RecordDecoder.failsBy_record isLenient_fields failsBy_fields (by decide) _

end EditorCondition

namespace EditorRow

theorem isLenient_fields : fields.IsLenient := by
  unfold fields
  apply_rules [RecordDecoder.IsLenient.seq, RecordDecoder.isLenient_pure,
    RecordDecoder.isLenient_defaulted]

theorem failsBy_fields : List.Forall₂ Field.FailsBy fields.fields keys := by
  have htexts := failsBy_text.list
  have htext := failsBy_text.nullable
  have hgroups := EditorCondition.failsBy_decode.list.list
  have hoperators := failsBy_decodeOperators
  exact .cons (failsBy_text.field _ _) <| .cons (failsBy_boolean.field _ _) <|
    .cons (failsBy_boolean.field _ _) <| .cons (htext.field _ _) <|
    .cons (failsBy_text.field _ _) <| .cons (htexts.field _ _) <| .cons (htexts.field _ _) <|
    .cons (htexts.field _ _) <| .cons (failsBy_any.list.field _ _) <|
    .cons (hoperators.field _ _) <| .cons (htext.field _ _) <| .cons (hgroups.field _ _) <|
    .cons (hoperators.field _ _) <| .cons (hoperators.list.field _ _) <|
    .cons (failsBy_any.nullable.field _ _) <| .cons (htext.field _ _) <|
    .cons (htext.field _ _) .nil

theorem distinctNames_keys : DistinctNames keys := by
  decide

/-- The editor's document fails by its least faulty key. -/
theorem reportsFirst_decode {ms : List (String × Json)} (h : (Json.object ms).IsOrdered) :
    ReportsFirst (KeyFault keys ms) (ms.map (·.1)) (decode (.object ms)) :=
  RecordDecoder.reportsFirst_decode_object isLenient_fields failsBy_fields distinctNames_keys _ h

/-- A row is never of another shape. -/
theorem not_hasFault_malformed {row : EditorRow} {place : Place} {fault : Json.Fault} :
    ¬ row.HasFault place (.malformed fault) := by
  cases place <;> simp [HasFault]

end EditorRow

/-! ## The fault that is reported -/

variable {ms : List (String × Json)}

/-- A document is malformed exactly if a key is faulty, and then it is for the least such key. -/
theorem decode_eq_malformed_iff (h : (Json.object ms).IsOrdered) {fault : Json.Fault} :
    decode (.object ms) = .error (.malformed fault) ↔
      ∃ key, KeyFault EditorRow.keys ms key fault ∧
        ∀ other < key, ∀ f, ¬ KeyFault EditorRow.keys ms other f := by
  have hkeys : (ms.map (·.1)).Pairwise (· < ·) := (Json.isOrdered_object_iff.1 h).1
  rw [← isFirstFault_iff_of_pairwise hkeys fun _ _ hkey => hkey.mem_keys,
    ← EditorRow.reportsFirst_decode h fault]
  cases hrow : EditorRow.decode (.object ms) with
  | error e => simp [decode, hrow]
  | ok row =>
      rw [decode_of_row hrow, row.reportsFirst_toTarget]
      simp only [reduceCtorEq, iff_false]
      intro hfirst
      obtain ⟨place, -, hfault⟩ := exists_of_isFirstFault hfirst
      exact EditorRow.not_hasFault_malformed hfault

/-- Decoding an object reports the first fault in a fixed order.  While a key is faulty, it is the
fault of the least such key: of a value of another type, or of a second name of a field.  Else the
document states a row, and decoding fails exactly if something is wrong with the lists of the row,
with the fault of the first of its places that has one. -/
theorem decode_reports_first_fault (h : (Json.object ms).IsOrdered) :
    ((∃ key fault, KeyFault EditorRow.keys ms key fault) →
      ∃ key fault, (KeyFault EditorRow.keys ms key fault ∧
        ∀ other < key, ∀ f, ¬ KeyFault EditorRow.keys ms other f) ∧
          decode (.object ms) = .error (.malformed fault)) ∧
    (∀ key fault, KeyFault EditorRow.keys ms key fault →
      (∀ other < key, ∀ f, ¬ KeyFault EditorRow.keys ms other f) →
        decode (.object ms) = .error (.malformed fault)) ∧
    ((∀ key fault, ¬ KeyFault EditorRow.keys ms key fault) →
      ∃ row, EditorRow.decode (.object ms) = .ok row ∧ row.IsStatedBy ms ∧
        ((∃ fault, decode (.object ms) = .error fault) ↔
          ∃ place fault, row.HasFault place fault) ∧
        ∀ fault, decode (.object ms) = .error fault ↔
          IsFirstFault row.HasFault row.places fault) := by
  have hdecode := EditorRow.reportsFirst_decode h
  refine ⟨?_, ?_, ?_⟩
  · rintro ⟨key, fault, hfault⟩
    obtain ⟨f, hf⟩ := exists_isFirstFault_iff.2 ⟨key, hfault.mem_keys, fault, hfault⟩
    have hmalformed : decode (.object ms) = .error (.malformed f) := by
      simp [decode, (hdecode f).2 hf]
    obtain ⟨least, hleast⟩ := (decode_eq_malformed_iff h).1 hmalformed
    exact ⟨least, f, hleast, hmalformed⟩
  · intro key fault hfault hleast
    exact (decode_eq_malformed_iff h).2 ⟨key, hfault, hleast⟩
  · intro hnone
    obtain ⟨row, hrow⟩ := hdecode.exists_ok_iff.2 fun key _ f => hnone key f
    refine ⟨row, hrow, EditorRow.isStatedBy_of_decode hrow, ?_, ?_⟩
    · rw [decode_of_row hrow]
      exact row.exists_toTarget_error_iff
    · rw [decode_of_row hrow]
      exact row.reportsFirst_toTarget

/-- A document that hides its row in a word, gives its metrics under both of their names, and has a
percentile without a field or a rank. -/
def hastyMembers : List (String × Json) :=
  [("aggregator", .array [.string "percentile"]), ("hide", .string "yes"),
    ("metricArray", .array []), ("metric_array", .bool true)]

/-- A row whose second group is joined by an unknown word, has an operator too many for its two
conditions, and a sign that compares nothing. -/
def tangledRow : EditorRow where
  refId := "B"
  hide := false
  rawQuery := false
  text := none
  series := "interface"
  metrics := []
  valueFields := ["input"]
  aggregators := ["percentile"]
  ranks := [.string "95"]
  labels := [none]
  groupByField := none
  groups := [[⟨"node", "=", "r1"⟩], [⟨"speed", "~", "10"⟩, ⟨"vlan", "<", "7"⟩]]
  groupOperators := [none, some "xor"]
  conditionOperators := [[], [none, some "and", some "or"]]
  bucket := none
  targetAlias := none
  kind := none

theorem decode_reports_first_fault_tangledRow :
    (∃ key, KeyFault EditorRow.keys hastyMembers key (.wrongType (.string "yes") .boolean) ∧
      ∀ other < key, ∀ f, ¬ KeyFault EditorRow.keys hastyMembers other f) ∧
    IsFirstFault tangledRow.HasFault tangledRow.places (.unknownOperator "xor") := by
  have hhasty : (Json.object hastyMembers).IsOrdered := by
    refine .object ?_ ?_
    · simp only [KeyTable.IsOrdered, hastyMembers, List.map_cons, List.map_nil]
      decide +kernel
    · simp only [hastyMembers, List.forall_mem_cons]
      exact ⟨.array (by simp [Json.IsOrdered.string]), .string _, .array (List.forall_mem_nil _),
        .bool _, List.forall_mem_nil _⟩
  have htangled : tangledRow.toJson.IsOrdered :=
    EditorRow.isOrdered_toJson (by simp [tangledRow, Json.IsOrdered.string]) (by simp [tangledRow])
  have hrow : EditorRow.decode tangledRow.toJson = .ok tangledRow :=
    EditorRow.decode_toJson (by simp [tangledRow])
  have hhide : decode (.object hastyMembers) =
      .error (.malformed (.wrongType (.string "yes") .boolean)) := by
    rfl
  have hxor : decode tangledRow.toJson = .error (.unknownOperator "xor") := by
    rw [decode_of_row hrow]
    rfl
  constructor
  · have honly : ∀ other ∈ KnownKey.names ⟨"hide", none, .boolean⟩,
        other ∈ hastyMembers.map (·.1) → ¬ other < "hide" := by
      intro other hother _
      rw [List.mem_singleton.1 hother]
      exact lt_irrefl "hide"
    have hfault : KeyFault EditorRow.keys hastyMembers "hide" _ :=
      .refused (v := .string "yes") (by simp [EditorRow.keys]) List.mem_cons_self
        (by simp [hastyMembers]) honly (.notBoolean (by simp))
    obtain ⟨key, fault, hleast, herror⟩ := (decode_reports_first_fault hhasty).1 ⟨_, _, hfault⟩
    rw [hhide] at herror
    cases herror
    exact ⟨key, hleast⟩
  · have hnone : ∀ key fault, ¬ KeyFault EditorRow.keys tangledRow.members key fault := by
      intro key fault hfault
      obtain ⟨_, _, -, herror⟩ := (decode_reports_first_fault htangled).1 ⟨key, fault, hfault⟩
      rw [show decode (.object tangledRow.members) = _ from hxor] at herror
      cases herror
    obtain ⟨row, hrow', -, -, hfirst⟩ := (decode_reports_first_fault htangled).2.2 hnone
    obtain rfl : row = tangledRow := Except.ok.inj (hrow'.symm.trans hrow)
    exact (hfirst _).1 hxor

end Target
end PanelQuery
