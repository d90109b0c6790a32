import PanelQuery.Proofs.Json.Decoder
import PanelQuery.Proofs.Json.Ordered
import PanelQuery.Target.Document

/-!
# Targets - documents of editor rows

An editor row is written as an object with a member for every field of the row, and read back from
it.  The only row without such a document is one whose bucket is null: in a document that says that
there is no bucket.

Main results:

- `EditorRow.decode_toJson`: a row is read back from its document.
- `EditorRow.bucket_ne_null_of_decode`: no document gives a bucket that is null.
-/

namespace PanelQuery

namespace Target

open Json (Decoder RecordDecoder)

/-! ## Writing a row -/

/-- The document of some texts. -/
def textsToJson (texts : List String) : Json :=
  .array (texts.map .string)

/-- The document of a list of operators. -/
def operatorsToJson (operators : List (Option String)) : Json :=
  .array (operators.map Json.ofText?)

/-- The document of a condition. -/
def EditorCondition.toJson (c : EditorCondition) : Json :=
  .object [("left", .string c.left), ("op", .string c.op), ("right", .string c.right)]

/-- The document of the conditions of a group. -/
def conditionsToJson (conditions : List EditorCondition) : Json :=
  .array (conditions.map EditorCondition.toJson)

namespace EditorRow

/-- The members of the document of a row, in the order of their keys. -/
def members (row : EditorRow) : List (String × Json) :=
  [("aggregator", textsToJson row.aggregators),
    ("bucket", row.bucket.getD .null),
    ("groupby_field", Json.ofText? row.groupByField),
    ("hide", .bool row.hide),
    ("inlineGroupOperator", .array (row.conditionOperators.map operatorsToJson)),
    ("metricValueAliases", operatorsToJson row.labels),
    ("metricValues_array", textsToJson row.valueFields),
    ("metric_array", textsToJson row.metrics),
    ("outerGroupOperator", operatorsToJson row.groupOperators),
    ("percentileValue", .array row.ranks),
    ("rawQuery", .bool row.rawQuery),
    ("refId", .string row.refId),
    ("series", .string row.series),
    ("target", Json.ofText? row.text),
    ("target_alias", Json.ofText? row.targetAlias),
    ("type", Json.ofText? row.kind),
    ("whereClauseGroup", .array (row.groups.map conditionsToJson))]

/-- The document of a row. -/
def toJson (row : EditorRow) : Json :=
  .object row.members

theorem isOrdered_members (row : EditorRow) : KeyTable.IsOrdered row.members := by
  simp only [KeyTable.IsOrdered, members, List.map_cons, List.map_nil]
  decide +kernel

end EditorRow

theorem isOrdered_array_map {α : Type} {encode : α → Json} (xs : List α)
    (h : ∀ x, (encode x).IsOrdered) : (Json.array (xs.map encode)).IsOrdered := by
  refine .array fun v hv => ?_
  obtain ⟨x, -, rfl⟩ := List.mem_map.1 hv
  exact h x

theorem isOrdered_textsToJson (texts : List String) : (textsToJson texts).IsOrdered :=
  isOrdered_array_map texts .string

theorem isOrdered_operatorsToJson (operators : List (Option String)) :
    (operatorsToJson operators).IsOrdered :=
  isOrdered_array_map operators Json.isOrdered_ofText?

theorem EditorCondition.isOrdered_toJson (c : EditorCondition) : c.toJson.IsOrdered := by
  refine .object ?_ ?_
  · simp only [KeyTable.IsOrdered, List.map_cons, List.map_nil]
    decide +kernel
  · simp only [List.forall_mem_cons]
    exact ⟨.string _, .string _, .string _, List.forall_mem_nil _⟩

theorem isOrdered_conditionsToJson (conditions : List EditorCondition) :
    (conditionsToJson conditions).IsOrdered :=
  isOrdered_array_map conditions EditorCondition.isOrdered_toJson

/-- The document of a row is in order if the values that the row keeps are. -/
theorem EditorRow.isOrdered_toJson {row : EditorRow} (hranks : ∀ v ∈ row.ranks, v.IsOrdered)
    (hbucket : ∀ v ∈ row.bucket, v.IsOrdered) : row.toJson.IsOrdered := by
  have hbucket' : (row.bucket.getD .null).IsOrdered := by
    cases h : row.bucket with
    | none => exact .null
    | some v => exact hbucket v h
  refine .object row.isOrdered_members ?_
  simp only [members, List.forall_mem_cons]
  exact ⟨isOrdered_textsToJson _, hbucket', Json.isOrdered_ofText? _, .bool _,
    isOrdered_array_map _ isOrdered_operatorsToJson, isOrdered_operatorsToJson _,
    isOrdered_textsToJson _, isOrdered_textsToJson _, isOrdered_operatorsToJson _, .array hranks,
    .bool _, .string _, .string _, Json.isOrdered_ofText? _, Json.isOrdered_ofText? _,
    Json.isOrdered_ofText? _, isOrdered_array_map _ isOrdered_conditionsToJson,
    List.forall_mem_nil _⟩

/-! ## Reading a row back -/

theorem decodeOperators_operatorsToJson (operators : List (Option String)) :
    decodeOperators (operatorsToJson operators) = .ok operators :=
  Decoder.list_map fun operator _ => Decoder.nullable_ofText? operator

theorem decode_textsToJson (texts : List String) :
    Decoder.list Decoder.text (textsToJson texts) = .ok texts :=
  Decoder.list_map fun _ _ => rfl

theorem EditorCondition.decode_toJson (c : EditorCondition) :
    EditorCondition.decode c.toJson = .ok c := by
  cbv

theorem decode_conditionsToJson (conditions : List EditorCondition) :
    Decoder.list EditorCondition.decode (conditionsToJson conditions) = .ok conditions :=
  Decoder.list_map fun c _ => c.decode_toJson

namespace EditorRow

theorem checked_fields : fields.Checked := by
  unfold fields
  apply_rules [RecordDecoder.Checked.seq, RecordDecoder.checked_pure,
    RecordDecoder.checked_defaulted]

theorem wellNamed_fields : RecordDecoder.WellNamed fields.fields := by
  decide +kernel

theorem nodup_fieldNames (row : EditorRow) :
    (Json.fieldNames fields.fields (row.members.map (·.1))).Nodup := by
  simp only [members, List.map_cons, List.map_nil]
  decide +kernel

theorem decode_bucket {bucket : Option Json} (h : bucket ≠ some .null) :
    Decoder.nullable Decoder.any (bucket.getD .null) = .ok bucket := by
  cases bucket with
  | none => rfl
  | some v => exact Decoder.nullable_of_ne_null fun hv => h (congrArg some hv)

theorem build_members {row : EditorRow} (h : row.bucket ≠ some .null) :
    fields.build (.members row.members) 0 = .ok row := by
  show fields.build _ 0 = .ok (EditorRow.mk row.refId row.hide row.rawQuery row.text row.series
    row.metrics row.valueFields row.aggregators row.ranks row.labels row.groupByField row.groups
    row.groupOperators row.conditionOperators row.bucket row.targetAlias row.kind)
  unfold fields
  -- What is left is the constructor and then one goal for each field, in the order of the record.
  iterate 17 refine RecordDecoder.build_seq ?_ ?_
  · exact RecordDecoder.build_pure _ _ _
  · exact RecordDecoder.build_defaulted (by rfl) rfl
  · exact RecordDecoder.build_defaulted (by rfl) rfl
  · exact RecordDecoder.build_defaulted (by rfl) rfl
  · exact RecordDecoder.build_defaulted (by rfl) (Decoder.nullable_ofText? _)
  · exact RecordDecoder.build_defaulted (by rfl) rfl
  · exact RecordDecoder.build_defaulted (by rfl) (decode_textsToJson _)
  · exact RecordDecoder.build_defaulted (by rfl) (decode_textsToJson _)
  · exact RecordDecoder.build_defaulted (by rfl) (decode_textsToJson _)
  · exact RecordDecoder.build_defaulted (by rfl) (Decoder.list_any _)
  · exact RecordDecoder.build_defaulted (by rfl) (decodeOperators_operatorsToJson _)
  · exact RecordDecoder.build_defaulted (by rfl) (Decoder.nullable_ofText? _)
  · exact RecordDecoder.build_defaulted (by rfl)
      (Decoder.list_map fun conditions _ => decode_conditionsToJson conditions)
  · exact RecordDecoder.build_defaulted (by rfl) (decodeOperators_operatorsToJson _)
  · exact RecordDecoder.build_defaulted (by rfl)
      (Decoder.list_map fun operators _ => decodeOperators_operatorsToJson operators)
  · exact RecordDecoder.build_defaulted (by rfl) (decode_bucket h)
  · exact RecordDecoder.build_defaulted (by rfl) (Decoder.nullable_ofText? _)
  · exact RecordDecoder.build_defaulted (by rfl) (Decoder.nullable_ofText? _)

/-- A row is read back from its document. -/
theorem decode_toJson {row : EditorRow} (h : row.bucket ≠ some .null) :
    EditorRow.decode row.toJson = .ok row :=
  (RecordDecoder.decode_object_eq_ok_iff checked_fields wellNamed_fields
    row.isOrdered_members.nodup_keys).2 ⟨row.nodup_fieldNames, build_members h⟩

/-! ## What every document gives -/

theorem bucket_ne_null_of_nullable {v : Json} {bucket : Option Json}
    (h : Decoder.nullable Decoder.any v = .ok bucket) : bucket ≠ some .null := by
  by_cases hv : v = .null
  · subst hv
    cases h
    simp
  · rw [Decoder.nullable_of_ne_null hv] at h
    cases h
    simpa using hv

theorem yields_fields : fields.Yields fun row => row.bucket ≠ some .null := by
  have hbucket : (RecordDecoder.defaulted "bucket" (Decoder.nullable Decoder.any) none).Yields
      fun bucket => bucket ≠ some .null :=
    RecordDecoder.yields_defaulted (fun _ _ => bucket_ne_null_of_nullable) nofun
  -- Two fields stand behind the bucket; those before it may hold anything.
  refine .seq (.seq (.seq ?_ hbucket) (RecordDecoder.yields_true _)) (RecordDecoder.yields_true _)
  repeat refine .seq ?_ (RecordDecoder.yields_true _)
  exact RecordDecoder.yields_pure (by intros; assumption)

/-- No document gives a bucket that is null. -/
theorem bucket_ne_null_of_decode {document : Json} {row : EditorRow}
    (h : EditorRow.decode document = .ok row) : row.bucket ≠ some .null :=
  yields_fields.of_decode h

end EditorRow
end Target
end PanelQuery
