import PanelQuery.Proofs.Json.KeySpelling
import PanelQuery.Proofs.Target.DocumentFaults

/-!
# Targets - spellings of keys

Four keys of the editor's document have two spellings, one with underscores and one without.  Either
may be used, but not both; and keys that the document does not know may stand beside them.

Main results:

- `EditorRow.decode_respelled_iff`: a row is read from its keys in either spelling.
- `decode_interchangeable_spellings`: neither spellings nor unknown keys make a difference for a
  target.
-/

namespace PanelQuery
namespace Target

open Json (KnownKey RecordDecoder)

namespace EditorRow

/-- The keys that have a second spelling, each with it. -/
def spellings : List (String × String) :=
  [("metric_array", "metricArray"), ("metricValues_array", "metricValuesArray"),
    ("groupby_field", "groupbyField"), ("target_alias", "targetAlias")]

/-- Two keys are the same, or the two spellings of one. -/
def IsSpellingOf (key other : String) : Prop :=
  key = other ∨ (key, other) ∈ spellings ∨ (other, key) ∈ spellings

theorem isLocal_fields : fields.IsLocal := by
  unfold fields
  apply_rules [RecordDecoder.IsLocal.seq, RecordDecoder.isLocal_pure,
    RecordDecoder.isLocal_defaulted]

theorem unambiguous_fields : Json.Unambiguous fields.fields := by
  decide

theorem isKnown_fields_eq_false {key : String} (h : ∀ k ∈ keys, key ∉ k.names) :
    Json.isKnown fields.fields key = false := by
  refine Json.isKnown_eq_false_iff.2 fun f hf => ?_
  obtain ⟨k, hk, hfk⟩ := exists_right_of_forall₂ failsBy_fields hf
  exact Bool.eq_false_iff.2 fun hanswers => h k hk (hfk.answersTo_iff.1 hanswers)

/-- Both spellings of a key belong to the field of the first one. -/
theorem fieldName?_of_mem_spellings : ∀ s ∈ spellings,
    Json.fieldName? fields.fields s.1 = some s.1 ∧
      Json.fieldName? fields.fields s.2 = some s.1 := by
  decide

/-- A spelling belongs to one key, as its first spelling or as its second. -/
theorem spellings_unique : ∀ s ∈ spellings, ∀ s' ∈ spellings,
    s.1 ≠ s'.2 ∧ (s.1 = s'.1 ↔ s.2 = s'.2) := by
  decide

theorem IsSpellingOf.fieldName?_eq {key other : String} (h : IsSpellingOf key other) :
    Json.fieldName? fields.fields other = Json.fieldName? fields.fields key := by
  rcases h with rfl | h | h
  · rfl
  · obtain ⟨hfirst, hsecond⟩ := fieldName?_of_mem_spellings _ h
    rw [hfirst, hsecond]
  · obtain ⟨hfirst, hsecond⟩ := fieldName?_of_mem_spellings _ h
    rw [hfirst, hsecond]

/-- Two keys that are another spelling of one key are the same. -/
theorem IsSpellingOf.eq_of_ne {key other spelling : String} (h : IsSpellingOf key spelling)
    (h' : IsSpellingOf other spelling) (hne : key ≠ spelling) (hne' : other ≠ spelling) :
    key = other := by
  rcases h.resolve_left hne with h | h <;> rcases h'.resolve_left hne' with h' | h'
  · exact (spellings_unique _ h _ h').2.2 rfl
  · exact absurd rfl (spellings_unique _ h' _ h).1
  · exact absurd rfl (spellings_unique _ h _ h').1
  · exact (spellings_unique _ h _ h').2.1 rfl

section

variable {ms : List (String × Json)} {rename : String → String}

/-- No two keys are renamed to one, if no key is renamed to one that is there. -/
theorem nodup_map_rename (hkeys : (ms.map (·.1)).Nodup)
    (hspelling : ∀ key ∈ ms.map (·.1), IsSpellingOf key (rename key))
    (hfree : ∀ key ∈ ms.map (·.1), rename key ≠ key → rename key ∉ ms.map (·.1)) :
    ((ms.map fun m => (rename m.1, m.2)).map (·.1)).Nodup := by
  have hinj : ∀ key ∈ ms.map (·.1), ∀ other ∈ ms.map (·.1), rename key = rename other →
      key = other := by
    intro key hkey other hother heq
    by_cases hsame : rename key = key
    · by_contra hne
      have hchanged : rename other ≠ other := fun hfixed => hne (by rw [← hsame, heq, hfixed])
      exact hfree other hother hchanged (by rwa [← heq, hsame])
    · have hchanged : rename other ≠ other :=
        fun hfixed => hfree key hkey hsame (by rwa [heq, hfixed])
      exact (hspelling key hkey).eq_of_ne (heq ▸ hspelling other hother) (Ne.symm hsame)
        (heq ▸ Ne.symm hchanged)
  have hmap : (ms.map fun m => (rename m.1, m.2)).map (·.1) = (ms.map (·.1)).map rename := by
    rw [List.map_map, List.map_map]
    rfl
  rw [hmap]
  exact hkeys.map_on hinj

/-- A row is read from its keys in either spelling. -/
theorem decode_respelled_iff (hkeys : (ms.map (·.1)).Nodup)
    (hspelling : ∀ key ∈ ms.map (·.1), IsSpellingOf key (rename key))
    (hfree : ∀ key ∈ ms.map (·.1), rename key ≠ key → rename key ∉ ms.map (·.1))
    {row : EditorRow} :
    decode (.object (KeyTable.ofList (ms.map fun m => (rename m.1, m.2)))) = .ok row ↔
      decode (.object ms) = .ok row := by
  have hrenamed := nodup_map_rename hkeys hspelling hfree
  refine RecordDecoder.decode_object_respelled_iff checked_fields isLocal_fields
    unambiguous_fields ⟨KeyTable.perm_ofList hrenamed, ?_⟩ hkeys
    (KeyTable.isOrdered_ofList _).nodup_keys
  intro key hkey
  exact (hspelling key hkey).fieldName?_eq

end

end EditorRow

section

variable {ms : List (String × Json)}

/-- Keys that the document does not know make no difference. -/
theorem decode_congr_known {ms' : List (String × Json)}
    (h : ms.filter (fun m => Json.isKnown EditorRow.fields.fields m.1) =
      ms'.filter fun m => Json.isKnown EditorRow.fields.fields m.1) :
    decode (.object ms) = decode (.object ms') := by
  have hrow : EditorRow.decode (.object ms) = EditorRow.decode (.object ms') :=
    RecordDecoder.decode_object_congr_known EditorRow.isLocal_fields h
  rw [decode, decode, hrow]

theorem decode_eq_ok_iff {v : Json} {t : Target} :
    decode v = .ok t ↔ ∃ row, EditorRow.decode v = .ok row ∧ row.toTarget = .ok t := by
  rw [decode]
  cases EditorRow.decode v with
  | ok row => simp
  | error fault => simp

/-- Neither spellings nor unknown keys make a difference for the target that an object states.  A
key that is not known can be put in or left out.  Keys may be renamed to their other spellings, if
those are not there already.  An object with both spellings of a key states no target. -/
theorem decode_interchangeable_spellings (h : KeyTable.IsOrdered ms) :
    (∀ key, (∀ k ∈ EditorRow.keys, key ∉ k.names) →
      (∀ v, decode (.object (KeyTable.insert key v ms)) = decode (.object ms)) ∧
        decode (.object (ms.filter fun m => m.1 ≠ key)) = decode (.object ms)) ∧
    (∀ rename : String → String,
      (∀ key ∈ ms.map (·.1), EditorRow.IsSpellingOf key (rename key)) →
      (∀ key ∈ ms.map (·.1), rename key ≠ key → rename key ∉ ms.map (·.1)) →
        ∀ t, decode (.object (KeyTable.ofList (ms.map fun m => (rename m.1, m.2)))) = .ok t ↔
          decode (.object ms) = .ok t) ∧
    ∀ s ∈ EditorRow.spellings, s.1 ∈ ms.map (·.1) → s.2 ∈ ms.map (·.1) →
      ∃ fault, decode (.object ms) = .error (.malformed fault) := by
  refine ⟨?_, ?_, ?_⟩
  · intro key hkey
    have hunknown := EditorRow.isKnown_fields_eq_false hkey
    refine ⟨fun v => decode_congr_known (KeyTable.filter_insert hunknown v ms), ?_⟩
    refine decode_congr_known ?_
    rw [List.filter_filter]
    refine List.filter_congr fun m _ => ?_
    by_cases hm : m.1 = key
    · simp [hm, hunknown]
    · simp [hm]
  · intro rename hspelling hfree t
    simp only [decode_eq_ok_iff, EditorRow.decode_respelled_iff h.nodup_keys hspelling hfree]
  · intro s hs hfirst hsecond
    obtain ⟨hname, hother⟩ := EditorRow.fieldName?_of_mem_spellings s hs
    obtain ⟨fault, hfault⟩ := RecordDecoder.exists_fault_of_two_members
      (EditorRow.spellings_unique s hs s hs).1 hfirst hsecond hname hother
    refine ⟨fault, ?_⟩
    have hrow : EditorRow.decode (.object ms) = .error fault := hfault
    rw [decode, hrow]

end

/-- A document with two metrics, and with keys that have a second spelling. -/
def trafficMembers : List (String × Json) :=
  [("groupby_field", .string "node"), ("metric_array", .array [.string "input", .string "output"]),
    ("series", .string "interface"), ("target_alias", .string "traffic")]

/-- The same document, with two of its keys in their second spellings. -/
def respelledMembers : List (String × Json) :=
  [("groupby_field", .string "node"), ("metricArray", .array [.string "input", .string "output"]),
    ("series", .string "interface"), ("targetAlias", .string "traffic")]

/-- Two keys in their second spellings, and all others as they are. -/
def respelled (key : String) : String :=
  if key = "metric_array" then "metricArray"
  else if key = "target_alias" then "targetAlias" else key

theorem decode_interchangeable_spellings_trafficMembers :
    KeyTable.IsOrdered trafficMembers ∧
      decode (.object (KeyTable.insert "datasource" (.string "flows") trafficMembers)) =
        decode (.object trafficMembers) ∧
      (∃ t, t.metrics = ["input", "output"] ∧ decode (.object respelledMembers) = .ok t) ∧
      ∃ fault, decode (.object (KeyTable.insert "metricArray" (.array []) trafficMembers)) =
        .error (.malformed fault) := by
  have hordered : KeyTable.IsOrdered trafficMembers := by
    simp only [KeyTable.IsOrdered, trafficMembers, List.map_cons, List.map_nil]
    decide +kernel
  obtain ⟨hunknown, hrenamed, -⟩ := decode_interchangeable_spellings hordered
  have hboth := (decode_interchangeable_spellings
    (hordered.insert "metricArray" (.array []))).2.2
  refine ⟨hordered, (hunknown "datasource" (by decide)).1 _, ?_, ?_⟩
  · have hspelling : ∀ key ∈ trafficMembers.map (·.1),
        EditorRow.IsSpellingOf key (respelled key) := by
      simp [trafficMembers, EditorRow.IsSpellingOf, EditorRow.spellings, respelled]
    have hfree : ∀ key ∈ trafficMembers.map (·.1), respelled key ≠ key →
        respelled key ∉ trafficMembers.map (·.1) := by
      simp [trafficMembers, respelled]
    have hmembers : KeyTable.ofList (trafficMembers.map fun m => (respelled m.1, m.2)) =
        respelledMembers :=
      rfl
    obtain ⟨t, ht, hmetrics⟩ : ∃ t, decode (.object trafficMembers) = .ok t ∧
        t.metrics = ["input", "output"] := ⟨_, rfl, rfl⟩
    exact ⟨t, hmetrics, hmembers ▸ (hrenamed respelled hspelling hfree t).2 ht⟩
  · exact hboth ("metric_array", "metricArray") (by decide) (by decide) (by decide)

end Target
end PanelQuery
