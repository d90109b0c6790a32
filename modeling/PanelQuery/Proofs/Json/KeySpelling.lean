import PanelQuery.Proofs.Json.Decoder

/-!
# Json - keys that a record knows

What is decoded from an object depends on the values of the fields alone.  So members that no field
answers to can come and go, and a member can stand under any name of its field.  What cannot be is
that one field has two members: then there would be a choice between their values.

Main results:

- `RecordDecoder.decode_object_filter`: only the members count that a field answers to.
- `RecordDecoder.decode_object_respelled_iff`: members may stand under other names of their fields.
- `RecordDecoder.exists_fault_of_two_members`: no field can have two members.
-/

namespace PanelQuery
namespace Json

/-! ## Names of fields -/

/-- Whether one of some fields answers to a key. -/
def isKnown (fields : List Field) (key : String) : Bool :=
  fields.any (·.answersTo key)

theorem isKnown_eq_false_iff {fields : List Field} {key : String} :
    isKnown fields key = false ↔ ∀ f ∈ fields, f.answersTo key = false := by
  simp [isKnown]

/-- No name belongs to two fields. -/
def Unambiguous (fields : List Field) : Prop :=
  (fields.flatMap Field.names).Nodup

instance (fields : List Field) : Decidable (Unambiguous fields) :=
  inferInstanceAs (Decidable (List.Nodup _))

section

variable {fields : List Field} {f : Field} {key : String}

/-- The names of a field are the keys that belong to it. -/
theorem Unambiguous.fieldName?_eq_some_iff (h : Unambiguous fields) (hf : f ∈ fields) :
    fieldName? fields key = some f.name ↔ key ∈ f.names := by
  rw [fieldName?, Option.map_eq_some_iff]
  constructor
  · rintro ⟨g, hg, hname⟩
    have hkey : key ∈ g.names := Field.answersTo_iff.1 (by simpa using List.find?_some hg)
    have hown : g.name ∈ f.names := hname ▸ List.mem_cons_self
    obtain rfl := eq_of_mem_of_nodup_flatMap h (List.mem_of_find?_eq_some hg) hf
      List.mem_cons_self hown
    exact hkey
  · intro hkey
    cases hfind : fields.find? (·.answersTo key) with
    | none => exact absurd (Field.answersTo_iff.2 hkey) (List.find?_eq_none.1 hfind f hf)
    | some g =>
        have hkey' : key ∈ g.names := Field.answersTo_iff.1 (by simpa using List.find?_some hfind)
        obtain rfl := eq_of_mem_of_nodup_flatMap h (List.mem_of_find?_eq_some hfind) hf hkey' hkey
        exact ⟨g, rfl, rfl⟩

theorem Unambiguous.wellNamed (h : Unambiguous fields) : RecordDecoder.WellNamed fields :=
  fun _ hf => (h.fieldName?_eq_some_iff hf).2 List.mem_cons_self

end

/-- Members that no field answers to are not checked. -/
theorem checkMembers_filter (fields : List Field) (met : List String) (ms : List (String × Json)) :
    checkMembers fields met (ms.filter fun m => isKnown fields m.1) =
      checkMembers fields met ms := by
  induction ms generalizing met with
  | nil => rfl
  | cons m ms ih =>
      obtain ⟨key, v⟩ := m
      cases hknown : isKnown fields key with
      | false =>
          rw [List.filter_cons_of_neg (by simp [hknown]), ih,
            checkMembers_unknown (isKnown_eq_false_iff.1 hknown)]
      | true =>
          rw [List.filter_cons_of_pos (by simp [hknown])]
          simp only [checkMembers, ih]

/-! ## Values of fields -/

/-- A field whose names stand for one member at most has what stands under any of its names. -/
theorem value?_eq_some_iff {ms : List (String × Json)} {i : Nat} {name : String}
    {alternative : Option String} {v : Json} (hkeys : (ms.map (·.1)).Nodup)
    (hone : ∀ key ∈ name :: alternative.toList, ∀ other ∈ name :: alternative.toList,
      key ∈ ms.map (·.1) → other ∈ ms.map (·.1) → key = other) :
    (Source.members ms).value? i name alternative = some v ↔
      ∃ key ∈ name :: alternative.toList, (key, v) ∈ ms := by
  refine ⟨exists_mem_of_value?, ?_⟩
  rintro ⟨key, hkey, hin⟩
  have hkeyIn : key ∈ ms.map (·.1) := List.mem_map_of_mem hin
  cases hvalue : (Source.members ms).value? i name alternative with
  | none => exact absurd hkeyIn (not_mem_keys_of_value?_eq_none hvalue key hkey)
  | some w =>
      obtain ⟨other, hother, hotherIn⟩ := exists_mem_of_value? hvalue
      obtain rfl := hone other hother key hkey (List.mem_map_of_mem hotherIn) hkeyIn
      rw [← KeyTable.find?_of_mem hkeys hotherIn, KeyTable.find?_of_mem hkeys hin]

/-- Two sources have the same values for some fields, the first of which stands at a position. -/
def Source.AgreeOn (s s' : Source) (fields : List Field) (i : Nat) : Prop :=
  ∀ e ∈ fields.zipIdx i,
    s.value? e.2 e.1.name e.1.alternative = s'.value? e.2 e.1.name e.1.alternative

/-! ## Members under other names -/

/-- Members stand under other names of the fields that they belong to, in any order. -/
def IsRespelling (fields : List Field) (rename : String → String)
    (ms ms' : List (String × Json)) : Prop :=
  ms'.Perm (ms.map fun m => (rename m.1, m.2)) ∧
    ∀ key ∈ ms.map (·.1), fieldName? fields (rename key) = fieldName? fields key

section

variable {fields : List Field} {rename : String → String} {ms ms' : List (String × Json)}

theorem IsRespelling.perm_fieldNames (h : IsRespelling fields rename ms ms') :
    (fieldNames fields (ms'.map (·.1))).Perm (fieldNames fields (ms.map (·.1))) := by
  have hperm := (h.1.map (·.1)).filterMap (fieldName? fields)
  have hnames : ((ms.map fun m => (rename m.1, m.2)).map (·.1)).filterMap (fieldName? fields) =
      (ms.map (·.1)).filterMap (fieldName? fields) := by
    rw [List.map_map, List.filterMap_map, List.filterMap_map]
    refine List.filterMap_congr fun m hm => ?_
    exact h.2 m.1 (List.mem_map_of_mem hm)
  rwa [hnames] at hperm

/-- With one member for each field at most, members under other names give the fields the same
values. -/
theorem IsRespelling.agreeOn (h : IsRespelling fields rename ms ms') (hnames : Unambiguous fields)
    (hkeys : (ms.map (·.1)).Nodup) (hkeys' : (ms'.map (·.1)).Nodup)
    (hnodup : (fieldNames fields (ms.map (·.1))).Nodup) :
    Source.AgreeOn (.members ms') (.members ms) fields 0 := by
  rintro ⟨f, i⟩ hmem
  have hf : f ∈ fields := List.fst_mem_of_mem_zipIdx hmem
  have hone : ∀ {ms : List (String × Json)}, (fieldNames fields (ms.map (·.1))).Nodup →
      ∀ key ∈ f.names, ∀ other ∈ f.names, key ∈ ms.map (·.1) → other ∈ ms.map (·.1) →
        key = other := by
    intro ms hnodup key hkey other hother hin hotherIn
    have hkeyName := (hnames.fieldName?_eq_some_iff hf).2 hkey
    have hotherName := (hnames.fieldName?_eq_some_iff hf).2 hother
    exact RecordDecoder.eq_of_fieldName?_eq hnodup hin hotherIn hkeyName hotherName
  have hnodup' := h.perm_fieldNames.nodup_iff.2 hnodup
  refine Option.ext fun v => ?_
  rw [value?_eq_some_iff hkeys' (hone hnodup'), value?_eq_some_iff hkeys (hone hnodup)]
  constructor
  · rintro ⟨key, hkey, hin⟩
    obtain ⟨⟨k, w⟩, hm, heq⟩ := List.mem_map.1 (h.1.mem_iff.1 hin)
    obtain ⟨rfl, rfl⟩ := Prod.mk.inj heq
    refine ⟨k, ?_, hm⟩
    rw [← Field.names, ← hnames.fieldName?_eq_some_iff hf] at hkey ⊢
    rw [← hkey, h.2 k (List.mem_map_of_mem hm)]
  · rintro ⟨key, hkey, hin⟩
    refine ⟨rename key, ?_, h.1.mem_iff.2 (List.mem_map_of_mem hin)⟩
    rw [← Field.names, ← hnames.fieldName?_eq_some_iff hf] at hkey ⊢
    rw [← hkey, h.2 key (List.mem_map_of_mem hin)]

end

/-! ## Records -/

namespace RecordDecoder

variable {α β : Type}

/-- A record is built from the values of its fields alone. -/
def IsLocal (r : RecordDecoder α) : Prop :=
  ∀ s s' i, Source.AgreeOn s s' r.fields i → r.build s i = r.build s' i

theorem isLocal_pure (a : α) : IsLocal (pure a) :=
  fun _ _ _ _ => rfl

theorem isLocal_defaulted (name : String) (decode : Decoder α) (default : α)
    (alternative : Option String) : (defaulted name decode default alternative).IsLocal := by
  intro s s' i hagree
  have hvalue : s.value? i name alternative = s'.value? i name alternative := by
    simpa [Source.AgreeOn, defaulted] using hagree
  simp only [defaulted, hvalue]

theorem IsLocal.seq {r : RecordDecoder (α → β)} {x : RecordDecoder α} (hr : r.IsLocal)
    (hx : x.IsLocal) : (r <*> x).IsLocal := by
  intro s s' i hagree
  have hfields : (r <*> x).fields.zipIdx i =
      r.fields.zipIdx i ++ x.fields.zipIdx (i + r.fields.length) := by
    rw [← List.zipIdx_append]
    rfl
  rw [Source.AgreeOn, hfields, List.forall_mem_append] at hagree
  have hfirst := hr s s' i hagree.1
  have hlast := hx s s' _ hagree.2
  simp only [Seq.seq, hfirst, hlast]

section

variable {r : RecordDecoder α} {record : String} {ms ms' : List (String × Json)} {a : α}

/-- Only the members count that a field answers to. -/
theorem decode_object_filter (hr : r.IsLocal) :
    r.decode record (.object (ms.filter fun m => isKnown r.fields m.1)) =
      r.decode record (.object ms) := by
  have hagree : Source.AgreeOn (.members (ms.filter fun m => isKnown r.fields m.1)) (.members ms)
      r.fields 0 := by
    rintro ⟨f, i⟩ hmem
    have hf : f ∈ r.fields := List.fst_mem_of_mem_zipIdx hmem
    have hfind : ∀ key ∈ f.names,
        KeyTable.find? key (ms.filter fun m => isKnown r.fields m.1) = KeyTable.find? key ms := by
      intro key hkey
      refine KeyTable.find?_filter ?_ ms
      exact List.any_eq_true.2 ⟨f, hf, Field.answersTo_iff.2 hkey⟩
    have hname := hfind f.name List.mem_cons_self
    have hother : f.alternative.bind
          (KeyTable.find? · (ms.filter fun m => isKnown r.fields m.1)) =
        f.alternative.bind (KeyTable.find? · ms) := by
      cases halternative : f.alternative with
      | none => rfl
      | some other => exact hfind other (by simp [Field.names, halternative])
    simp only [Source.value?, hname, hother]
  simp only [decode, checkMembers_filter, hr _ _ 0 hagree]

/-- Objects that differ in members that no field answers to are decoded alike. -/
theorem decode_object_congr_known (hr : r.IsLocal)
    (h : ms.filter (fun m => isKnown r.fields m.1) = ms'.filter fun m => isKnown r.fields m.1) :
    r.decode record (.object ms) = r.decode record (.object ms') := by
  rw [← decode_object_filter hr, h, decode_object_filter hr]

/-- The members of an object may stand under other names of their fields. -/
theorem decode_object_respelled_iff (hchecked : r.Checked) (hlocal : r.IsLocal)
    (hnames : Unambiguous r.fields) {rename : String → String}
    (h : IsRespelling r.fields rename ms ms') (hkeys : (ms.map (·.1)).Nodup)
    (hkeys' : (ms'.map (·.1)).Nodup) :
    r.decode record (.object ms') = .ok a ↔ r.decode record (.object ms) = .ok a := by
  rw [decode_object_eq_ok_iff hchecked hnames.wellNamed hkeys',
    decode_object_eq_ok_iff hchecked hnames.wellNamed hkeys, h.perm_fieldNames.nodup_iff]
  refine and_congr_right fun hnodup => ?_
  rw [hlocal _ _ 0 (h.agreeOn hnames hkeys hkeys' hnodup)]

/-- An object that has two members for one field is not decoded. -/
theorem exists_fault_of_two_members {key other name : String} (hne : key ≠ other)
    (hkey : key ∈ ms.map (·.1)) (hother : other ∈ ms.map (·.1))
    (hkeyName : fieldName? r.fields key = some name)
    (hotherName : fieldName? r.fields other = some name) :
    ∃ fault, r.decode record (.object ms) = .error fault := by
  cases hdecode : r.decode record (.object ms) with
  | error fault => exact ⟨fault, rfl⟩
  | ok a =>
      obtain ⟨⟨⟩, hcheck, -⟩ := bind_eq_ok_iff.1 hdecode
      have hnodup := (checkMembers_eq_ok_iff.1 hcheck).2
      exact absurd (eq_of_fieldName?_eq hnodup hkey hother hkeyName hotherName) hne

end

end RecordDecoder

end Json
end PanelQuery
