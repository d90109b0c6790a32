import Mathlib.Data.List.Nodup
import PanelQuery.Json.Decoder
import PanelQuery.Proofs.KeyTable

/-!
# Json - decoders that succeed

A list is decoded item by item.  A record is decoded in two passes over an object: the members are
checked in their order, and then the record is built from its fields.  Where every field is checked
by what it is built with, the first pass adds one condition only, that no field has two members.

Main results:

- `Decoder.list_map`: a list is read back if its items are.
- `checkMembers_eq_ok_iff`: which members pass the check.
- `RecordDecoder.decode_object_eq_ok_iff`: which objects a record is decoded from.
- `RecordDecoder.Yields.of_decode`: what every decoded record satisfies.
-/

namespace PanelQuery

/-! ## Success in steps -/

section

variable {ε α β : Type}

/-- A computation in two steps succeeds exactly if both steps do. -/
theorem bind_eq_ok_iff {x : Except ε α} {f : α → Except ε β} {b : β} :
    (x >>= f) = .ok b ↔ ∃ a, x = .ok a ∧ f a = .ok b := by
  cases x <;> simp [bind, Except.bind]

@[simp]
theorem pure_eq_ok_iff {a b : α} : (pure a : Except ε α) = .ok b ↔ a = b := by
  simp [pure, Except.pure]

end

namespace Json

/-! ## Values read back -/

namespace Decoder

variable {α : Type}

theorem items_map {decode : Decoder α} {encode : α → Json} {xs : List α}
    (h : ∀ x ∈ xs, decode (encode x) = .ok x) : items decode (xs.map encode) = .ok xs := by
  induction xs with
  | nil => rfl
  | cons x xs ih =>
      have hx := h x List.mem_cons_self
      have hxs := ih fun y hy => h y (List.mem_cons_of_mem x hy)
      rw [List.map_cons, items, hx, hxs]
      rfl

/-- A list is read back if its items are. -/
theorem list_map {decode : Decoder α} {encode : α → Json} {xs : List α}
    (h : ∀ x ∈ xs, decode (encode x) = .ok x) : list decode (.array (xs.map encode)) = .ok xs :=
  items_map h

theorem list_any (values : List Json) : list any (.array values) = .ok values := by
  have hlist : list any (.array (values.map id)) = .ok values := list_map fun _ _ => rfl
  rwa [List.map_id] at hlist

theorem nullable_ofText? (text : Option String) :
    nullable Decoder.text (ofText? text) = .ok text := by
  cases text <;> rfl

theorem nullable_of_ne_null {decode : Decoder α} {v : Json} (h : v ≠ .null) :
    nullable decode v = (decode v).map some := by
  cases v with
  | null => exact absurd rfl h
  | bool _ => rfl
  | number _ => rfl
  | string _ => rfl
  | array _ => rfl
  | object _ => rfl

end Decoder

/-! ## Checked members -/

/-- What stands in lists without a common entry stands in one of them only. -/
theorem eq_of_mem_of_nodup_flatMap {α β : Type} {f : α → List β} {xs : List α}
    (h : (xs.flatMap f).Nodup) {x y : α} {b : β} (hx : x ∈ xs) (hy : y ∈ xs) (hbx : b ∈ f x)
    (hby : b ∈ f y) : x = y := by
  by_contra hne
  have hsymm : Std.Symm (Function.onFun List.Disjoint f) :=
    ⟨fun _ _ hdisjoint => List.disjoint_comm.1 hdisjoint⟩
  exact (List.nodup_flatMap.1 h).2.forall hx hy hne hbx hby

/-- The names of a field. -/
def Field.names (f : Field) : List String :=
  f.name :: f.alternative.toList

theorem Field.answersTo_iff {f : Field} {key : String} :
    f.answersTo key = true ↔ key ∈ f.names := by
  rw [answersTo, names, Bool.or_eq_true, beq_iff_eq, beq_iff_eq, List.mem_cons, Option.mem_toList,
    eq_comm]

/-- The name of the field that a key belongs to, if it belongs to one. -/
def fieldName? (fields : List Field) (key : String) : Option String :=
  (fields.find? (·.answersTo key)).map (·.name)

/-- The names of the fields that some keys belong to. -/
def fieldNames (fields : List Field) (keys : List String) : List String :=
  keys.filterMap (fieldName? fields)

theorem checkMembers_eq_ok_iff_of_met {fields : List Field} {met : List String}
    {ms : List (String × Json)} :
    checkMembers fields met ms = .ok () ↔
      (∀ m ∈ ms, ∀ f ∈ fields.find? (·.answersTo m.1), f.check m.2 = .ok ()) ∧
        (fieldNames fields (ms.map (·.1))).Nodup ∧
        ∀ name ∈ fieldNames fields (ms.map (·.1)), name ∉ met := by
  induction ms generalizing met with
  | nil => simp [checkMembers, fieldNames]
  | cons m ms ih =>
      obtain ⟨key, v⟩ := m
      cases hfind : fields.find? (·.answersTo key) with
      | none => simp [checkMembers, fieldNames, fieldName?, hfind, ih]
      | some f =>
          by_cases hmet : f.name ∈ met
          · simp [checkMembers, fieldNames, fieldName?, hfind, hmet]
          · have hname : fieldName? fields key = some f.name := by
              simp [fieldName?, hfind]
            simp only [checkMembers, hfind, List.contains_eq_mem, hmet, decide_false,
              Bool.false_eq_true, if_false, bind_eq_ok_iff, ih, List.mem_cons, not_or,
              List.map_cons, fieldNames, List.filterMap_cons, hname, List.nodup_cons,
              forall_eq_or_imp, Option.mem_def, Option.some.injEq, forall_eq', not_false_eq_true,
              true_and]
            constructor
            · rintro ⟨⟨⟩, hcheck, hms, hnodup, hfresh⟩
              have hnew : f.name ∉ List.filterMap (fieldName? fields) (ms.map (·.1)) :=
                fun hin => (hfresh f.name hin).1 rfl
              exact ⟨⟨hcheck, hms⟩, ⟨hnew, hnodup⟩, fun name hin => (hfresh name hin).2⟩
            · rintro ⟨⟨hcheck, hms⟩, ⟨hnew, hnodup⟩, hfresh⟩
              refine ⟨(), hcheck, hms, hnodup, fun name hin => ⟨?_, hfresh name hin⟩⟩
              rintro rfl
              exact hnew hin

/-- Members are accepted exactly if each of them passes the check of its field and no field has two
of them. -/
theorem checkMembers_eq_ok_iff {fields : List Field} {ms : List (String × Json)} :
    checkMembers fields [] ms = .ok () ↔
      (∀ m ∈ ms, ∀ f ∈ fields.find? (·.answersTo m.1), f.check m.2 = .ok ()) ∧
        (fieldNames fields (ms.map (·.1))).Nodup := by
  simp [checkMembers_eq_ok_iff_of_met]

/-! ## Values of fields -/

section

variable {ms : List (String × Json)} {i : Nat} {name : String} {alternative : Option String}

/-- The value of a field stands under one of its names. -/
theorem exists_mem_of_value? {v : Json}
    (h : (Source.members ms).value? i name alternative = some v) :
    ∃ key ∈ name :: alternative.toList, (key, v) ∈ ms := by
  cases hname : KeyTable.find? name ms with
  | some w =>
      obtain rfl : w = v := by simpa [Source.value?, hname] using h
      exact ⟨name, List.mem_cons_self, KeyTable.mem_of_find? hname⟩
  | none =>
      have hother : alternative.bind (KeyTable.find? · ms) = some v := by
        simpa [Source.value?, hname] using h
      obtain ⟨other, halternative, hfind⟩ := Option.bind_eq_some_iff.1 hother
      exact ⟨other, by simp [halternative], KeyTable.mem_of_find? hfind⟩

theorem not_mem_keys_of_find?_eq_none {key : String} (h : KeyTable.find? key ms = none) :
    key ∉ ms.map (·.1) := by
  rw [← KeyTable.isSome_find?_iff, h]
  exact Bool.false_ne_true

/-- A field without a value has no member under any of its names. -/
theorem not_mem_keys_of_value?_eq_none
    (h : (Source.members ms).value? i name alternative = none) :
    ∀ key ∈ name :: alternative.toList, key ∉ ms.map (·.1) := by
  cases hname : KeyTable.find? name ms with
  | some w => simp [Source.value?, hname] at h
  | none =>
      have hother : alternative.bind (KeyTable.find? · ms) = none := by
        simpa [Source.value?, hname] using h
      rw [List.forall_mem_cons]
      refine ⟨not_mem_keys_of_find?_eq_none hname, ?_⟩
      intro other hin
      have hlookup := Option.bind_eq_none_iff.1 hother other (Option.mem_toList.1 hin)
      exact not_mem_keys_of_find?_eq_none hlookup

end

/-! ## Records built from their fields -/

namespace RecordDecoder

variable {α β : Type}

theorem build_seq_eq_ok_iff {r : RecordDecoder (α → β)} {x : RecordDecoder α} {s : Source}
    {i : Nat} {b : β} :
    (r <*> x).build s i = .ok b ↔
      ∃ g, r.build s i = .ok g ∧ ∃ a, x.build s (i + r.fields.length) = .ok a ∧ g a = b := by
  simp only [Seq.seq, bind_eq_ok_iff, pure_eq_ok_iff]

/-- A record is built by building what it is put together from. -/
theorem build_seq {r : RecordDecoder (α → β)} {x : RecordDecoder α} {s : Source} {i : Nat}
    {g : α → β} {a : α} (hr : r.build s i = .ok g)
    (hx : x.build s (i + r.fields.length) = .ok a) : (r <*> x).build s i = .ok (g a) :=
  build_seq_eq_ok_iff.2 ⟨g, hr, a, hx, rfl⟩

theorem build_pure (a : α) (s : Source) (i : Nat) :
    (pure a : RecordDecoder α).build s i = .ok a :=
  rfl

/-- A field is built from the member under its name. -/
theorem build_defaulted {name : String} {decode : Decoder α} {default a : α}
    {alternative : Option String} {ms : List (String × Json)} {i : Nat} {v : Json}
    (hfind : KeyTable.find? name ms = some v) (hv : decode v = .ok a) :
    (defaulted name decode default alternative).build (.members ms) i = .ok a := by
  simp [defaulted, Source.value?, hfind, hv]

/-! ## What every record satisfies -/

/-- Whatever a record is built from, it satisfies a condition. -/
def Yields (r : RecordDecoder α) (P : α → Prop) : Prop :=
  ∀ s i a, r.build s i = .ok a → P a

theorem yields_true (r : RecordDecoder α) : r.Yields fun _ => True :=
  fun _ _ _ _ => trivial

theorem yields_pure {a : α} {P : α → Prop} (h : P a) : Yields (pure a) P := by
  intro s i b hb
  cases hb
  exact h

theorem yields_defaulted {name : String} {decode : Decoder α} {default : α}
    {alternative : Option String} {P : α → Prop} (hdecode : ∀ v a, decode v = .ok a → P a)
    (hdefault : P default) : (defaulted name decode default alternative).Yields P := by
  intro s i a h
  simp only [defaulted] at h
  split at h
  · exact hdecode _ a h
  · cases h
    exact hdefault

theorem Yields.seq {r : RecordDecoder (α → β)} {x : RecordDecoder α} {P : β → Prop}
    {Q : α → Prop} (hr : r.Yields fun g => ∀ a, Q a → P (g a)) (hx : x.Yields Q) :
    (r <*> x).Yields P := by
  intro s i b h
  obtain ⟨g, hg, a, ha, rfl⟩ := build_seq_eq_ok_iff.1 h
  exact hr s i g hg a (hx s _ a ha)

/-- A record satisfies the condition whether it was given by an object or by a list. -/
theorem Yields.of_decode {r : RecordDecoder α} {P : α → Prop} (hr : r.Yields P) {record : String}
    {v : Json} {a : α} (h : r.decode record v = .ok a) : P a := by
  cases v with
  | object ms =>
      obtain ⟨_, -, hbuild⟩ := bind_eq_ok_iff.1 h
      exact hr _ 0 a hbuild
  | array values =>
      obtain ⟨b, hbuild, hrest⟩ := bind_eq_ok_iff.1 h
      split at hrest
      · cases hrest
      · cases hrest
        exact hr _ 0 a hbuild
  | null => cases h
  | bool _ => cases h
  | number _ => cases h
  | string _ => cases h

/-! ## Objects -/

/-- Every value that a record is built from passes the check of its field. -/
def Checked (r : RecordDecoder α) : Prop :=
  ∀ s i a, r.build s i = .ok a → ∀ j f, r.fields[j]? = some f →
    ∀ v, s.value? (i + j) f.name f.alternative = some v → f.check v = .ok ()

theorem checked_pure (a : α) : Checked (pure a) := by
  intro s i b h j f hf
  simp [pure] at hf

theorem checked_defaulted (name : String) (decode : Decoder α) (default : α)
    (alternative : Option String) : (defaulted name decode default alternative).Checked := by
  intro s i a h j f hf v hv
  cases j with
  | succ j => simp [defaulted] at hf
  | zero =>
      obtain rfl : _ = f := by simpa [defaulted] using hf
      have hdecode : decode v = .ok a := by
        simpa [defaulted, show s.value? i name alternative = some v from hv] using h
      simp [hdecode, Except.map]

theorem Checked.seq {r : RecordDecoder (α → β)} {x : RecordDecoder α} (hr : r.Checked)
    (hx : x.Checked) : (r <*> x).Checked := by
  intro s i b h j f hf v hv
  obtain ⟨g, hg, a, ha, -⟩ := build_seq_eq_ok_iff.1 h
  have hfields : (r <*> x).fields = r.fields ++ x.fields := rfl
  rw [hfields] at hf
  by_cases hj : j < r.fields.length
  · rw [List.getElem?_append_left hj] at hf
    exact hr s i g hg j f hf v hv
  · rw [List.getElem?_append_right (Nat.le_of_not_lt hj)] at hf
    refine hx s _ a ha _ f hf v ?_
    rwa [Nat.add_assoc, Nat.add_sub_cancel' (Nat.le_of_not_lt hj)]

/-- Two keys that belong to one field are one key, if no field has two of them. -/
theorem eq_of_fieldName?_eq {fields : List Field} {keys : List String} {k l name : String}
    (hnodup : (fieldNames fields keys).Nodup) (hk : k ∈ keys) (hl : l ∈ keys)
    (hkname : fieldName? fields k = some name) (hlname : fieldName? fields l = some name) :
    k = l := by
  by_contra hne
  have hpairwise := List.pairwise_filterMap.1 hnodup
  have hsymm : Std.Symm fun k l : String => ∀ n, fieldName? fields k = some n →
      ∀ m, fieldName? fields l = some m → n ≠ m :=
    ⟨fun k l h n hn m hm => (h m hm n hn).symm⟩
  exact hpairwise.forall hk hl hne name hkname name hlname rfl

/-- Every field is the first that answers to its name. -/
def WellNamed (fields : List Field) : Prop :=
  ∀ f ∈ fields, fieldName? fields f.name = some f.name

instance (fields : List Field) : Decidable (WellNamed fields) :=
  List.decidableBAll _ fields

/-- A record whose fields are checked by what they are built with is decoded from an object exactly
if no field has two members and the record can be built. -/
theorem decode_object_eq_ok_iff {r : RecordDecoder α} {record : String}
    {ms : List (String × Json)} {a : α} (hr : r.Checked) (hnames : WellNamed r.fields)
    (hkeys : (ms.map (·.1)).Nodup) :
    r.decode record (.object ms) = .ok a ↔
      (fieldNames r.fields (ms.map (·.1))).Nodup ∧ r.build (.members ms) 0 = .ok a := by
  simp only [decode, bind_eq_ok_iff]
  constructor
  · rintro ⟨⟨⟩, hcheck, hbuild⟩
    exact ⟨(checkMembers_eq_ok_iff.1 hcheck).2, hbuild⟩
  · rintro ⟨hnodup, hbuild⟩
    refine ⟨(), checkMembers_eq_ok_iff.2 ⟨?_, hnodup⟩, hbuild⟩
    rintro ⟨key, v⟩ hm f hf
    obtain ⟨j, hj⟩ := List.getElem?_of_mem (List.mem_of_find?_eq_some hf)
    refine hr _ 0 a hbuild j f hj v ?_
    have hfound : KeyTable.find? key ms = some v := KeyTable.find?_of_mem hkeys hm
    have hanswers : f.answersTo key = true := by
      simpa using List.find?_some (Option.mem_def.1 hf)
    simp only [Field.answersTo, Bool.or_eq_true, beq_iff_eq] at hanswers
    -- Under its second name a field is only found if it has no member under the first.
    rcases hanswers with rfl | halternative
    · simp [Source.value?, hfound]
    · cases hname : KeyTable.find? f.name ms with
      | none => simp [Source.value?, hname, halternative, hfound]
      | some w =>
          have hfield : fieldName? r.fields key = some f.name := by
            simp only [fieldName?, Option.mem_def.1 hf, Option.map_some]
          have hkey : f.name = key :=
            eq_of_fieldName?_eq hnodup (List.mem_map_of_mem (KeyTable.mem_of_find? hname))
              (List.mem_map_of_mem hm) (hnames f (List.mem_of_find?_eq_some hf)) hfield
          simp [Source.value?, hkey, hfound]

end RecordDecoder

end Json
end PanelQuery
