import Mathlib.Data.List.Nodup
import PanelQuery.Proofs.Correspondence
import PanelQuery.Proofs.FirstFault
import PanelQuery.Proofs.Json.Decoder
import PanelQuery.Proofs.Json.Ordered

/-!
# Json - decoders that fail

What a decoder refuses is described apart from it, type by type: which values are not of the type,
and with which fault.  Of a list the first item that is refused counts.  Of an object the least key
counts that is a second name of a field next to the first, or has a value that its field refuses.

Main results:

- `Decoder.FailsBy.list`: lists fail by their first refused item.
- `RecordDecoder.failsBy_record`: records fail by their least faulty key.
-/

namespace PanelQuery
namespace Json

/-- Which values are refused, each with its fault. -/
abbrev Refusal := Json → Fault → Prop

/-- A key that a record knows, with another name for it, and which values it does not take. -/
structure KnownKey where
  name : String
  alternative : Option String
  refuses : Refusal

/-- The names of a key. -/
def KnownKey.names (k : KnownKey) : List String :=
  k.name :: k.alternative.toList

theorem KnownKey.name_mem_names (k : KnownKey) : k.name ∈ k.names :=
  List.mem_cons_self

/-- A key of an object is faulty.  Of the names of one known key the second that is there is a
duplicate, whatever its value; the first one is faulty if its value is refused. -/
inductive KeyFault (keys : List KnownKey) (ms : List (String × Json)) : String → Fault → Prop
  | duplicate {k : KnownKey} {key other : String} (hk : k ∈ keys) (hkey : key ∈ k.names)
      (hin : key ∈ ms.map (·.1)) (hother : other ∈ k.names) (hotherIn : other ∈ ms.map (·.1))
      (hlt : other < key) : KeyFault keys ms key (.duplicateField k.name)
  | refused {k : KnownKey} {key : String} {v : Json} {fault : Fault} (hk : k ∈ keys)
      (hkey : key ∈ k.names) (hin : (key, v) ∈ ms)
      (hfirst : ∀ other ∈ k.names, other ∈ ms.map (·.1) → ¬ other < key)
      (hv : k.refuses v fault) : KeyFault keys ms key fault

theorem KeyFault.mem_keys {keys : List KnownKey} {ms : List (String × Json)} {key : String}
    {fault : Fault} (h : KeyFault keys ms key fault) : key ∈ ms.map (·.1) := by
  cases h with
  | duplicate _ _ hin _ _ _ => exact hin
  | refused _ _ hin _ _ => exact List.mem_map_of_mem hin

namespace Refusal

/-- Everything but strings is refused. -/
inductive text : Json → Fault → Prop
  | notText {v : Json} (h : ∀ s, v ≠ .string s) : text v (.wrongType v .text)

/-- Everything but the two truth values is refused. -/
inductive boolean : Json → Fault → Prop
  | notBoolean {v : Json} (h : ∀ b, v ≠ .bool b) : boolean v (.wrongType v .boolean)

/-- Nothing is refused. -/
def any : Refusal :=
  fun _ _ => False

/-- What is refused otherwise is, but for null. -/
inductive nullable (r : Refusal) : Json → Fault → Prop
  | notNull {v : Json} {fault : Fault} (h : v ≠ .null) (hv : r v fault) : nullable r v fault

/-- Everything but lists is refused, and lists are for their first item that is. -/
inductive list (r : Refusal) : Json → Fault → Prop
  | notList {v : Json} (h : ∀ vs, v ≠ .array vs) : list r v (.wrongType v .list)
  | item {vs : List Json} {fault : Fault} (h : IsFirstFault r vs fault) : list r (.array vs) fault

/-- Everything but objects and lists is refused.  Objects are for their first faulty key, and lists
for the first item that the key at its place does not take, or else for going on after the last
key. -/
inductive record (name : String) (keys : List KnownKey) : Json → Fault → Prop
  | notRecord {v : Json} (hobject : ∀ ms, v ≠ .object ms) (harray : ∀ vs, v ≠ .array vs) :
      record name keys v (.wrongType v (.record name))
  | key {ms : List (String × Json)} {fault : Fault}
      (h : IsFirstFault (KeyFault keys ms) (ms.map (·.1)) fault) :
      record name keys (.object ms) fault
  | item {vs : List Json} {fault : Fault}
      (h : IsFirstFault (fun e : KnownKey × Json => e.1.refuses e.2) (keys.zip vs) fault) :
      record name keys (.array vs) fault
  | tooMany {vs : List Json} (hitems : ∀ e ∈ keys.zip vs, ∀ f, ¬ e.1.refuses e.2 f)
      (hlength : keys.length < vs.length) : record name keys (.array vs) (.tooManyItems vs.length)

end Refusal

variable {α β : Type}

/-! ## Values -/

/-- On values in order, a decoder fails where they are refused, with the fault that they are refused
for. -/
def Decoder.FailsBy (decode : Decoder α) (r : Refusal) : Prop :=
  ∀ v, v.IsOrdered → ∀ fault, decode v = .error fault ↔ r v fault

namespace Decoder

variable {decode : Decoder α} {r : Refusal}

theorem failsBy_text : FailsBy text .text := by
  intro v _ fault
  constructor
  · intro h
    cases v with
    | string s => cases h
    | null | bool _ | number _ | array _ | object _ =>
        cases h
        exact .notText nofun
  · rintro ⟨h⟩
    cases v with
    | string s => exact absurd rfl (h s)
    | null | bool _ | number _ | array _ | object _ => rfl

theorem failsBy_boolean : FailsBy boolean .boolean := by
  intro v _ fault
  constructor
  · intro h
    cases v with
    | bool b => cases h
    | null | string _ | number _ | array _ | object _ =>
        cases h
        exact .notBoolean nofun
  · rintro ⟨h⟩
    cases v with
    | bool b => exact absurd rfl (h b)
    | null | string _ | number _ | array _ | object _ => rfl

theorem failsBy_any_of_ok (h : ∀ v, ∃ a, decode v = .ok a) : FailsBy decode .any := by
  intro v _ fault
  obtain ⟨a, ha⟩ := h v
  simp [ha, Refusal.any]

theorem failsBy_any : FailsBy any .any :=
  failsBy_any_of_ok fun v => ⟨v, rfl⟩

theorem map_eq_error_iff {ε : Type} {x : Except ε α} {f : α → β} {e : ε} :
    x.map f = .error e ↔ x = .error e := by
  cases x <;> simp [Except.map]

/-- A value that may be null fails as any other does. -/
theorem FailsBy.nullable (h : FailsBy decode r) : FailsBy (nullable decode) (.nullable r) := by
  intro v hv fault
  by_cases hnull : v = .null
  · subst hnull
    constructor
    · nofun
    · rintro ⟨hne, -⟩
      exact absurd rfl hne
  · rw [nullable_of_ne_null hnull, map_eq_error_iff, h v hv]
    exact ⟨.notNull hnull, fun ⟨_, hfault⟩ => hfault⟩

theorem reportsFirst_items (h : FailsBy decode r) {vs : List Json}
    (hvs : ∀ v ∈ vs, v.IsOrdered) : ReportsFirst r vs (items decode vs) := by
  induction vs with
  | nil => exact .ok []
  | cons v vs ih =>
      obtain ⟨hv, hrest⟩ := List.forall_mem_cons.1 hvs
      have hfirst : ReportsFirst r [v] (decode v) := .single (h v hv)
      exact hfirst.bind fun a _ => (ih hrest).bind_pure

/-- Lists fail by their first refused item. -/
theorem FailsBy.list (h : FailsBy decode r) : FailsBy (list decode) (.list r) := by
  intro v hv fault
  cases v with
  | array vs =>
      cases hv with
      | array hvs =>
      have hitems := reportsFirst_items h hvs fault
      constructor
      · intro herror
        exact .item (hitems.1 herror)
      · rintro (hlist | hfirst)
        · exact absurd rfl (hlist vs)
        · exact hitems.2 hfirst
  | null | bool _ | number _ | string _ | object _ =>
      constructor
      · intro herror
        cases herror
        exact .notList nofun
      · rintro ⟨-⟩
        rfl

end Decoder

/-! ## Fields -/

/-- A field takes the values of a known key, under the names of the key. -/
structure Field.FailsBy (f : Field) (k : KnownKey) : Prop where
  name : f.name = k.name
  alternative : f.alternative = k.alternative
  check : ∀ v, v.IsOrdered → ∀ fault, f.check v = .error fault ↔ k.refuses v fault

/-- The field of a decoder takes what the decoder takes. -/
theorem Decoder.FailsBy.field {decode : Decoder α} {r : Refusal} (h : FailsBy decode r)
    (name : String) (alternative : Option String) :
    Field.FailsBy ⟨name, alternative, fun v => (decode v).map fun _ => ()⟩
      ⟨name, alternative, r⟩ where
  name := rfl
  alternative := rfl
  check v hv fault := by rw [Decoder.map_eq_error_iff, h v hv]

theorem Field.FailsBy.names_eq {f : Field} {k : KnownKey} (h : f.FailsBy k) :
    f.name :: f.alternative.toList = k.names := by
  rw [h.name, h.alternative, KnownKey.names]

theorem Field.FailsBy.answersTo_iff {f : Field} {k : KnownKey} (h : f.FailsBy k) {key : String} :
    f.answersTo key = true ↔ key ∈ k.names := by
  rw [Field.answersTo_iff, Field.names, h.names_eq]

/-- No name belongs to two known keys. -/
def DistinctNames (keys : List KnownKey) : Prop :=
  (keys.flatMap KnownKey.names).Nodup

instance (keys : List KnownKey) : Decidable (DistinctNames keys) :=
  inferInstanceAs (Decidable (List.Nodup _))

theorem DistinctNames.eq_of_mem {keys : List KnownKey} (h : DistinctNames keys) {k l : KnownKey}
    {key : String} (hk : k ∈ keys) (hl : l ∈ keys) (hkey : key ∈ k.names) (hkey' : key ∈ l.names) :
    k = l :=
  eq_of_mem_of_nodup_flatMap h hk hl hkey hkey'

/-! ## Members of an object -/

section

variable {fields : List Field} {keys : List KnownKey} {ms : List (String × Json)}

theorem not_mem_names_of_find?_eq_none (hfields : List.Forall₂ Field.FailsBy fields keys)
    {key : String} (h : fields.find? (·.answersTo key) = none) : ∀ k ∈ keys, key ∉ k.names := by
  intro k hk hkey
  obtain ⟨f, hf, hfk⟩ := exists_left_of_forall₂ hfields hk
  exact List.find?_eq_none.1 h f hf (hfk.answersTo_iff.2 hkey)

theorem exists_key_of_find?_eq_some (hfields : List.Forall₂ Field.FailsBy fields keys)
    {key : String} {f : Field} (h : fields.find? (·.answersTo key) = some f) :
    ∃ k ∈ keys, f.FailsBy k ∧ key ∈ k.names := by
  have hanswers : f.answersTo key = true := by
    simpa using List.find?_some h
  obtain ⟨k, hk, hfk⟩ := exists_right_of_forall₂ hfields (List.mem_of_find?_eq_some h)
  exact ⟨k, hk, hfk, hfk.answersTo_iff.1 hanswers⟩

/-- In an object that is in order, the keys before a member are those that are less. -/
theorem mem_keys_before_iff {before rest : List (String × Json)} {key other : String} {v : Json}
    (hms : KeyTable.IsOrdered (before ++ (key, v) :: rest)) :
    other ∈ before.map (·.1) ↔ other ∈ (before ++ (key, v) :: rest).map (·.1) ∧ other < key := by
  rw [KeyTable.IsOrdered, List.map_append, List.map_cons, List.pairwise_append,
    List.pairwise_cons] at hms
  obtain ⟨-, ⟨hbehind, -⟩, hbefore⟩ := hms
  rw [List.map_append, List.map_cons, List.mem_append, List.mem_cons]
  constructor
  · intro hin
    exact ⟨.inl hin, hbefore other hin key List.mem_cons_self⟩
  · rintro ⟨hin | rfl | hin, hlt⟩
    · exact hin
    · exact absurd hlt (lt_irrefl other)
    · exact absurd hlt (lt_asymm (hbehind other hin))

theorem not_keyFault_of_unknown {key : String} (h : ∀ k ∈ keys, key ∉ k.names) (fault : Fault) :
    ¬ KeyFault keys ms key fault := by
  rintro (⟨hk, hkey, -⟩ | ⟨hk, hkey, -⟩)
  · exact h _ hk hkey
  · exact h _ hk hkey

section

variable {k : KnownKey} {before rest : List (String × Json)} {key : String} {v : Json}
  {fault : Fault}

/-- A further member under a name of a key that has had one is a duplicate. -/
theorem keyFault_iff_of_met (hnames : DistinctNames keys)
    (hms : KeyTable.IsOrdered (before ++ (key, v) :: rest)) (hk : k ∈ keys) (hkey : key ∈ k.names)
    (hmet : ∃ other ∈ k.names, other ∈ before.map (·.1)) :
    KeyFault keys (before ++ (key, v) :: rest) key fault ↔ .duplicateField k.name = fault := by
  obtain ⟨other, hother, hin⟩ := hmet
  obtain ⟨hotherIn, hlt⟩ := (mem_keys_before_iff hms).1 hin
  constructor
  · rintro (⟨hl, hkey', -⟩ | ⟨hl, hkey', -, hfirst, -⟩)
    · rw [hnames.eq_of_mem hk hl hkey hkey']
    · obtain rfl := hnames.eq_of_mem hk hl hkey hkey'
      exact absurd hlt (hfirst other hother hotherIn)
  · rintro rfl
    exact .duplicate hk hkey (by simp) hother hotherIn hlt

/-- The first member under the names of a key is faulty if its value is refused. -/
theorem keyFault_iff_of_not_met (hnames : DistinctNames keys)
    (hms : KeyTable.IsOrdered (before ++ (key, v) :: rest)) (hk : k ∈ keys) (hkey : key ∈ k.names)
    (hmet : ¬ ∃ other ∈ k.names, other ∈ before.map (·.1)) :
    KeyFault keys (before ++ (key, v) :: rest) key fault ↔ k.refuses v fault := by
  have hin : (key, v) ∈ before ++ (key, v) :: rest := by simp
  constructor
  · rintro (⟨hl, hkey', -, hother, hotherIn, hlt⟩ | ⟨hl, hkey', hin', -, hv⟩)
    · obtain rfl := hnames.eq_of_mem hk hl hkey hkey'
      exact absurd ⟨_, hother, (mem_keys_before_iff hms).2 ⟨hotherIn, hlt⟩⟩ hmet
    · obtain rfl := hnames.eq_of_mem hk hl hkey hkey'
      have hfound := KeyTable.find?_of_mem hms.nodup_keys hin
      rw [KeyTable.find?_of_mem hms.nodup_keys hin', Option.some.injEq] at hfound
      rwa [← hfound]
  · intro hv
    refine .refused hk hkey hin ?_ hv
    intro other hother hotherIn hlt
    exact hmet ⟨other, hother, (mem_keys_before_iff hms).2 ⟨hotherIn, hlt⟩⟩

end

/-- Some field names are those of the known keys that some members stand under. -/
def Meets (keys : List KnownKey) (met : List String) (before : List (String × Json)) : Prop :=
  ∀ k ∈ keys, k.name ∈ met ↔ ∃ other ∈ k.names, other ∈ before.map (·.1)

section

variable {met : List String} {before : List (String × Json)} {m : String × Json}

theorem mem_keys_concat_iff {other : String} :
    other ∈ (before ++ [m]).map (·.1) ↔ other ∈ before.map (·.1) ∨ other = m.1 := by
  simp

theorem Meets.concat_unknown (h : Meets keys met before) (hm : ∀ k ∈ keys, m.1 ∉ k.names) :
    Meets keys met (before ++ [m]) := by
  intro k hk
  rw [h k hk]
  refine exists_congr fun other => and_congr_right fun hother => ?_
  rw [mem_keys_concat_iff, or_iff_left]
  rintro rfl
  exact hm k hk hother

theorem Meets.concat_known (h : Meets keys met before) (hnames : DistinctNames keys)
    {k : KnownKey} (hk : k ∈ keys) (hm : m.1 ∈ k.names) :
    Meets keys (k.name :: met) (before ++ [m]) := by
  intro l hl
  rw [List.mem_cons, h l hl]
  constructor
  · rintro (hname | ⟨other, hother, hin⟩)
    · obtain rfl := hnames.eq_of_mem hl hk (hname ▸ l.name_mem_names) k.name_mem_names
      exact ⟨m.1, hm, mem_keys_concat_iff.2 (.inr rfl)⟩
    · exact ⟨other, hother, mem_keys_concat_iff.2 (.inl hin)⟩
  · rintro ⟨other, hother, hin⟩
    rcases mem_keys_concat_iff.1 hin with hin | rfl
    · exact .inr ⟨other, hother, hin⟩
    · rw [hnames.eq_of_mem hl hk hother hm]
      exact .inl rfl

end

/-- The members are checked one by one, given the names of the fields that were met before. -/
theorem reportsFirst_checkMembers_of_met (hfields : List.Forall₂ Field.FailsBy fields keys)
    (hnames : DistinctNames keys) (before : List (String × Json)) {rest : List (String × Json)}
    {met : List String} (hms : (Json.object (before ++ rest)).IsOrdered)
    (hmet : Meets keys met before) :
    ReportsFirst (KeyFault keys (before ++ rest)) (rest.map (·.1))
      (checkMembers fields met rest) := by
  -- The members before stay in sight: whether a key is a duplicate depends on them.
  induction rest generalizing before met with
  | nil => exact .ok ()
  | cons m rest ih =>
      obtain ⟨key, v⟩ := m
      obtain ⟨hkeys, hmembers⟩ := isOrdered_object_iff.1 hms
      have hv : v.IsOrdered := hmembers (key, v) (by simp)
      have hsplit : (before ++ [(key, v)]) ++ rest = before ++ (key, v) :: rest := by simp
      cases hfind : fields.find? (·.answersTo key) with
      | none =>
          have hunknown := not_mem_names_of_find?_eq_none hfields hfind
          have hrest := ih _ (hsplit ▸ hms) (hmet.concat_unknown hunknown)
          rw [hsplit] at hrest
          rw [checkMembers, hfind]
          exact .pass (not_keyFault_of_unknown hunknown) hrest
      | some f =>
          obtain ⟨k, hk, hfk, hkey⟩ := exists_key_of_find?_eq_some hfields hfind
          by_cases hseen : ∃ other ∈ k.names, other ∈ before.map (·.1)
          · have hstep : checkMembers fields met ((key, v) :: rest) =
                .error (.duplicateField k.name) := by
              simp [checkMembers, hfind, hfk.name, (hmet k hk).2 hseen]
            rw [hstep]
            exact .stop fun fault => keyFault_iff_of_met hnames hkeys hk hkey hseen
          · have hstep : checkMembers fields met ((key, v) :: rest) = (do
                f.check v
                checkMembers fields (k.name :: met) rest) := by
              simp [checkMembers, hfind, hfk.name, mt (hmet k hk).1 hseen]
            have hfirst : ReportsFirst (KeyFault keys (before ++ (key, v) :: rest)) [key]
                (f.check v) := by
              refine .single fun fault => ?_
              rw [hfk.check v hv fault, keyFault_iff_of_not_met hnames hkeys hk hkey hseen]
            have hrest := ih _ (hsplit ▸ hms) (hmet.concat_known hnames hk hkey)
            rw [hsplit] at hrest
            rw [hstep]
            exact hfirst.bind fun _ _ => hrest

/-- The members of an object are checked in the order of their keys. -/
theorem reportsFirst_checkMembers (hfields : List.Forall₂ Field.FailsBy fields keys)
    (hnames : DistinctNames keys) (hms : (Json.object ms).IsOrdered) :
    ReportsFirst (KeyFault keys ms) (ms.map (·.1)) (checkMembers fields [] ms) :=
  reportsFirst_checkMembers_of_met hfields hnames [] hms (by simp [Meets])

end

/-! ## Records whose fields may all be missing -/

/-- A field of a record is built from a value that it does not take. -/
def Source.FieldFault (s : Source) (e : Field × Nat) (fault : Fault) : Prop :=
  ∃ v, s.value? e.2 e.1.name e.1.alternative = some v ∧ e.1.check v = .error fault

namespace RecordDecoder

/-- A record is built field by field, and no field has to be there. -/
def IsLenient (r : RecordDecoder α) : Prop :=
  ∀ s i, ReportsFirst s.FieldFault (r.fields.zipIdx i) (r.build s i)

theorem isLenient_pure (a : α) : IsLenient (pure a) :=
  fun _ _ => .ok a

theorem isLenient_defaulted (name : String) (decode : Decoder α) (default : α)
    (alternative : Option String) : (defaulted name decode default alternative).IsLenient := by
  intro s i
  refine .single fun fault => ?_
  simp only [defaulted, Source.FieldFault, Decoder.map_eq_error_iff]
  cases s.value? i name alternative <;> simp

theorem IsLenient.seq {r : RecordDecoder (α → β)} {x : RecordDecoder α} (hr : r.IsLenient)
    (hx : x.IsLenient) : (r <*> x).IsLenient := by
  intro s i
  have hplaces : (r <*> x).fields.zipIdx i =
      r.fields.zipIdx i ++ x.fields.zipIdx (i + r.fields.length) := by
    rw [← List.zipIdx_append]
    rfl
  rw [hplaces]
  exact (hr s i).bind fun _ _ => (hx s _).bind_pure

section

variable {r : RecordDecoder α} {keys : List KnownKey}

/-- A record is built from an object as soon as its members have passed their check. -/
theorem build_ne_error (hr : r.IsLenient) (hfields : List.Forall₂ Field.FailsBy r.fields keys)
    {ms : List (String × Json)} (hms : (Json.object ms).IsOrdered)
    (hnone : ∀ key ∈ ms.map (·.1), ∀ f, ¬ KeyFault keys ms key f) (fault : Fault) :
    r.build (.members ms) 0 ≠ .error fault := by
  intro herror
  obtain ⟨⟨f, i⟩, hmem, v, hvalue, hcheck⟩ := exists_of_isFirstFault ((hr _ 0 fault).1 herror)
  obtain ⟨k, hk, hfk⟩ := exists_right_of_forall₂ hfields (List.fst_mem_of_mem_zipIdx hmem)
  obtain ⟨key, hkey, hin⟩ : ∃ key ∈ k.names, (key, v) ∈ ms := by
    obtain ⟨key, hkey, hin⟩ := exists_mem_of_value? hvalue
    exact ⟨key, hfk.names_eq ▸ hkey, hin⟩
  have hv : v.IsOrdered := (isOrdered_object_iff.1 hms).2 _ hin
  have hkeyIn : key ∈ ms.map (·.1) := List.mem_map_of_mem hin
  by_cases hfirst : ∃ other ∈ k.names, other ∈ ms.map (·.1) ∧ other < key
  · obtain ⟨other, hother, hotherIn, hlt⟩ := hfirst
    exact hnone key hkeyIn _ (.duplicate hk hkey hkeyIn hother hotherIn hlt)
  · refine hnone key hkeyIn fault (.refused hk hkey hin ?_ ((hfk.check v hv fault).1 hcheck))
    intro other hother hotherIn hlt
    exact hfirst ⟨other, hother, hotherIn, hlt⟩

theorem reportsFirst_decode_object (hr : r.IsLenient)
    (hfields : List.Forall₂ Field.FailsBy r.fields keys) (hnames : DistinctNames keys)
    (record : String) {ms : List (String × Json)} (hms : (Json.object ms).IsOrdered) :
    ReportsFirst (KeyFault keys ms) (ms.map (·.1)) (r.decode record (.object ms)) := by
  have hcheck := reportsFirst_checkMembers hfields hnames hms
  rw [← List.append_nil (ms.map _)]
  refine hcheck.bind fun _ hok => .of_ne_error ?_
  exact build_ne_error hr hfields hms (hcheck.not_hasFault_of_ok hok)

/-- The items of a list go to the fields in order, and each field looks at its own. -/
theorem isFirstFault_items_iff {fields : List Field}
    (hfields : List.Forall₂ Field.FailsBy fields keys) {record : String} {size : Nat}
    (before : List Json) {vs : List Json} (hvs : ∀ v ∈ vs, v.IsOrdered) {fault : Fault} :
    IsFirstFault (Source.items record size (before ++ vs)).FieldFault
        (fields.zipIdx before.length) fault ↔
      IsFirstFault (fun e : KnownKey × Json => e.1.refuses e.2) (keys.zip vs) fault := by
  -- The items of earlier fields stay in front, so that positions keep their meaning.
  induction hfields generalizing before vs with
  | nil => simp
  | @cons f k fields keys hfk hfields ih =>
      cases vs with
      | nil =>
          rw [List.zip_nil_right, iff_false_right not_isFirstFault_nil]
          intro hfirst
          obtain ⟨⟨g, j⟩, hmem, v, hvalue, -⟩ := exists_of_isFirstFault hfirst
          have hj : before.length ≤ j := List.le_snd_of_mem_zipIdx hmem
          simp [Source.value?, hj] at hvalue
      | cons v vs =>
          obtain ⟨hv, hrest⟩ := List.forall_mem_cons.1 hvs
          have hfirst : ∀ fault, (Source.items record size (before ++ v :: vs)).FieldFault
              (f, before.length) fault ↔ k.refuses v fault := by
            intro fault
            simp [Source.FieldFault, Source.value?, hfk.check v hv fault]
          have hbehind := ih (before ++ [v]) hrest
          rw [List.append_assoc, List.singleton_append, List.length_append,
            List.length_singleton] at hbehind
          rw [List.zipIdx_cons, List.zip_cons_cons, isFirstFault_cons, isFirstFault_cons, hbehind]
          simp only [hfirst]

theorem reportsFirst_build_items (hr : r.IsLenient)
    (hfields : List.Forall₂ Field.FailsBy r.fields keys) (record : String) (size : Nat)
    {vs : List Json} (hvs : ∀ v ∈ vs, v.IsOrdered) :
    ReportsFirst (fun e : KnownKey × Json => e.1.refuses e.2) (keys.zip vs)
      (r.build (.items record size vs) 0) :=
  fun fault => (hr _ 0 fault).trans (isFirstFault_items_iff hfields [] hvs)

/-- A list of fields fails by the first item that its field refuses, or else by its length. -/
theorem decode_array_eq_error_iff (hr : r.IsLenient)
    (hfields : List.Forall₂ Field.FailsBy r.fields keys) (record : String) {vs : List Json}
    (hvs : ∀ v ∈ vs, v.IsOrdered) {fault : Fault} :
    r.decode record (.array vs) = .error fault ↔
      Refusal.record record keys (.array vs) fault := by
  have hbuild := reportsFirst_build_items hr hfields record r.fields.length hvs
  constructor
  · intro herror
    cases hcase : r.build (.items record r.fields.length vs) 0 with
    | error e =>
        rw [decode, hcase] at herror
        cases herror
        exact .item ((hbuild _).1 hcase)
    | ok a =>
        rw [decode, hcase] at herror
        simp only [Bind.bind, Except.bind] at herror
        split at herror
        · rename_i hlength
          cases herror
          rw [hfields.length_eq] at hlength
          exact .tooMany (hbuild.not_hasFault_of_ok hcase) hlength
        · cases herror
  · rintro (⟨-, harray⟩ | - | hfirst | ⟨hitems, hlength⟩)
    · exact absurd rfl (harray vs)
    · rw [decode, (hbuild fault).2 hfirst]
      rfl
    · obtain ⟨a, ha⟩ := hbuild.exists_ok_iff.2 hitems
      rw [← hfields.length_eq] at hlength
      simp only [decode, ha, if_pos hlength]
      rfl

/-- Records fail by their least faulty key, and lists of their fields by their first refused item.
-/
theorem failsBy_record (hr : r.IsLenient) (hfields : List.Forall₂ Field.FailsBy r.fields keys)
    (hnames : DistinctNames keys) (record : String) :
    Decoder.FailsBy (r.decode record) (.record record keys) := by
  intro v hv fault
  cases v with
  | object ms =>
      rw [reportsFirst_decode_object hr hfields hnames record hv fault]
      constructor
      · exact .key
      · rintro (⟨hobject, -⟩ | hfirst)
        · exact absurd rfl (hobject ms)
        · exact hfirst
  | array vs =>
      cases hv with
      | array hvs => exact decode_array_eq_error_iff hr hfields record hvs
  | null | bool _ | number _ | string _ =>
      constructor
      · intro herror
        cases herror
        exact .notRecord nofun nofun
      · rintro ⟨-⟩
        rfl

end

end RecordDecoder

end Json
end PanelQuery
