import Mathlib.Data.List.Forall2
import PanelQuery.Proofs.Json.Decoder

/-!
# Json - what decoders read

Which value stands for what is described apart from the decoders, type by type.  A field of a record
has what stands under one of its names or at its place, and else the value that it has by default.

Main results:

- `Decoder.Reads.list`: a list is read item by item.
- `RecordDecoder.BuildsFrom.seq`: a record is put together from the fields that are read.
-/

namespace PanelQuery
namespace Json

/-- What the values of a type stand for. -/
abbrev Reading (α : Type) := Json → α → Prop

variable {α β : Type}

namespace Reading

/-- A string stands for itself. -/
def text : Reading String :=
  fun v s => v = .string s

/-- A truth value stands for itself. -/
def boolean : Reading Bool :=
  fun v b => v = .bool b

/-- Every value stands for itself. -/
def any : Reading Json :=
  fun v w => v = w

/-- Null stands for nothing, and any other value for what it stands for otherwise. -/
inductive nullable (R : Reading α) : Json → Option α → Prop
  | null : nullable R .null none
  | given {v : Json} {a : α} (hnull : v ≠ .null) (ha : R v a) : nullable R v (some a)

/-- A list stands for the list of what its items stand for. -/
inductive list (R : Reading α) : Json → List α → Prop
  | items {vs : List Json} {as : List α} (h : List.Forall₂ R vs as) : list R (.array vs) as

end Reading

/-- What a decoder gives is what the value stands for. -/
def Decoder.Reads (decode : Decoder α) (R : Reading α) : Prop :=
  ∀ v a, decode v = .ok a → R v a

namespace Decoder

variable {decode : Decoder α} {R : Reading α}

theorem reads_text : Reads text .text := by
  intro v s h
  cases v with
  | string t =>
      cases h
      rfl
  | null | bool _ | number _ | array _ | object _ => cases h

theorem reads_boolean : Reads boolean .boolean := by
  intro v b h
  cases v with
  | bool c =>
      cases h
      rfl
  | null | string _ | number _ | array _ | object _ => cases h

theorem reads_any : Reads any .any := by
  intro v w h
  cases h
  rfl

theorem Reads.nullable (h : Reads decode R) : Reads (nullable decode) (.nullable R) := by
  intro v a ha
  by_cases hnull : v = .null
  · subst hnull
    cases ha
    exact .null
  · rw [nullable_of_ne_null hnull] at ha
    cases hdecode : decode v with
    | error e =>
        rw [hdecode] at ha
        cases ha
    | ok b =>
        rw [hdecode] at ha
        cases ha
        exact .given hnull (h v b hdecode)

theorem forall₂_of_items (h : Reads decode R) {vs : List Json} {as : List α}
    (hitems : items decode vs = .ok as) : List.Forall₂ R vs as := by
  induction vs generalizing as with
  | nil =>
      cases hitems
      exact .nil
  | cons v vs ih =>
      simp only [items, bind_eq_ok_iff, pure_eq_ok_iff] at hitems
      obtain ⟨a, ha, rest, hrest, rfl⟩ := hitems
      exact .cons (h v a ha) (ih hrest)

/-- A list is read item by item. -/
theorem Reads.list (h : Reads decode R) : Reads (list decode) (.list R) := by
  intro v as hlist
  cases v with
  | array vs => exact .items (forall₂_of_items h hlist)
  | null | bool _ | number _ | string _ | object _ => cases hlist

end Decoder

/-! ## Fields -/

/-- What a field has by an object: what stands under one of its names, or a default if nothing
does. -/
inductive MemberStates (ms : List (String × Json)) (names : List String) (R : Reading α)
    (default : α) : α → Prop
  | given {key : String} {v : Json} {a : α} (hkey : key ∈ names) (hin : (key, v) ∈ ms)
      (ha : R v a) : MemberStates ms names R default a
  | missing (h : ∀ key ∈ names, key ∉ ms.map (·.1)) : MemberStates ms names R default default

/-- What a field has by a list: what stands at its place, or a default if the list ends before. -/
inductive ItemStates (vs : List Json) (position : Nat) (R : Reading α) (default : α) : α → Prop
  | given {v : Json} {a : α} (hv : vs[position]? = some v) (ha : R v a) :
      ItemStates vs position R default a
  | missing (h : vs.length ≤ position) : ItemStates vs position R default default

namespace RecordDecoder

variable {s : Source} {i : Nat}

/-- What is built from a source, with the first field at a position, satisfies a condition. -/
def BuildsFrom (s : Source) (i : Nat) (r : RecordDecoder α) (P : α → Prop) : Prop :=
  ∀ a, r.build s i = .ok a → P a

theorem buildsFrom_pure {a : α} {P : α → Prop} (h : P a) : BuildsFrom s i (pure a) P := by
  intro b hb
  cases hb
  exact h

/-- A record is put together from what its fields satisfy. -/
theorem BuildsFrom.seq {r : RecordDecoder (α → β)} {x : RecordDecoder α} {P : β → Prop}
    {Q : α → Prop} (hr : BuildsFrom s i r fun g => ∀ a, Q a → P (g a))
    (hx : BuildsFrom s (i + r.fields.length) x Q) : BuildsFrom s i (r <*> x) P := by
  intro b hb
  obtain ⟨g, hg, a, ha, rfl⟩ := build_seq_eq_ok_iff.1 hb
  exact hr g hg a (hx a ha)

variable {decode : Decoder α} {R : Reading α} {name : String} {alternative : Option String}
  {default : α}

/-- A field of an object is read from under its names. -/
theorem buildsFrom_members (h : decode.Reads R) {ms : List (String × Json)} :
    BuildsFrom (.members ms) i (defaulted name decode default alternative)
      (MemberStates ms (name :: alternative.toList) R default) := by
  intro a ha
  cases hvalue : (Source.members ms).value? i name alternative with
  | some v =>
      obtain ⟨key, hkey, hin⟩ := exists_mem_of_value? hvalue
      have hdecode : decode v = .ok a := by simpa [defaulted, hvalue] using ha
      exact .given hkey hin (h v a hdecode)
  | none =>
      obtain rfl : default = a := by simpa [defaulted, hvalue] using ha
      exact .missing (not_mem_keys_of_value?_eq_none hvalue)

/-- A field of a list is read from its place. -/
theorem buildsFrom_items (h : decode.Reads R) {record : String} {size : Nat} {vs : List Json} :
    BuildsFrom (.items record size vs) i (defaulted name decode default alternative)
      (ItemStates vs i R default) := by
  intro a ha
  cases hvalue : vs[i]? with
  | some v =>
      have hdecode : decode v = .ok a := by simpa [defaulted, Source.value?, hvalue] using ha
      exact .given hvalue (h v a hdecode)
  | none =>
      obtain rfl : default = a := by simpa [defaulted, Source.value?, hvalue] using ha
      exact .missing (List.getElem?_eq_none_iff.1 hvalue)

end RecordDecoder

end Json
end PanelQuery
