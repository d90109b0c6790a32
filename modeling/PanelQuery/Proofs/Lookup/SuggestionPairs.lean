import Mathlib.Data.List.Basic
import PanelQuery.Lookup.Suggestion

/-!
# Lookups - pairs of text and value

Every item that the service finds becomes a pair of a text and a value, by itself and by its place
only.  Written as an object, a pair is an item again; whether it comes back as it is depends on
whether its two halves count as something, and the place of the first item does not.

Main results:

- `Suggestion.ofItem_eq_iff`: which pair an item becomes.
- `Suggestion.ofItem_toJson_eq_iff`: which pairs come back from their objects.
- `Suggestion.ofData_positional_and_stable`: what becomes of a list, and when it is stable.
-/

namespace PanelQuery
namespace Suggestion

/-! ## Items -/

/-- The scalars that count as nothing. -/
inductive IsVoid : Json → Prop
  | null : IsVoid .null
  | no : IsVoid (.bool false)
  | zero : IsVoid (.number (.integer 0))
  | floatZero {x : Binary64} (h : x.significand = 0) : IsVoid (.number (.float x))
  | noText : IsVoid (.string "")

/-- Lists and objects. -/
inductive IsComposite : Json → Prop
  | array (items : List Json) : IsComposite (.array items)
  | object (members : List (String × Json)) : IsComposite (.object members)

/-- An object brings a suggestion along: a text and a value that both count as something. -/
inductive Brings : Json → Suggestion → Prop
  | object {members : List (String × Json)} {text value : Json}
      (htext : KeyTable.find? "text" members = some text)
      (hvalue : KeyTable.find? "value" members = some value) (hsomeText : ¬ IsVoid text)
      (hsomeValue : ¬ IsVoid value) : Brings (.object members) ⟨text, value⟩

/-- The suggestion that an item at a place becomes: what it brings along, or else itself, with the
place for a value if it is a list or an object. -/
inductive Becomes (index : Nat) : Json → Suggestion → Prop
  | brought {item : Json} {s : Suggestion} (h : Brings item s) : Becomes index item s
  | numbered {item : Json} (hcomposite : IsComposite item) (h : ∀ s, ¬ Brings item s) :
      Becomes index item ⟨item, .ofNat index⟩
  | itself {item : Json} (hscalar : ¬ IsComposite item) : Becomes index item ⟨item, item⟩

theorem isPresent_iff {v : Json} : isPresent v = true ↔ ¬ IsVoid v := by
  constructor
  · rintro h (_ | _ | _ | hzero | _)
    · cases h
    · cases h
    · cases h
    · simp [isPresent, Json.Number.isZero, Binary64.isZero, hzero] at h
    · cases h
  · intro h
    cases v with
    | null => exact absurd .null h
    | bool b => cases b with
      | false => exact absurd .no h
      | true => rfl
    | number n => cases n with
      | integer i =>
          have hi : i ≠ 0 := fun heq => h (heq ▸ .zero)
          simp [isPresent, Json.Number.isZero, hi]
      | float x =>
          have hx : x.significand ≠ 0 := fun heq => h (.floatZero heq)
          simp [isPresent, Json.Number.isZero, Binary64.isZero, hx]
    | string s =>
        have hs : s ≠ "" := fun heq => h (heq ▸ .noText)
        simp [isPresent, hs]
    | array _ => rfl
    | object _ => rfl

theorem not_isVoid_of_isComposite {v : Json} (h : IsComposite v) : ¬ IsVoid v := by
  rintro (_ | _ | _ | _ | _) <;> cases h

theorem isVoid_ofNat_iff {n : Nat} : IsVoid (.ofNat n) ↔ n = 0 := by
  rw [← not_iff_not, ← isPresent_iff]
  simp [isPresent, Json.ofNat, Json.Number.isZero]

theorem Brings.isComposite {item : Json} {s : Suggestion} (h : Brings item s) :
    IsComposite item := by
  cases h with
  | object _ _ _ _ => exact .object _

theorem readyMade?_eq_some_iff {members : List (String × Json)} {s : Suggestion} :
    readyMade? (.object members) = some s ↔ Brings (.object members) s := by
  constructor
  · intro h
    unfold readyMade? at h
    split at h
    · rename_i text value htext hvalue
      split at h
      · rename_i hpresent
        cases h
        rw [Bool.and_eq_true, isPresent_iff, isPresent_iff] at hpresent
        exact .object htext hvalue hpresent.1 hpresent.2
      · cases h
    · cases h
  · rintro ⟨htext, hvalue, hsomeText, hsomeValue⟩
    simp [readyMade?, Json.get?, htext, hvalue, isPresent_iff.2 hsomeText,
      isPresent_iff.2 hsomeValue]

theorem becomes_ofItem (index : Nat) (item : Json) : Becomes index item (ofItem index item) := by
  cases item with
  | object members =>
      cases hready : readyMade? (.object members) with
      | some s =>
          rw [ofItem, hready]
          exact .brought (readyMade?_eq_some_iff.1 hready)
      | none =>
          rw [ofItem, hready]
          refine .numbered (.object members) fun s hs => ?_
          rw [readyMade?_eq_some_iff.2 hs] at hready
          cases hready
  | array items => exact .numbered (.array items) nofun
  | null | bool _ | number _ | string _ => exact .itself nofun

theorem Becomes.unique {index : Nat} {item : Json} {s s' : Suggestion} (h : Becomes index item s)
    (h' : Becomes index item s') : s = s' := by
  cases h with
  | brought h => cases h' with
    | brought h' =>
        cases h with
        | object htext hvalue _ _ => cases h' with
          | object htext' hvalue' _ _ =>
              rw [htext, Option.some.injEq] at htext'
              rw [hvalue, Option.some.injEq] at hvalue'
              rw [htext', hvalue']
    | numbered _ hnone => exact absurd h (hnone s)
    | itself hscalar => exact absurd h.isComposite hscalar
  | numbered hcomposite hnone => cases h' with
    | brought h' => exact absurd h' (hnone s')
    | numbered _ _ => rfl
    | itself hscalar => exact absurd hcomposite hscalar
  | itself hscalar => cases h' with
    | brought h' => exact absurd h'.isComposite hscalar
    | numbered hcomposite _ => exact absurd hcomposite hscalar
    | itself _ => rfl

/-- Which suggestion an item becomes. -/
theorem ofItem_eq_iff {index : Nat} {item : Json} {s : Suggestion} :
    ofItem index item = s ↔ Becomes index item s := by
  constructor
  · rintro rfl
    exact becomes_ofItem index item
  · exact (becomes_ofItem index item).unique

/-! ## Suggestions as items -/

/-- The object of a suggestion is larger than its text. -/
theorem toJson_ne_text (s : Suggestion) : s.toJson ≠ s.text := by
  intro h
  have hsize := congrArg sizeOf h
  simp [toJson] at hsize
  omega

theorem brings_toJson_iff {s s' : Suggestion} :
    Brings s.toJson s' ↔ s' = s ∧ ¬ IsVoid s.text ∧ ¬ IsVoid s.value := by
  constructor
  · intro h
    generalize hitem : s.toJson = item at h
    cases h with
    | object htext hvalue hsomeText hsomeValue =>
        cases hitem
        cases htext
        cases hvalue
        exact ⟨rfl, hsomeText, hsomeValue⟩
  · rintro ⟨rfl, htext, hvalue⟩
    exact .object rfl rfl htext hvalue

/-- A suggestion comes back from its object exactly if its text and its value count as something. -/
theorem ofItem_toJson_eq_iff {index : Nat} {s : Suggestion} :
    ofItem index s.toJson = s ↔ ¬ IsVoid s.text ∧ ¬ IsVoid s.value := by
  constructor
  · intro h
    by_contra hvoid
    have hnone : ∀ s', ¬ Brings s.toJson s' := fun s' hs' => hvoid (brings_toJson_iff.1 hs').2
    have hnumbered : ofItem index s.toJson = ⟨s.toJson, .ofNat index⟩ :=
      ofItem_eq_iff.2 (.numbered (.object _) hnone)
    rw [h] at hnumbered
    exact s.toJson_ne_text (congrArg text hnumbered).symm
  · intro h
    exact ofItem_eq_iff.2 (.brought (brings_toJson_iff.2 ⟨rfl, h⟩))

/-- What an item becomes comes back exactly if the item counts as something and, at the first place,
is no list or object that brings nothing along. -/
theorem ofItem_stable_iff {index : Nat} {item : Json} :
    ofItem index (ofItem index item).toJson = ofItem index item ↔
      ¬ IsVoid item ∧ (index = 0 → IsComposite item → ∃ s, Brings item s) := by
  rw [ofItem_toJson_eq_iff]
  have hbecomes := becomes_ofItem index item
  generalize ofItem index item = s at hbecomes
  cases hbecomes with
  | brought h =>
      have hitem : ¬ IsVoid item := not_isVoid_of_isComposite h.isComposite
      refine iff_of_true ?_ ⟨hitem, fun _ _ => ⟨s, h⟩⟩
      cases h with
      | object _ _ hsomeText hsomeValue => exact ⟨hsomeText, hsomeValue⟩
  | numbered hcomposite hnone =>
      have hitem : ¬ IsVoid item := not_isVoid_of_isComposite hcomposite
      have hnothing : ¬ ∃ s, Brings item s := fun ⟨s, hs⟩ => hnone s hs
      simp only [hitem, hcomposite, hnothing, isVoid_ofNat_iff, not_false_eq_true, true_and,
        not_true_eq_false, imp_false]
  | itself hscalar =>
      simp only [hscalar, false_implies, implies_true, and_true, and_self]

/-! ## Lists of items -/

theorem getElem?_ofData (items : List Json) (i : Nat) :
    (ofData items)[i]? = items[i]?.map (ofItem i) := by
  rw [ofData, List.getElem?_mapIdx]

/-- A list comes back from the objects of its suggestions exactly if every item does so at its
place. -/
theorem ofData_map_toJson_eq_iff {items : List Json} :
    ofData ((ofData items).map toJson) = ofData items ↔
      ∀ i item, items[i]? = some item →
        ofItem i (ofItem i item).toJson = ofItem i item := by
  rw [List.ext_getElem?_iff]
  refine forall_congr' fun i => ?_
  rw [getElem?_ofData, List.getElem?_map, getElem?_ofData]
  cases items[i]? with
  | none => simp
  | some item => simp

/-- Every item becomes one suggestion, by itself and its place.  Writing the suggestions as objects
and reading them as items again changes nothing exactly if no item is a scalar that counts as
nothing, and the first item is no list or object that brings nothing along. -/
theorem ofData_positional_and_stable (items : List Json) :
    (ofData items).length = items.length ∧
    (∀ i s, (ofData items)[i]? = some s ↔ ∃ item, items[i]? = some item ∧ Becomes i item s) ∧
    (ofData ((ofData items).map toJson) = ofData items ↔
      (∀ item ∈ items, ¬ IsVoid item) ∧
        ∀ item ∈ items[0]?, IsComposite item → ∃ s, Brings item s) := by
  refine ⟨length_ofData items, ?_, ?_⟩
  · intro i s
    rw [getElem?_ofData, Option.map_eq_some_iff]
    simp only [ofItem_eq_iff]
  · rw [ofData_map_toJson_eq_iff]
    simp only [ofItem_stable_iff]
    constructor
    · intro h
      refine ⟨?_, fun item hitem => (h 0 item hitem).2 rfl⟩
      intro item hin
      obtain ⟨i, hi⟩ := List.getElem?_of_mem hin
      exact (h i item hi).1
    · rintro ⟨hsome, hfirst⟩ i item hi
      refine ⟨hsome item (List.mem_of_getElem? hi), ?_⟩
      rintro rfl
      exact hfirst item hi

end Suggestion
end PanelQuery
