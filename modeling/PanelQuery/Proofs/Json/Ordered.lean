import PanelQuery.Json.Reader
import PanelQuery.Proofs.KeyTable

/-!
# Json - values in order

A list of members can be kept in any order, and with several members for a key.  A value that was
read never is: its objects are tables, with the members in the order of their keys and one for each
key.

Main results:

- `isOrdered_of_parse?`: every value that was read is in order.
-/

namespace PanelQuery

namespace Json

/-- Every object in a value is a table in the order of its keys. -/
inductive IsOrdered : Json → Prop
  | null : IsOrdered .null
  | bool (b : Bool) : IsOrdered (.bool b)
  | number (n : Number) : IsOrdered (.number n)
  | string (s : String) : IsOrdered (.string s)
  | array {items : List Json} (hitems : ∀ v ∈ items, IsOrdered v) : IsOrdered (.array items)
  | object {members : List (String × Json)} (hkeys : KeyTable.IsOrdered members)
      (hmembers : ∀ m ∈ members, IsOrdered m.2) : IsOrdered (.object members)

theorem isOrdered_object_iff {members : List (String × Json)} :
    (object members).IsOrdered ↔ KeyTable.IsOrdered members ∧ ∀ m ∈ members, m.2.IsOrdered := by
  constructor
  · intro h
    cases h with
    | object hkeys hmembers => exact ⟨hkeys, hmembers⟩
  · rintro ⟨hkeys, hmembers⟩
    exact .object hkeys hmembers

theorem isOrdered_ofText? (text : Option String) : (ofText? text).IsOrdered := by
  cases text with
  | none => exact .null
  | some s => exact .string s

namespace Draft

mutual

theorem isOrdered_of_toJson? {depth : Nat} {d : Draft} {v : Json} (h : d.toJson? depth = some v) :
    v.IsOrdered := by
  cases d with
  | null =>
      cases h
      exact .null
  | bool b =>
      cases h
      exact .bool b
  | number n =>
      obtain ⟨n, -, rfl⟩ := Option.map_eq_some_iff.1 h
      exact .number n
  | string s =>
      obtain ⟨s, -, rfl⟩ := Option.map_eq_some_iff.1 h
      exact .string s
  | array items =>
      cases depth with
      | zero => cases h
      | succ depth =>
          obtain ⟨vs, hvs, rfl⟩ := Option.map_eq_some_iff.1 h
          exact .array (isOrdered_of_itemsToJson? hvs)
  | object members =>
      cases depth with
      | zero => cases h
      | succ depth =>
          obtain ⟨ms, hms, rfl⟩ := Option.map_eq_some_iff.1 h
          exact .object (KeyTable.isOrdered_ofList ms) fun m hm =>
            isOrdered_of_membersToJson? hms m (KeyTable.mem_of_mem_ofList hm)

theorem isOrdered_of_itemsToJson? {depth : Nat} {ds : List Draft} {vs : List Json}
    (h : itemsToJson? depth ds = some vs) : ∀ v ∈ vs, v.IsOrdered := by
  cases ds with
  | nil =>
      cases h
      simp
  | cons d ds =>
      unfold itemsToJson? at h
      split at h
      · rename_i hv hvs
        cases h
        intro w hw
        rcases List.mem_cons.1 hw with rfl | hmem
        · exact isOrdered_of_toJson? hv
        · exact isOrdered_of_itemsToJson? hvs w hmem
      · cases h

theorem isOrdered_of_membersToJson? {depth : Nat} {ds : List (Option String × Draft)}
    {ms : List (String × Json)} (h : membersToJson? depth ds = some ms) :
    ∀ m ∈ ms, m.2.IsOrdered := by
  cases ds with
  | nil =>
      cases h
      simp
  | cons d ds =>
      obtain ⟨key, d⟩ := d
      unfold membersToJson? at h
      split at h
      · rename_i hv hms
        cases h
        intro n hn
        rcases List.mem_cons.1 hn with rfl | hmem
        · exact isOrdered_of_toJson? hv
        · exact isOrdered_of_membersToJson? hms n hmem
      · cases h

end

end Draft

/-- Every value that was read is in order. -/
theorem isOrdered_of_parse? {text : String} {v : Json} (h : parse? text = some v) :
    v.IsOrdered := by
  obtain ⟨d, -, hd⟩ := Option.bind_eq_some_iff.1 h
  exact Draft.isOrdered_of_toJson? hd

end Json
end PanelQuery
