import Mathlib.Data.List.Forall2

/-!
# Lists - correspondence

A traversal that can fail takes a list to one that corresponds to it entry by entry.

Main results:

- `forall₂_zipIdx_iff`: what it means to correspond by a relation that knows the position.
- `exists_forall₂_iff`: when there is a corresponding list.
-/

namespace PanelQuery

variable {α β : Type}

/-- Two lists correspond, by a relation that knows the position, if they are of one length and the
entries at each position do. -/
theorem forall₂_zipIdx_iff {R : α × Nat → β → Prop} {entries : List α} {records : List β} :
    List.Forall₂ R entries.zipIdx records ↔
      records.length = entries.length ∧
        ∀ i a b, entries[i]? = some a → records[i]? = some b → R (a, i) b := by
  rw [List.forall₂_iff_get]
  constructor
  · rintro ⟨hlength, hentries⟩
    rw [List.length_zipIdx] at hlength
    refine ⟨hlength.symm, ?_⟩
    intro i a b ha hb
    obtain ⟨hi, rfl⟩ := List.getElem?_eq_some_iff.1 ha
    obtain ⟨hi', rfl⟩ := List.getElem?_eq_some_iff.1 hb
    simpa using hentries i (by simpa using hi) hi'
  · rintro ⟨hlength, hentries⟩
    refine ⟨by simp [hlength], ?_⟩
    intro i hi hi'
    have hlt : i < entries.length := by simpa using hi
    have hR := hentries i entries[i] records[i] (List.getElem?_eq_getElem hlt)
      (List.getElem?_eq_getElem hi')
    simpa using hR

/-- There is a list that corresponds to another one if something corresponds to each entry. -/
theorem exists_forall₂_iff {R : α → β → Prop} {entries : List α} :
    (∃ records, List.Forall₂ R entries records) ↔ ∀ a ∈ entries, ∃ b, R a b := by
  induction entries with
  | nil => simp
  | cons a entries ih =>
      rw [List.forall_mem_cons, ← ih]
      constructor
      · rintro ⟨records, h⟩
        obtain ⟨b, rest, hb, hrest, -⟩ := List.forall₂_cons_left_iff.1 h
        exact ⟨⟨b, hb⟩, rest, hrest⟩
      · rintro ⟨⟨b, hb⟩, rest, hrest⟩
        exact ⟨b :: rest, .cons hb hrest⟩

/-- Whatever stands in one of two corresponding lists has something that corresponds to it. -/
theorem exists_left_of_forall₂ {R : α → β → Prop} {entries : List α} {records : List β}
    (h : List.Forall₂ R entries records) {b : β} (hb : b ∈ records) : ∃ a ∈ entries, R a b := by
  induction h with
  | nil => cases hb
  | cons hab _ ih =>
      rcases List.mem_cons.1 hb with rfl | hmem
      · exact ⟨_, List.mem_cons_self, hab⟩
      · obtain ⟨a, ha, hR⟩ := ih hmem
        exact ⟨a, List.mem_cons_of_mem _ ha, hR⟩

theorem exists_right_of_forall₂ {R : α → β → Prop} {entries : List α} {records : List β}
    (h : List.Forall₂ R entries records) {a : α} (ha : a ∈ entries) : ∃ b ∈ records, R a b :=
  exists_left_of_forall₂ h.flip ha

/-- Only for the entries of two lists it matters which entries correspond. -/
theorem forall₂_iff_of_mem {R S : α → β → Prop} {entries : List α} {records : List β}
    (h : ∀ a ∈ entries, ∀ b ∈ records, (R a b ↔ S a b)) :
    List.Forall₂ R entries records ↔ List.Forall₂ S entries records := by
  rw [List.forall₂_iff_zip, List.forall₂_iff_zip]
  refine and_congr_right fun _ => forall₂_congr fun a b => ?_
  refine forall_congr' fun hmem => ?_
  obtain ⟨ha, hb⟩ := List.of_mem_zip hmem
  exact h a ha b hb

end PanelQuery
