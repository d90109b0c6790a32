import Mathlib.Data.List.Nodup
import Mathlib.Data.List.Pairwise
import Mathlib.Data.List.Perm.Basic
import Mathlib.Data.String.Basic
import PanelQuery.KeyTable

/-!
# Tables by key - entries and order

Which entries a table has, and in which order it holds them.

Main results:

- `find?_of_mem`: under distinct keys every entry is found.
- `mem_keys_ofList_iff`: the table of some entries has exactly their keys.
- `isOrdered_ofList`: the table of some entries holds them in the order of their keys.
- `eq_ofList_iff`: the table of some entries is the only one in order that has for every key what
  the last entry for it has.
-/

namespace PanelQuery
namespace KeyTable

variable {α : Type}

/-! ## Entries -/

theorem mem_of_find? {key : String} {value : α} {table : KeyTable α}
    (h : find? key table = some value) : (key, value) ∈ table := by
  induction table with
  | nil => simp [find?] at h
  | cons e table ih =>
      obtain ⟨k, v⟩ := e
      by_cases hk : k = key
      · obtain rfl : v = value := by simpa [find?, hk] using h
        simp [hk]
      · exact List.mem_cons_of_mem _ (ih (by simpa [find?, hk] using h))

/-- Under distinct keys every entry is found. -/
theorem find?_of_mem {key : String} {value : α} {table : KeyTable α}
    (hkeys : (table.map (·.1)).Nodup) (h : (key, value) ∈ table) :
    find? key table = some value := by
  induction table with
  | nil => simp at h
  | cons e table ih =>
      obtain ⟨k, v⟩ := e
      rw [List.map_cons, List.nodup_cons] at hkeys
      rcases List.mem_cons.1 h with heq | hmem
      · obtain ⟨rfl, rfl⟩ := Prod.mk.inj heq
        simp [find?]
      · have hne : k ≠ key := fun hk => hkeys.1 (hk ▸ List.mem_map_of_mem (f := (·.1)) hmem)
        rw [find?, if_neg hne, ih hkeys.2 hmem]

theorem find?_append (key : String) (table table' : KeyTable α) :
    find? key (table ++ table') = (find? key table).or (find? key table') := by
  induction table with
  | nil => rfl
  | cons e table ih =>
      obtain ⟨k, v⟩ := e
      by_cases hk : k = key
      · simp [find?, hk]
      · simp [find?, hk, ih]

theorem isSome_find?_iff {table : KeyTable α} {key : String} :
    (find? key table).isSome ↔ key ∈ table.map (·.1) := by
  induction table with
  | nil => simp [find?]
  | cons e table ih =>
      obtain ⟨k, v⟩ := e
      by_cases hk : k = key
      · simp [find?, hk]
      · rw [find?, if_neg hk, ih]
        simp [Ne.symm hk]

/-- The table of some entries has exactly their keys. -/
theorem mem_keys_ofList_iff {entries : List (String × α)} {key : String} :
    key ∈ (ofList entries).map (·.1) ↔ key ∈ entries.map (·.1) := by
  rw [← isSome_find?_iff, find?_ofList, Option.isSome_map, List.find?_isSome]
  simp [List.mem_map]

/-! ## Order -/

/-- A table that holds its entries in the order of their keys, one entry for each key. -/
def IsOrdered (table : KeyTable α) : Prop :=
  (table.map (·.1)).Pairwise (· < ·)

theorem IsOrdered.nodup_keys {table : KeyTable α} (h : table.IsOrdered) :
    (table.map (·.1)).Nodup :=
  h.imp ne_of_lt

theorem mem_of_mem_insert {key : String} {value : α} {e : String × α} {table : KeyTable α}
    (h : e ∈ insert key value table) : e = (key, value) ∨ e ∈ table := by
  induction table with
  | nil => exact .inl (List.mem_singleton.1 h)
  | cons f table ih =>
      obtain ⟨k, v⟩ := f
      unfold insert at h
      split at h
      · exact (List.mem_cons.1 h).imp_right (List.mem_cons_of_mem _)
      · split at h
        · exact List.mem_cons.1 h
        · rcases List.mem_cons.1 h with rfl | hmem
          · exact .inr List.mem_cons_self
          · exact (ih hmem).imp_right (List.mem_cons_of_mem _)

theorem IsOrdered.insert {table : KeyTable α} (h : table.IsOrdered) (key : String) (value : α) :
    (table.insert key value).IsOrdered := by
  induction table with
  | nil => exact List.pairwise_singleton _ _
  | cons e table ih =>
      obtain ⟨k, v⟩ := e
      obtain ⟨hbehind, htable⟩ := List.pairwise_cons.1 h
      unfold KeyTable.insert
      split
      · rename_i heq
        subst heq
        exact h
      · rename_i hne
        split
        · rename_i hlt
          refine List.pairwise_cons.2 ⟨fun l hl => ?_, h⟩
          rcases List.mem_cons.1 hl with rfl | hmem
          · exact hlt
          · exact hlt.trans (hbehind l hmem)
        · rename_i hnot
          refine List.pairwise_cons.2 ⟨fun l hl => ?_, ih htable⟩
          obtain ⟨e, he, rfl⟩ := List.mem_map.1 hl
          rcases mem_of_mem_insert he with rfl | hmem
          · exact lt_of_le_of_ne (not_lt.1 hnot) (Ne.symm hne)
          · exact hbehind e.1 (List.mem_map_of_mem hmem)

theorem IsOrdered.foldl_insert (entries : List (String × α)) {table : KeyTable α}
    (h : table.IsOrdered) :
    (entries.foldl (fun table e => table.insert e.1 e.2) table).IsOrdered := by
  induction entries generalizing table with
  | nil => exact h
  | cons e entries ih => exact ih (h.insert e.1 e.2)

/-- The table of some entries holds them in the order of their keys. -/
theorem isOrdered_ofList (entries : List (String × α)) : (ofList entries).IsOrdered :=
  IsOrdered.foldl_insert entries List.Pairwise.nil

theorem mem_of_mem_foldl_insert {e : String × α} {entries : List (String × α)} {table : KeyTable α}
    (h : e ∈ entries.foldl (fun table e => insert e.1 e.2 table) table) :
    e ∈ entries ∨ e ∈ table := by
  induction entries generalizing table with
  | nil => exact .inr h
  | cons f entries ih =>
      rcases ih h with hin | hin
      · exact .inl (List.mem_cons_of_mem f hin)
      · rcases mem_of_mem_insert hin with rfl | htable
        · exact .inl List.mem_cons_self
        · exact .inr htable

theorem mem_of_mem_ofList {e : String × α} {entries : List (String × α)}
    (h : e ∈ ofList entries) : e ∈ entries :=
  (mem_of_mem_foldl_insert h).resolve_right List.not_mem_nil

/-! ## Chosen keys -/

/-- Under a chosen key the chosen entries have what all of them have. -/
theorem find?_filter {p : String → Bool} {key : String} (h : p key = true) (table : KeyTable α) :
    find? key (table.filter fun e => p e.1) = find? key table := by
  induction table with
  | nil => rfl
  | cons e table ih =>
      obtain ⟨k, v⟩ := e
      by_cases hk : k = key
      · subst hk
        simp [find?, h]
      · cases hp : p k with
        | true => simp [find?, hp, hk, ih]
        | false => simp [find?, hp, hk, ih]

/-- Among the chosen entries it does not show whether an entry that is not chosen was put in. -/
theorem filter_insert {p : String → Bool} {key : String} (h : p key = false) (value : α)
    (table : KeyTable α) :
    (table.insert key value).filter (fun e => p e.1) = table.filter fun e => p e.1 := by
  induction table with
  | nil => simp [insert, h]
  | cons e table ih =>
      obtain ⟨k, v⟩ := e
      unfold insert
      split
      · rename_i heq
        subst heq
        simp [h]
      · split
        · simp [List.filter_cons, h]
        · simp [List.filter_cons, ih]

/-! ## The table of some entries -/

/-- Entries with one key each are those of their table. -/
theorem perm_ofList {entries : List (String × α)} (h : (entries.map (·.1)).Nodup) :
    (ofList entries).Perm entries := by
  have hkeys := (isOrdered_ofList entries).nodup_keys
  rw [List.perm_ext_iff_of_nodup hkeys.of_map h.of_map]
  rintro ⟨key, value⟩
  refine ⟨mem_of_mem_ofList, fun hin => ?_⟩
  obtain ⟨⟨k, v⟩, hmem, rfl⟩ := List.mem_map.1
    (mem_keys_ofList_iff.2 (List.mem_map_of_mem (f := (·.1)) hin))
  obtain rfl : v = value := by
    have hfound := find?_of_mem h (mem_of_mem_ofList hmem)
    rwa [find?_of_mem h hin, Option.some.injEq, eq_comm] at hfound
  exact hmem

/-- An entry is the last one for its key. -/
def IsLast (entries : List (String × α)) (key : String) (value : α) : Prop :=
  ∃ before behind, entries = before ++ (key, value) :: behind ∧ ∀ e ∈ behind, e.1 ≠ key

/-- The table of some entries has for every key what the last entry for it has. -/
theorem mem_ofList_iff {entries : List (String × α)} {key : String} {value : α} :
    (key, value) ∈ ofList entries ↔ IsLast entries key value := by
  have hfind : (key, value) ∈ ofList entries ↔ find? key (ofList entries) = some value :=
    ⟨find?_of_mem (isOrdered_ofList entries).nodup_keys, mem_of_find?⟩
  rw [hfind, find?_ofList, Option.map_eq_some_iff]
  constructor
  · rintro ⟨⟨k, v⟩, hlast, rfl⟩
    obtain ⟨hk, before, behind, hsplit, hbefore⟩ := List.find?_eq_some_iff_append.1 hlast
    obtain rfl : k = key := by simpa using hk
    refine ⟨behind.reverse, before.reverse, ?_, ?_⟩
    · rw [← List.reverse_inj, hsplit]
      simp
    · simpa using hbefore
  · rintro ⟨before, behind, rfl, hbehind⟩
    refine ⟨(key, value), List.find?_eq_some_iff_append.2 ⟨by simp, behind.reverse,
      before.reverse, by simp, ?_⟩, rfl⟩
    simpa using hbehind

/-- Tables in order are one table if they have the same entries. -/
theorem IsOrdered.eq_of_mem_iff {table table' : KeyTable α} (h : table.IsOrdered)
    (h' : table'.IsOrdered) (hmem : ∀ e, e ∈ table ↔ e ∈ table') : table = table' := by
  have hperm : table.Perm table' :=
    (List.perm_ext_iff_of_nodup h.nodup_keys.of_map h'.nodup_keys.of_map).2 hmem
  have hpairwise : table.Pairwise fun e e' => e.1 < e'.1 := List.pairwise_map.1 h
  have hpairwise' : table'.Pairwise fun e e' => e.1 < e'.1 := List.pairwise_map.1 h'
  exact hperm.eq_of_pairwise (fun _ _ _ _ hlt hgt => absurd hgt (lt_asymm hlt)) hpairwise
    hpairwise'

/-- The table of some entries is the only one in order that has for every key what the last entry
for it has. -/
theorem eq_ofList_iff {entries : List (String × α)} {table : KeyTable α} :
    table = ofList entries ↔
      table.IsOrdered ∧ ∀ key value, (key, value) ∈ table ↔ IsLast entries key value := by
  constructor
  · rintro rfl
    exact ⟨isOrdered_ofList entries, fun _ _ => mem_ofList_iff⟩
  · rintro ⟨hordered, hmem⟩
    refine hordered.eq_of_mem_iff (isOrdered_ofList entries) ?_
    rintro ⟨key, value⟩
    rw [hmem, mem_ofList_iff]

end KeyTable
end PanelQuery
