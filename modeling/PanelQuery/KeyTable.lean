/-!
# Tables by key

Association lists whose entries stand in the order of their keys, one entry for each key.

Main results:

- `find?_insert`: an inserted entry is found, and no other key is touched.
- `find?_ofList`: of several entries for a key, the last one counts.
-/

namespace PanelQuery

/-- Entries by key.  The functions below keep them in the order of the keys. -/
abbrev KeyTable (α : Type) := List (String × α)

namespace KeyTable

variable {α : Type}

/-- The value of a key. -/
def find? (key : String) : KeyTable α → Option α
  | [] => none
  | (k, v) :: rest => if k = key then some v else find? key rest

/-- Put an entry into a table, in place of one with the same key. -/
def insert (key : String) (value : α) : KeyTable α → KeyTable α
  | [] => [(key, value)]
  | (k, v) :: rest =>
    if key = k then (key, value) :: rest
    else if key < k then (key, value) :: (k, v) :: rest
    else (k, v) :: insert key value rest

/-- The table of some entries; of two with one key the later one stays. -/
def ofList (entries : List (String × α)) : KeyTable α :=
  entries.foldl (fun table e => insert e.1 e.2 table) []

/-- An inserted entry is found under its key, and other keys keep their values. -/
theorem find?_insert (key k : String) (value : α) (table : KeyTable α) :
    find? k (insert key value table) = if key = k then some value else find? k table := by
  induction table with
  | nil => simp [insert, find?]
  | cons e rest ih =>
    obtain ⟨k', v'⟩ := e
    unfold insert
    split
    · rename_i h
      subst h
      by_cases hk : key = k <;> simp [find?, hk]
    · rename_i h
      split
      · by_cases hk : key = k <;> simp [find?, hk]
      · by_cases hk : k' = k
        · have hne : key ≠ k := fun e => h (e.trans hk.symm)
          simp [find?, hk, hne]
        · simp [find?, hk, ih]

/-- Of several entries for a key, the last one counts. -/
theorem find?_ofList (entries : List (String × α)) (k : String) :
    find? k (ofList entries) = (entries.reverse.find? fun e => e.1 = k).map (·.2) := by
  have key : ∀ table : KeyTable α,
      find? k (entries.foldl (fun table e => insert e.1 e.2 table) table) =
        ((entries.reverse.find? fun e => e.1 = k).map (·.2)).or (find? k table) := by
    induction entries with
    | nil => simp
    | cons e rest ih =>
      intro table
      rw [List.foldl_cons, ih, find?_insert, List.reverse_cons, List.find?_append]
      cases hr : List.find? (fun e => decide (e.1 = k)) rest.reverse with
      | some v => simp
      | none => by_cases hk : e.1 = k <;> simp [hk]
  simpa [ofList, find?] using key []

end KeyTable
end PanelQuery
