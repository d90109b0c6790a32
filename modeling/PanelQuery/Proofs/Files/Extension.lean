import PanelQuery.Files.Tree

/-!
# Files - extensions of trees

One tree extends another one if everything that lies in the other one lies in it at the same place.
Whatever can be read before an extension reads the same after it.  Opening a file to write at its
end extends a tree: it makes a file where nothing lies, and leaves everything that is there alone.

Main results:

- `FileTree.Extends.read`: what can be read in a tree reads the same in its extensions.
- `FileTree.extends_openAtEnd`: opening a file to write at its end is an extension.
-/

namespace PanelQuery
namespace FileTree

/-- A tree has everything that another one has at the same place, and relative paths start from the
same folder. -/
structure Extends (t u : FileTree) : Prop where
  node : ∀ l n, t.node? l = some n → u.node? l = some n
  workingFolder : u.workingFolder = t.workingFolder

variable {t u : FileTree} {path : String} {l : Location} {n : FileNode}

theorem Extends.refl (t : FileTree) : t.Extends t :=
  ⟨fun _ _ h => h, rfl⟩

/-! ## Reading in an extension -/

/-- A walk goes on from a folder only, by a name that is not too long. -/
theorem walk_cons_eq_ok_iff {here : Location} {name : String} {names : List String} :
    t.walk here (name :: names) = .ok l ↔
      t.node? here = some .folder ∧ name.utf8ByteSize ≤ greatestNameSize ∧
        t.walk (if name = "." then here else if name = ".." then here.dropLast else here ++ [name])
          names = .ok l := by
  rw [FileTree.walk]
  split
  · rename_i hnone
    simp [hnone]
  · rename_i hfolder
    by_cases hsize : greatestNameSize < name.utf8ByteSize
    · simp [hsize, Nat.not_le.2 hsize]
    · rw [if_neg hsize]
      simp only [hfolder, Nat.not_lt.1 hsize, true_and]
      split
      · rfl
      · split <;> rfl
  · rename_i hother hnode
    have hne : t.node? here ≠ some .folder := fun hfolder =>
      hother (Option.some.inj (hnode.symm.trans hfolder))
    simp [hne]

/-- A walk that arrives also arrives in an extension: it only goes through folders, and they are all
there. -/
theorem Extends.walk (h : t.Extends u) {here : Location} {names : List String}
    (hwalk : t.walk here names = .ok l) : u.walk here names = .ok l := by
  induction names generalizing here with
  | nil => exact hwalk
  | cons name names ih =>
      obtain ⟨hfolder, hsize, hrest⟩ := walk_cons_eq_ok_iff.1 hwalk
      exact walk_cons_eq_ok_iff.2 ⟨h.node _ _ hfolder, hsize, ih hrest⟩

theorem Extends.locate (h : t.Extends u) (hlocate : t.locate path = .ok l) :
    u.locate path = .ok l := by
  by_cases hempty : path = ""
  · simp [FileTree.locate, hempty] at hlocate
  · have horigin : u.origin (.ofString path) = t.origin (.ofString path) := by
      simp only [origin, h.workingFolder]
    simp only [FileTree.locate, if_neg hempty] at hlocate ⊢
    rw [horigin]
    exact h.walk hlocate

/-- What can be read in a tree reads the same in its extensions. -/
theorem Extends.read (h : t.Extends u) {text : String} (hread : t.read path = .ok text) :
    u.read path = .ok text := by
  cases hlocate : t.locate path with
  | error fault => simp [FileTree.read, hlocate] at hread
  | ok l =>
      cases hnode : t.node? l with
      | none => simp [FileTree.read, hlocate, hnode] at hread
      | some n =>
          rw [← hread, FileTree.read, FileTree.read, hlocate, h.locate hlocate]
          simp only [hnode, h.node _ _ hnode]

/-! ## Putting something into a tree -/

theorem lookup_filter_ne {l' : Location} (h : l' ≠ l) (nodes : List (Location × FileNode)) :
    (nodes.filter fun m => m.1 != l).lookup l' = nodes.lookup l' := by
  induction nodes with
  | nil => rfl
  | cons m nodes ih =>
      obtain ⟨k, node⟩ := m
      by_cases hk : k = l
      · have hne : (l' == k) = false := by simp [hk, h]
        rw [List.filter_cons_of_neg (by simp [hk]), ih, List.lookup_cons, hne]
      · rw [List.filter_cons_of_pos (by simp [hk]), List.lookup_cons, List.lookup_cons, ih]

/-- A folder above something stays one, whatever is put anywhere. -/
theorem any_isPrefixOf_place {l' : Location} (h : t.nodes.any (fun m => l'.isPrefixOf m.1) = true) :
    (t.place l n).nodes.any (fun m => l'.isPrefixOf m.1) = true := by
  obtain ⟨m, hm, hbelow⟩ := List.any_eq_true.1 h
  by_cases hl : m.1 = l
  · exact List.any_eq_true.2 ⟨(l, n), List.mem_cons_self, hl ▸ hbelow⟩
  · have hkept : m ∈ t.nodes.filter fun m => m.1 != l := List.mem_filter.2 ⟨hm, by simp [hl]⟩
    exact List.any_eq_true.2 ⟨m, List.mem_cons_of_mem _ hkept, hbelow⟩

/-- What lies at a location stays there when something is put at another one. -/
theorem node?_place_of_ne {l' : Location} {m : FileNode} (h : l' ≠ l) (hm : t.node? l' = some m) :
    (t.place l n).node? l' = some m := by
  by_cases hroot : l' = []
  · rw [node?, if_pos hroot] at hm ⊢
    exact hm
  · have hne : (l' == l) = false := by simp [h]
    have hlookup : (t.place l n).nodes.lookup l' = t.nodes.lookup l' := by
      rw [place, List.lookup_cons, hne]
      exact lookup_filter_ne h t.nodes
    rw [node?, if_neg hroot] at hm ⊢
    rw [hlookup]
    cases hfound : t.nodes.lookup l' with
    | some node => simpa [hfound] using hm
    | none =>
        simp only [hfound] at hm ⊢
        split at hm
        · rename_i habove
          rw [if_pos (any_isPrefixOf_place habove)]
          exact hm
        · cases hm

/-- A tree is extended by putting something where nothing lies, or where the same thing lies. -/
theorem extends_place (hroot : l ≠ []) (hl : ∀ m, t.node? l = some m → m = n) :
    t.Extends (t.place l n) where
  workingFolder := rfl
  node l' m hm := by
    by_cases hsame : l' = l
    · subst hsame
      rw [node?_place t n hroot, hl m hm]
    · exact node?_place_of_ne hsame hm

/-- Opening a file to write at its end makes a file where nothing lies, and nothing else. -/
theorem extends_openAtEnd (h : t.openAtEnd path = .ok u) : t.Extends u := by
  unfold openAtEnd change at h
  split at h
  · cases h
  · rename_i l hlocate
    split at h
    · cases h
    · cases h
    · rename_i node hfolder hclosed
      cases h
      have hroot : l ≠ [] := by
        rintro rfl
        exact hfolder (by simp [node?])
      refine extends_place hroot fun m hm => ?_
      simp [hm]

end FileTree
end PanelQuery
