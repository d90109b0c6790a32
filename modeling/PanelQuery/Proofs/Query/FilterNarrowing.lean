import PanelQuery.Proofs.Query.BooleanReading

/-!
# Queries - what filters narrow

Adhoc filters are meant to narrow every group of a where clause.  They are appended behind the
conditions of a group, so they only narrow the last of the alternatives that `or` separates there.

Main results:

- `filtersNarrow_of_and`: filters narrow groups whose conditions are joined by `and` alone.
- `filtersNarrow_iff_alternatives`: the exact condition under which they narrow all groups.
- `not_filtersNarrow_of_or`: one group with an `or` is enough for a filter that narrows nothing.
-/

namespace PanelQuery
namespace Target

open Template WhereClause

/-! ## Where clauses as words -/

/-- The words of a group under filters; every criterion is an atom. -/
def Group.words (filters : List AdhocFilter) (g : Group) : List Word :=
  .opening :: (chainWords ((g.criteria filters).map fun c => (c.connective, [.atom c.write])) ++
    [.closing])

/-- The words of a where clause. -/
def whereWords (filters : List AdhocFilter) (groups : List Group) : List Word :=
  chainWords (groups.map fun g => (g.operator, g.words filters))

theorem Group.writeWords_words (filters : List AdhocFilter) (g : Group) :
    writeWords (g.words filters) = g.write (AdhocFilter.writeAll filters) := by
  rw [Group.words, Group.write_eq_writeChain, writeWords_cons, writeWords_append,
    writeWords_chainWords, List.map_map]
  simp only [Function.comp_def, writeWords_cons, writeWords_nil, Word.write, String.append_empty,
    String.append_assoc]
  rfl

/-- A where clause is the text of its words. -/
theorem whereClause?_eq_writeWords {groups : List Group} (hne : groups ≠ [])
    (filters : List AdhocFilter) :
    whereClause? (AdhocFilter.writeAll filters) groups =
      some (writeWords (whereWords filters groups)) := by
  obtain ⟨g, groups, rfl⟩ := List.exists_cons_of_ne_nil hne
  rw [whereClause?_cons, whereWords, writeWords_chainWords, List.map_map]
  simp only [Function.comp_def, Group.writeWords_words]
  rfl

/-- Under a filter every group can be read, and so can the clause. -/
theorem exists_reads_whereWords {filters : List AdhocFilter} {groups : List Group}
    (hfilters : filters ≠ []) (hne : groups ≠ []) :
    ∃ e, Reads .disjunction (whereWords filters groups) e := by
  apply reads_chainWords (by simpa using hne)
  intro p hp
  obtain ⟨g, -, rfl⟩ := List.mem_map.1 hp
  have hcriteria : g.criteria filters ≠ [] := by
    simp [Group.criteria, hfilters]
  have hbody : ∃ e, Reads .disjunction (chainWords ((g.criteria filters).map fun c =>
      (c.connective, [.atom c.write]))) e := by
    apply reads_chainWords (by simpa using hcriteria)
    intro p hp
    obtain ⟨c, -, rfl⟩ := List.mem_map.1 hp
    exact ⟨_, .atom c.write⟩
  obtain ⟨e, he⟩ := hbody
  exact ⟨e, he.parentheses⟩

/-! ## Truth of a clause -/

/-- Whether a group is true under filters. -/
def Group.holds (v : String → Bool) (filters : List AdhocFilter) (g : Group) : Bool :=
  (alternatives Criterion.connective (g.criteria filters)).any (·.all fun c => v c.write)

theorem Group.narrows_words (v : String → Bool) (filters : List AdhocFilter) (g : Group) :
    Narrows v (g.words filters) (g.holds v filters) :=
  (settles_chainWords Criterion.connective (g.criteria filters)
    fun c _ => narrows_atom c.write).narrows_parentheses

theorem settles_whereWords (v : String → Bool) (filters : List AdhocFilter)
    (groups : List Group) :
    Settles v (whereWords filters groups)
      ((alternatives Group.operator groups).any (·.all (Group.holds v filters))) :=
  settles_chainWords Group.operator groups fun g _ => g.narrows_words v filters

/-! ## Filters among the alternatives -/

section

variable {α β : Type} {connective : α → Connective}

theorem alternativesAfter_ne_nil (latest items : List α) :
    alternativesAfter connective latest items ≠ [] := by
  induction items generalizing latest with
  | nil => simp [alternativesAfter]
  | cons a items ih =>
      rw [alternativesAfter]
      cases connective a with
      | and => exact ih _
      | or => simp

theorem alternativesAfter_of_and {more : List α} (h : ∀ a ∈ more, connective a = .and)
    (latest : List α) : alternativesAfter connective latest more = [latest ++ more] := by
  induction more generalizing latest with
  | nil => simp [alternativesAfter]
  | cons a more ih =>
      rw [alternativesAfter, h a List.mem_cons_self,
        ih fun b hb => h b (List.mem_cons_of_mem a hb)]
      simp

theorem flatten_alternativesAfter (latest items : List α) :
    (alternativesAfter connective latest items).flatten = latest ++ items := by
  induction items generalizing latest with
  | nil => simp [alternativesAfter]
  | cons a items ih =>
      rw [alternativesAfter]
      cases connective a with
      | and => simp [ih]
      | or => simp [ih]

/-- The alternatives in a row are the chain. -/
theorem flatten_alternatives (items : List α) :
    (alternatives connective items).flatten = items := by
  cases items with
  | nil => rfl
  | cons a items => exact flatten_alternativesAfter [a] items

theorem ne_nil_of_mem_alternativesAfter {latest items alternative : List α} (hne : latest ≠ [])
    (h : alternative ∈ alternativesAfter connective latest items) : alternative ≠ [] := by
  induction items generalizing latest with
  | nil =>
      obtain rfl : alternative = latest := by simpa [alternativesAfter] using h
      exact hne
  | cons a items ih =>
      rw [alternativesAfter] at h
      cases hconnective : connective a with
      | and =>
          rw [hconnective] at h
          exact ih (by simp) h
      | or =>
          rw [hconnective] at h
          rcases List.mem_cons.1 h with rfl | h
          · exact hne
          · exact ih (by simp) h

/-- Every alternative of a chain with items has one of them. -/
theorem exists_mem_of_mem_alternatives {items alternative : List α} (hne : items ≠ [])
    (h : alternative ∈ alternatives connective items) : ∃ a ∈ alternative, a ∈ items := by
  obtain ⟨b, items, rfl⟩ := List.exists_cons_of_ne_nil hne
  obtain ⟨a, ha⟩ := List.exists_mem_of_ne_nil alternative
    (ne_nil_of_mem_alternativesAfter (by simp) h)
  refine ⟨a, ha, ?_⟩
  rw [← flatten_alternatives (b :: items)]
  exact List.mem_flatten.2 ⟨alternative, h, ha⟩

/-- Items that are joined by `and` only go into the last alternative. -/
theorem alternativesAfter_append_of_and {more : List α} (h : ∀ a ∈ more, connective a = .and)
    (latest items : List α) :
    ∃ last, alternativesAfter connective latest (items ++ more) =
      (alternativesAfter connective latest items).dropLast ++ [last ++ more] := by
  induction items generalizing latest with
  | nil => exact ⟨latest, by simp [alternativesAfter_of_and h, alternativesAfter]⟩
  | cons a items ih =>
      rw [List.cons_append, alternativesAfter, alternativesAfter]
      cases connective a with
      | and => exact ih _
      | or =>
          obtain ⟨last, hlast⟩ := ih [a]
          refine ⟨last, ?_⟩
          simp only [hlast]
          rw [List.dropLast_cons_of_ne_nil (alternativesAfter_ne_nil _ _), List.cons_append]

theorem alternatives_append_of_and {more : List α} (h : ∀ a ∈ more, connective a = .and)
    (items : List α) :
    ∃ last, alternatives connective (items ++ more) =
      (alternatives connective items).dropLast ++ [last ++ more] := by
  cases items with
  | cons a items => exact alternativesAfter_append_of_and h [a] items
  | nil =>
      cases more with
      | nil => exact ⟨[], rfl⟩
      | cons a more =>
          refine ⟨[], ?_⟩
          exact alternativesAfter_of_and (fun b hb => h b (List.mem_cons_of_mem a hb)) [a]

theorem alternativesAfter_map {connective' : β → Connective} {f : α → β}
    (h : ∀ a, connective' (f a) = connective a) (latest items : List α) :
    alternativesAfter connective' (latest.map f) (items.map f) =
      (alternativesAfter connective latest items).map (List.map f) := by
  induction items generalizing latest with
  | nil => rfl
  | cons a items ih =>
      rw [List.map_cons, alternativesAfter, alternativesAfter, h]
      cases connective a with
      | and => simpa using ih (latest ++ [a])
      | or => simpa using ih [a]

theorem alternatives_map {connective' : β → Connective} {f : α → β}
    (h : ∀ a, connective' (f a) = connective a) (items : List α) :
    alternatives connective' (items.map f) = (alternatives connective items).map (List.map f) := by
  cases items with
  | nil => rfl
  | cons a items => exact alternativesAfter_map h [a] items

end

/-- Every alternative of a group has the text of a filter exactly if every alternative that another
one follows has it among its conditions. -/
theorem Group.forall_alternatives_criteria_iff {filters : List AdhocFilter} {f : AdhocFilter}
    (hf : f ∈ filters) (g : Group) :
    (∀ criteria ∈ alternatives Criterion.connective (g.criteria filters),
        ∃ c ∈ criteria, c.write = f.write) ↔
      ∀ conditions ∈ (alternatives Condition.connective g.conditions).dropLast,
        ∃ c ∈ conditions, c.write = f.write := by
  have hand : ∀ c ∈ filters.map Criterion.filter, c.connective = .and := by
    intro c hc
    obtain ⟨a, -, rfl⟩ := List.mem_map.1 hc
    rfl
  obtain ⟨last, hlast⟩ := alternatives_append_of_and hand (g.conditions.map Criterion.condition)
  have hmap : alternatives Criterion.connective (g.conditions.map Criterion.condition) =
      (alternatives Condition.connective g.conditions).map (List.map Criterion.condition) :=
    alternatives_map (fun _ => rfl) g.conditions
  rw [Group.criteria, hlast, hmap, ← List.map_dropLast]
  constructor
  · intro h conditions hconditions
    obtain ⟨c, hc, hwrite⟩ := h (conditions.map Criterion.condition)
      (List.mem_append_left _ (List.mem_map_of_mem hconditions))
    obtain ⟨condition, hmem, rfl⟩ := List.mem_map.1 hc
    exact ⟨condition, hmem, hwrite⟩
  · intro h criteria hcriteria
    rcases List.mem_append.1 hcriteria with hcriteria | hcriteria
    · obtain ⟨conditions, hmem, rfl⟩ := List.mem_map.1 hcriteria
      obtain ⟨c, hc, hwrite⟩ := h conditions hmem
      exact ⟨.condition c, List.mem_map_of_mem hc, hwrite⟩
    · obtain rfl := List.mem_singleton.1 hcriteria
      exact ⟨.filter f, List.mem_append_right _ (List.mem_map_of_mem hf), rfl⟩

/-! ## Narrowing -/

/-- Whatever makes a where clause true makes every filter true, however the clause is read. -/
def FiltersNarrow (filters : List AdhocFilter) (groups : List Group) : Prop :=
  ∀ e, Reads .disjunction (whereWords filters groups) e →
    ∀ v : String → Bool, e.holds v = true → ∀ f ∈ filters, v f.write = true

/-- The assignment that makes one text false and all others true. -/
def allBut (text : String) : String → Bool :=
  fun other => decide (other ≠ text)

/-- A group that needs a text has it in every alternative. -/
theorem Group.exists_write_of_holds_allBut {filters : List AdhocFilter} {g : Group} {text : String}
    (h : g.holds (allBut text) filters = false) :
    ∀ criteria ∈ alternatives Criterion.connective (g.criteria filters),
      ∃ c ∈ criteria, c.write = text := by
  intro criteria hcriteria
  rw [Group.holds, List.any_eq_false] at h
  have hfalse := h criteria hcriteria
  rw [Bool.not_eq_true, List.all_eq_false] at hfalse
  obtain ⟨c, hc, hwrite⟩ := hfalse
  exact ⟨c, hc, by simpa [allBut] using hwrite⟩

/-- A group that has a text in every alternative needs it. -/
theorem Group.true_of_holds {v : String → Bool} {filters : List AdhocFilter} {g : Group}
    {text : String}
    (hcover : ∀ criteria ∈ alternatives Criterion.connective (g.criteria filters),
      ∃ c ∈ criteria, c.write = text)
    (h : g.holds v filters = true) : v text = true := by
  rw [Group.holds, List.any_eq_true] at h
  obtain ⟨criteria, hcriteria, hall⟩ := h
  obtain ⟨c, hc, hwrite⟩ := hcover criteria hcriteria
  rw [← hwrite]
  exact List.all_eq_true.1 hall c hc

/-- Filters narrow all groups exactly if, for each of them, every alternative of groups has a group
in which every alternative of conditions that another one follows has the filter's own text. -/
theorem filtersNarrow_iff_alternatives {filters : List AdhocFilter} {groups : List Group}
    (hne : groups ≠ []) :
    FiltersNarrow filters groups ↔
      ∀ f ∈ filters, ∀ alternative ∈ alternatives Group.operator groups, ∃ g ∈ alternative,
        ∀ conditions ∈ (alternatives Condition.connective g.conditions).dropLast,
          ∃ c ∈ conditions, c.write = f.write := by
  constructor
  · intro hnarrow f hf alternative halternative
    -- The clause is false when the filter alone is, so each of its alternatives has a false group.
    obtain ⟨e, he⟩ := exists_reads_whereWords (List.ne_nil_of_mem hf) hne
    have hfalse : e.holds (allBut f.write) = false := by
      rw [← Bool.not_eq_true]
      intro htrue
      simpa [allBut] using hnarrow e he _ htrue f hf
    rw [he.holds_eq (settles_whereWords _ filters groups), List.any_eq_false] at hfalse
    have hgroup := hfalse alternative halternative
    rw [Bool.not_eq_true, List.all_eq_false] at hgroup
    obtain ⟨g, hg, hgfalse⟩ := hgroup
    rw [Bool.not_eq_true] at hgfalse
    exact ⟨g, hg,
      (g.forall_alternatives_criteria_iff hf).1 (Group.exists_write_of_holds_allBut hgfalse)⟩
  · intro hcover e he v htrue f hf
    rw [he.holds_eq (settles_whereWords v filters groups), List.any_eq_true] at htrue
    obtain ⟨alternative, halternative, hall⟩ := htrue
    obtain ⟨g, hg, hconditions⟩ := hcover f hf alternative halternative
    exact Group.true_of_holds ((g.forall_alternatives_criteria_iff hf).2 hconditions)
      (List.all_eq_true.1 hall g hg)

/-- Conditions that are joined by `and` alone are one alternative. -/
theorem dropLast_alternatives_of_and {conditions : List Condition}
    (hand : ∀ c ∈ conditions.tail, c.connective = .and) :
    (alternatives Condition.connective conditions).dropLast = [] := by
  cases conditions with
  | nil => rfl
  | cons c conditions =>
      rw [List.tail_cons] at hand
      rw [alternatives, alternativesAfter_of_and hand, List.dropLast_singleton]

/-- Filters narrow groups whose conditions are joined by `and` alone, whatever joins the groups. -/
theorem filtersNarrow_of_and {filters : List AdhocFilter} {groups : List Group} (hne : groups ≠ [])
    (hand : ∀ g ∈ groups, ∀ c ∈ g.conditions.tail, c.connective = .and) :
    FiltersNarrow filters groups := by
  rw [filtersNarrow_iff_alternatives hne]
  intro f hf alternative halternative
  obtain ⟨g, hg, hmem⟩ := exists_mem_of_mem_alternatives hne halternative
  refine ⟨g, hg, ?_⟩
  rw [dropLast_alternatives_of_and (hand g hmem)]
  exact fun conditions h => absurd h List.not_mem_nil

/-- A where clause is the text of its words; under a filter they can be read; and the exact
condition under which the filters narrow every group, whatever the reading. -/
theorem whereClause_filtersNarrow_iff {filters : List AdhocFilter} {groups : List Group}
    (hne : groups ≠ []) :
    whereClause? (AdhocFilter.writeAll filters) groups =
        some (writeWords (whereWords filters groups)) ∧
      (filters ≠ [] → ∃ e, Reads .disjunction (whereWords filters groups) e) ∧
      (FiltersNarrow filters groups ↔
        ∀ f ∈ filters, ∀ alternative ∈ alternatives Group.operator groups, ∃ g ∈ alternative,
          ∀ conditions ∈ (alternatives Condition.connective g.conditions).dropLast,
            ∃ c ∈ conditions, c.write = f.write) :=
  ⟨whereClause?_eq_writeWords hne filters, fun hfilters => exists_reads_whereWords hfilters hne,
    filtersNarrow_iff_alternatives hne⟩

/-- A group with two alternatives. -/
def looseGroup : Group where
  operator := .and
  conditions := [⟨.and, "a", .equal, "1"⟩, ⟨.or, "b", .equal, "2"⟩]

example : whereClause? "f=\"x\"" [looseGroup] =
    some "( a = \"1\" or b = \"2\" and f=\"x\" )" := by
  decide +kernel

theorem whereClause_filtersNarrow_looseGroup :
    [looseGroup] ≠ [] ∧
      whereClause? (AdhocFilter.writeAll [⟨"f", "=", "x"⟩]) [looseGroup] =
        some (writeWords (whereWords [⟨"f", "=", "x"⟩] [looseGroup])) ∧
      ([(⟨"f", "=", "x"⟩ : AdhocFilter)] ≠ [] →
        ∃ e, Reads .disjunction (whereWords [⟨"f", "=", "x"⟩] [looseGroup]) e) ∧
      (FiltersNarrow [⟨"f", "=", "x"⟩] [looseGroup] ↔
        ∀ f ∈ [(⟨"f", "=", "x"⟩ : AdhocFilter)],
          ∀ alternative ∈ alternatives Group.operator [looseGroup], ∃ g ∈ alternative,
            ∀ conditions ∈ (alternatives Condition.connective g.conditions).dropLast,
              ∃ c ∈ conditions, c.write = f.write) :=
  ⟨by simp, whereClause_filtersNarrow_iff (by simp)⟩

/-- A filter does not narrow a group with two alternatives: the first may be true without it. -/
theorem not_filtersNarrow_of_or :
    ¬ ∀ (filters : List AdhocFilter) (groups : List Group), groups ≠ [] →
      FiltersNarrow filters groups := by
  intro hclaim
  have hcover := (filtersNarrow_iff_alternatives (by simp)).1
    (hclaim [⟨"f", "=", "x"⟩] [looseGroup] (by simp))
  exact absurd hcover (by decide)

end Target
end PanelQuery
