import PanelQuery.Proofs.Datasource.ResolvedLookups

/-!
# Data sources - values for a condition

The values that are offered for a condition of a target are narrowed by one other condition of its
group: the first whose field has been filled in.  The other groups do not matter, and a condition
that is not there is refused before anything is sent.

Main results:

- `Datasource.siblingOf_eq_some_iff` and `Datasource.siblingOf_eq_none_iff`: which condition narrows
  another one of its group, and when none does.
- `Datasource.conditionValues_spec`: what a lookup of values for a condition sends and gives.
-/

namespace PanelQuery

open Template Service

namespace Target

/-- The field of a condition has been filled in: it is not white space only. -/
def Condition.IsFilledIn (c : Condition) : Prop :=
  ∃ ch ∈ c.left.toList, Text.isBlank ch = false

theorem Condition.hasField_iff {c : Condition} : c.hasField = true ↔ c.IsFilledIn := by
  simp [hasField, IsFilledIn, Text.isBlankText]

/-- A condition stands elsewhere in a group than at an index, has been filled in, and is the first
of that kind. -/
structure IsFirstFilledIn (conditions : List Condition) (index position : Nat) (s : Condition) :
    Prop where
  elsewhere : position ≠ index
  here : conditions[position]? = some s
  filledIn : s.IsFilledIn
  first : ∀ (before : Nat) (c : Condition), before < position → before ≠ index →
    conditions[before]? = some c → ¬ c.IsFilledIn

/-- What narrows the condition at an index of a group: the first other condition that has been
filled in, or nothing where there is none. -/
inductive IsNarrowedBy (conditions : List Condition) (index : Nat) : Option Condition → Prop
  | first {position : Nat} {s : Condition} (h : IsFirstFilledIn conditions index position s) :
      IsNarrowedBy conditions index (some s)
  | nothing (h : ∀ (position : Nat) (c : Condition), position ≠ index →
      conditions[position]? = some c → ¬ c.IsFilledIn) : IsNarrowedBy conditions index none

/-- The body of a lookup for the values of a condition of a series, with values written into each
text as patterns.  What narrows the condition goes into two members of its own and decides on the
type. -/
def valuesBody (d : Dashboard) (series : String) (c : Condition) (like : String) :
    Option Condition → Json
  | some s => .object [
      ("target", .string (d.resolve [] .regex series)),
      ("type", .string "Where_Related"),
      ("parent_meta_field", .string (d.resolve [] .regex s.left)),
      ("parent_meta_field_value", .string (d.resolve [] .regex s.right)),
      ("meta_field", .string (d.resolve [] .regex c.left)),
      ("like_field", .string (d.resolve [] .regex like))]
  | none => .object [
      ("target", .string (d.resolve [] .regex series)),
      ("type", .string "Where"),
      ("meta_field", .string (d.resolve [] .regex c.left)),
      ("like_field", .string (d.resolve [] .regex like))]

end Target

namespace Datasource

open Target

/-! ## The narrowing condition -/

section

variable {conditions : List Condition} {index : Nat}

/-- A group of one need not be searched: its only condition is passed over. -/
theorem siblingOf_eq_map_find? (h : index < conditions.length) :
    siblingOf conditions index =
      (conditions.zipIdx.find? fun c => c.2 != index && c.1.hasField).map (·.1) := by
  by_cases hmany : 1 < conditions.length
  · rw [siblingOf, if_pos hmany]
  · obtain ⟨c, rfl⟩ : ∃ c, conditions = [c] := List.length_eq_one_iff.1 (by omega)
    obtain rfl : index = 0 := by simpa using h
    rfl

/-- A condition narrows another one of its group if it is the first elsewhere that has been filled
in. -/
theorem siblingOf_eq_some_iff (h : index < conditions.length) {s : Condition} :
    siblingOf conditions index = some s ↔
      ∃ position, IsFirstFilledIn conditions index position s := by
  rw [siblingOf_eq_map_find? h]
  simp only [Option.map_eq_some_iff, List.find?_eq_some_iff_getElem, Prod.exists]
  constructor
  · rintro ⟨_, position, ⟨hfits, i, hi, hentry, hbefore⟩, rfl⟩
    obtain ⟨hhere, rfl⟩ : conditions[i]? = some _ ∧ i = position := by
      simpa using List.getElem?_eq_some_iff.2 ⟨hi, hentry⟩
    rw [Bool.and_eq_true, bne_iff_ne, Condition.hasField_iff] at hfits
    refine ⟨i, hfits.1, hhere, hfits.2, ?_⟩
    intro before c hlt helsewhere hc hfilled
    obtain ⟨hbound, rfl⟩ := List.getElem?_eq_some_iff.1 hc
    have hrefused := hbefore before hlt
    simp [helsewhere, Condition.hasField_iff.2 hfilled] at hrefused
  · rintro ⟨position, hfirst⟩
    obtain ⟨hbound, rfl⟩ := List.getElem?_eq_some_iff.1 hfirst.here
    refine ⟨_, position, ⟨?_, position, by simpa using hbound, by simp, ?_⟩, rfl⟩
    · rw [Bool.and_eq_true, bne_iff_ne, Condition.hasField_iff]
      exact ⟨hfirst.elsewhere, hfirst.filledIn⟩
    · intro before hlt
      by_cases helsewhere : before = index
      · simp [helsewhere]
      · have hblank :=
          hfirst.first before _ hlt helsewhere (List.getElem?_eq_getElem (by omega))
        rw [← Condition.hasField_iff] at hblank
        simp [hblank]

/-- No condition narrows another one exactly if none has been filled in elsewhere in the group. -/
theorem siblingOf_eq_none_iff (h : index < conditions.length) :
    siblingOf conditions index = none ↔
      ∀ (position : Nat) (c : Condition), position ≠ index → conditions[position]? = some c →
        ¬ c.IsFilledIn := by
  rw [siblingOf_eq_map_find? h, Option.map_eq_none_iff, List.find?_eq_none]
  constructor
  · intro hnone position c helsewhere hc
    have hfalse := hnone (c, position) (List.mk_mem_zipIdx_iff_getElem?.2 hc)
    simpa [helsewhere, Condition.hasField_iff] using hfalse
  · rintro hblank ⟨c, position⟩ hmem
    have hc : conditions[position]? = some c := List.mk_mem_zipIdx_iff_getElem?.1 hmem
    simpa [Condition.hasField_iff] using fun helsewhere => hblank position c helsewhere hc

/-- What a group is searched for is what narrows the condition. -/
theorem isNarrowedBy_siblingOf (h : index < conditions.length) :
    IsNarrowedBy conditions index (siblingOf conditions index) := by
  cases hs : siblingOf conditions index with
  | none => exact .nothing ((siblingOf_eq_none_iff h).1 hs)
  | some s =>
      obtain ⟨position, hfirst⟩ := (siblingOf_eq_some_iff h).1 hs
      exact .first hfirst

end

/-! ## The lookup for a condition -/

theorem itemsOrNote_ne_nil (items : List Json) : Lookup.itemsOrNote items ≠ [] := by
  cases items <;> simp [Lookup.itemsOrNote]

section

variable {ds : Datasource} {transport : Transport} {t : Target} {group condition : Nat}
  {like : String}

/-- Without its condition a lookup is settled by a fault. -/
theorem conditionValues_of_not_found
    (h : ¬ ∃ g c, t.groups[group]? = some g ∧ g.conditions[condition]? = some c) :
    ds.conditionValues transport t group condition like =
      .settled (.error (.noCondition group condition)) := by
  have hlookup : ds.conditionLookup t group condition like =
      .error (.noCondition group condition) := by
    unfold conditionLookup
    cases hg : t.groups[group]? with
    | none => rfl
    | some g =>
        cases hc : g.conditions[condition]? with
        | none => simp [hc]
        | some c => exact absurd ⟨g, c, hg, hc⟩ h
  rw [conditionValues, hlookup]

/-- The body of the lookup for a condition that is there has the members it should have. -/
theorem conditionLookup_of_found {g : Group} {c : Condition} (hg : t.groups[group]? = some g)
    (hc : g.conditions[condition]? = some c) :
    ∃ l, ds.conditionLookup t group condition like = .ok l ∧
      l.toJson = valuesBody ds.dashboard t.series c like (siblingOf g.conditions condition) := by
  unfold conditionLookup
  simp only [hg, hc]
  cases siblingOf g.conditions condition with
  | none => exact ⟨_, rfl, rfl⟩
  | some s => exact ⟨_, rfl, rfl⟩

/-- With its condition a lookup is one request, and the answer to it decides. -/
theorem conditionValues_of_found {g : Group} {c : Condition} (hg : t.groups[group]? = some g)
    (hc : g.conditions[condition]? = some c) :
    ds.conditionValues transport t group condition like =
      (Exchange.ofRequest transport (.post .search (valuesBody ds.dashboard t.series c like
        (siblingOf g.conditions condition)) ds.credentials)).map fun
          | .ok response => .ok (Lookup.itemsOrNote (Lookup.itemsOf response.data))
          | .error failure => .error (.failed failure) := by
  obtain ⟨l, hl, hbody⟩ := conditionLookup_of_found hg hc
  rw [conditionValues, hl, ← hbody]
  simp only [lookup, lookupRequest, Exchange.map, Exchange.ofRequest]
  congr 1
  cases transport (.post .search l.toJson ds.credentials) with
  | ok response => rfl
  | error failure => rfl

/-- Of the groups of a target only the one that is asked about matters. -/
theorem conditionValues_congr {t' : Target} (hseries : t'.series = t.series)
    (hgroup : t'.groups[group]? = t.groups[group]?) :
    ds.conditionValues transport t' group condition like =
      ds.conditionValues transport t group condition like := by
  unfold conditionValues conditionLookup
  rw [hseries, hgroup]

end

/-- The values for a condition are refused without a request exactly if the condition is not there,
and otherwise asked for once, narrowed by the first other condition of the group that has been
filled in.  Neither the other groups nor anything else of the target has a part in it, and a list of
values is never empty. -/
theorem conditionValues_spec (ds : Datasource) (transport : Transport) (t : Target)
    (group condition : Nat) (like : String) :
    ((ds.conditionValues transport t group condition like).result =
        .error (.noCondition group condition) ∧
      (ds.conditionValues transport t group condition like).sent = [] ↔
        ¬ ∃ g c, t.groups[group]? = some g ∧ g.conditions[condition]? = some c) ∧
    (∀ g c, t.groups[group]? = some g → g.conditions[condition]? = some c →
      ∃ narrowing, IsNarrowedBy g.conditions condition narrowing ∧
        (ds.conditionValues transport t group condition like).sent =
          [.post .search (valuesBody ds.dashboard t.series c like narrowing) ds.credentials] ∧
        (∀ response, transport (.post .search
            (valuesBody ds.dashboard t.series c like narrowing) ds.credentials) = .ok response →
          ∃ values, values ≠ [] ∧
            (ds.conditionValues transport t group condition like).result = .ok values) ∧
        ∀ failure, transport (.post .search
            (valuesBody ds.dashboard t.series c like narrowing) ds.credentials) = .error failure →
          (ds.conditionValues transport t group condition like).result =
            .error (.failed failure)) ∧
    ∀ t' : Target, t'.series = t.series → t'.groups[group]? = t.groups[group]? →
      ds.conditionValues transport t' group condition like =
        ds.conditionValues transport t group condition like := by
  refine ⟨⟨?_, ?_⟩, ?_, ?_⟩
  · rintro ⟨-, hsent⟩ ⟨g, c, hg, hc⟩
    rw [conditionValues_of_found hg hc] at hsent
    exact absurd hsent (List.cons_ne_nil _ _)
  · intro h
    rw [conditionValues_of_not_found h]
    exact ⟨rfl, rfl⟩
  · intro g c hg hc
    obtain ⟨hbound, -⟩ := List.getElem?_eq_some_iff.1 hc
    refine ⟨_, isNarrowedBy_siblingOf hbound, ?_, ?_, ?_⟩
    · rw [conditionValues_of_found hg hc]
      rfl
    · intro response hresponse
      rw [conditionValues_of_found hg hc]
      refine ⟨_, itemsOrNote_ne_nil (Lookup.itemsOf response.data), ?_⟩
      simp only [Exchange.map, Exchange.ofRequest, hresponse]
    · intro failure hfailure
      rw [conditionValues_of_found hg hc]
      simp only [Exchange.map, Exchange.ofRequest, hfailure]
  · intro t' hseries hgroup
    exact conditionValues_congr hseries hgroup

end Datasource
end PanelQuery
