import Mathlib.Data.List.Basic
import PanelQuery.Proofs.Datasource.LookupCalls

/-!
# Data sources - the texts of lookups

The texts that a lookup is put together from may refer to variables.  Values are written into them
as patterns before the lookup is sent, with one exception: what is bound before a field goes out as
the dashboard has it.

Main results:

- `Datasource.sent_resolved_iff`: everything that a call sends is resolved, unless it looks up the
  values of a field behind a binding with a reference in it.
- `Datasource.parentBinding_sent_unresolved`: a filter whose value refers to a variable goes out
  with the reference in it.
-/

namespace PanelQuery

open Template Service

/-! ## Texts -/

/-- A selection with its values changed. -/
def Template.Selection.mapTexts (f : String → String) : Selection → Selection
  | .single v => .single (f v)
  | .several vs => .several (vs.map f)

/-- A binding with its texts changed. -/
def Binding.mapTexts (f : String → String) (b : Binding) : Binding :=
  ⟨f b.key, b.value.map (Selection.mapTexts f)⟩

/-- A narrowing with its texts changed. -/
def Narrowing.mapTexts (f : String → String) : Narrowing → Narrowing
  | .free => .free
  | .field name like => .field (f name) (f like)
  | .bindings parents name like => .bindings (parents.map (Binding.mapTexts f)) (f name) (f like)
  | .sibling parent parentValue name like =>
    .sibling (f parent) (f parentValue) (f name) (f like)

/-- Different selections are different documents. -/
theorem Template.Selection.toJson_injective : Function.Injective Selection.toJson := by
  intro s s' h
  cases s with
  | single v => cases s' with
    | single v' => simpa [toJson] using h
    | several vs' => simp [toJson] at h
  | several vs => cases s' with
    | single v' => simp [toJson] at h
    | several vs' =>
        have hmap : vs.map Json.string = vs'.map Json.string := by simpa [toJson] using h
        rw [List.map_injective_iff.2 (fun _ _ => Json.string.inj) hmap]

/-- Different bindings are different documents. -/
theorem Binding.toJson_injective : Function.Injective Binding.toJson := by
  intro b b' h
  obtain ⟨key, value⟩ := b
  obtain ⟨key', value'⟩ := b'
  obtain ⟨rfl, hvalue⟩ :
      key = key' ∧ Selection.optionToJson value = Selection.optionToJson value' := by
    simpa [toJson] using h
  congr
  cases value with
  | none => cases value' with
    | none => rfl
    | some s' => cases s' <;> simp [Selection.optionToJson, Selection.toJson] at hvalue
  | some s => cases value' with
    | none => cases s <;> simp [Selection.optionToJson, Selection.toJson] at hvalue
    | some s' => rw [Selection.toJson_injective hvalue]

/-- Lookups that differ in their bindings alone are the same document if the bindings are the same.
-/
theorem Lookup.toJson_valuesUnder_iff {target field like : String} {bs bs' : List Binding} :
    (valuesUnder target bs field like).toJson = (valuesUnder target bs' field like).toJson ↔
      bs = bs' := by
  constructor
  · intro h
    have hmap : bs.map Binding.toJson = bs'.map Binding.toJson := by
      simpa [toJson, valuesUnder, Narrowing.members] using h
    exact List.map_injective_iff.2 Binding.toJson_injective hmap
  · rintro rfl
    rfl

namespace Datasource

/-! ## What a call looks up -/

/-- The lookup of the values for a condition of a target, in the words of the target. -/
def conditionLookupOf? (t : Target) (group condition : Nat) (like : String) : Option Lookup :=
  t.groups[group]?.bind fun g => g.conditions[condition]?.map fun c =>
    match siblingOf g.conditions condition with
    | some s => .valuesBeside t.series c.left like s.left s.right
    | none => .values t.series c.left like

/-- The lookup that a call asks for, in the words that it was given. -/
def lookupOf? (ds : Datasource) : Call → Option Lookup
  | .columns => some (.columns ds.measurementType)
  | .values field => some (.valuesUnder ds.measurementType (ds.parentBindings field) field "")
  | .conditionValues t group condition like => conditionLookupOf? t group condition like
  | .search text range => some { target := text, kind := .search, range }
  | .tables name => some { target := name.getD defaultTableTarget, kind := .table }
  | .metrics series kind => some { target := series, kind }
  | .refresh _ | .check | .operators | .parentBindings _ | .measurementType | .compile .. => none

/-- The target of a call's lookup with values written into it; that of a free search loses its
backslashes. -/
def resolveTarget (d : Dashboard) : Call → String → String
  | .search .. => d.resolveLookupTarget
  | _ => d.resolveLookup

/-- The lookup of a call with values written into each of its texts. -/
def resolvedLookup (ds : Datasource) (call : Call) (l : Lookup) : Lookup :=
  { l with
    target := resolveTarget ds.dashboard call l.target
    narrowing := l.narrowing.mapTexts ds.dashboard.resolveLookup }

/-- A request holds the lookup of a call with values written into each of its texts. -/
def IsResolved (ds : Datasource) (call : Call) (r : Request) : Prop :=
  ∀ l, ds.lookupOf? call = some l → r.body = some (ds.resolvedLookup call l).toJson

variable {ds : Datasource} {call : Call}

/-! ## What a call sends -/

/-- The lookup for a condition that is there is the one asked for, with values written in. -/
theorem conditionLookup_eq (ds : Datasource) (t : Target) (group condition : Nat)
    (like : String) :
    ds.conditionLookup t group condition like =
      match conditionLookupOf? t group condition like with
      | some l => .ok (ds.resolvedLookup (.conditionValues t group condition like) l)
      | none => .error (.noCondition group condition) := by
  unfold conditionLookup conditionLookupOf?
  cases t.groups[group]? with
  | none => rfl
  | some g =>
      cases hc : g.conditions[condition]? with
      | none => simp [hc]
      | some c => cases hs : siblingOf g.conditions condition <;> simp [hc, hs] <;> rfl

/-- A call sends the lookup that it asks for with values written in, unless it asks for the values
of a field. -/
theorem lookupSent?_eq_map (hvalues : ∀ field, call ≠ .values field) :
    ds.lookupSent? call = (ds.lookupOf? call).map (ds.resolvedLookup call) := by
  cases call with
  | values field => exact absurd rfl (hvalues field)
  | conditionValues t group condition like =>
      rw [lookupSent?, conditionLookup_eq, lookupOf?]
      cases conditionLookupOf? t group condition like <;> rfl
  | _ => rfl

/-- In a lookup of the values of a field everything but the bindings before it is resolved. -/
theorem isResolved_valuesLookup_iff {field : String} :
    ds.IsResolved (.values field) (ds.lookupRequest (ds.valuesLookup field)) ↔
      ∀ b ∈ ds.parentBindings field, b.mapTexts ds.dashboard.resolveLookup = b := by
  have hlike : ds.dashboard.resolveLookup "" = "" := by
    simp [Dashboard.resolveLookup, Dashboard.resolve, Template.segments, segments_nil, flush,
      String.join]
  have hresolved : ds.resolvedLookup (.values field)
      (.valuesUnder ds.measurementType (ds.parentBindings field) field "") =
        .valuesUnder (ds.dashboard.resolveLookup ds.measurementType)
          ((ds.parentBindings field).map (Binding.mapTexts ds.dashboard.resolveLookup))
          (ds.dashboard.resolveLookup field) "" := by
    simp [resolvedLookup, resolveTarget, Lookup.valuesUnder, Narrowing.mapTexts, hlike]
  have hself : ds.parentBindings field = (ds.parentBindings field).map id :=
    (List.map_id _).symm
  have hbody : ds.IsResolved (.values field) (ds.lookupRequest (ds.valuesLookup field)) ↔
      (ds.valuesLookup field).toJson = (ds.resolvedLookup (.values field)
        (.valuesUnder ds.measurementType (ds.parentBindings field) field "")).toJson := by
    simp [IsResolved, lookupOf?, lookupRequest, Request.post]
  rw [hbody, hresolved, valuesLookup, Lookup.toJson_valuesUnder_iff, hself, List.map_map,
    List.map_inj_left]
  simp [eq_comm]

/-- Whatever is called, all that is sent is resolved - unless the call asks for the values of a
field, and before that field something is bound whose key or value is not its own resolution. -/
theorem sent_resolved_iff (ds : Datasource) (transport : Transport) (call : Call) :
    (∀ r ∈ (ds.perform transport call).sent, ds.IsResolved call r) ↔
      ∀ field, call = .values field →
        ∀ b ∈ ds.parentBindings field, b.mapTexts ds.dashboard.resolveLookup = b := by
  by_cases hvalues : ∃ field, call = .values field
  · obtain ⟨field, rfl⟩ := hvalues
    rw [perform_sent_of_lookupSent (l := ds.valuesLookup field) rfl, List.forall_mem_singleton,
      isResolved_valuesLookup_iff]
    simp
  · have hother : ∀ field, call ≠ .values field := fun field h => hvalues ⟨field, h⟩
    constructor
    · intro _ field h
      exact absurd h (hother field)
    · intro _ r hr l hl
      have hsent : ds.lookupSent? call = some (ds.resolvedLookup call l) := by
        rw [lookupSent?_eq_map hother, hl, Option.map_some]
      rw [perform_sent_of_lookupSent hsent, List.mem_singleton] at hr
      rw [hr]
      rfl

/-- A dashboard with a filter whose value refers to a variable. -/
def siteSource : Datasource where
  name := "tsds"
  dashboard := {
    declarations := [.custom "site" (.single "nyc")]
    filters := [⟨"node", "=", "$site"⟩] }

/-- The value of a filter that refers to a variable with a value goes out with the reference in it.
-/
theorem parentBinding_sent_unresolved :
    ¬ ∀ (ds : Datasource) (transport : Transport) (call : Call),
      ∀ r ∈ (ds.perform transport call).sent, ds.IsResolved call r := by
  intro hclaim
  have hresolved := isResolved_valuesLookup_iff.1
    (hclaim siteSource (fun _ => .error .timeout) (.values "intf") _ (List.mem_singleton_self _))
  have hvalue : siteSource.dashboard.resolveLookup "$site" = "nyc" := by decide +kernel
  have hsite := hresolved ⟨"node", some (.single "$site")⟩ (by decide +kernel)
  simp [Binding.mapTexts, Selection.mapTexts, hvalue] at hsite

end Datasource
end PanelQuery
