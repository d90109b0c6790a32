import PanelQuery.Proofs.Datasource.ConditionValues
import PanelQuery.Proofs.Datasource.LookupCalls
import PanelQuery.Proofs.KeyTable

/-!
# Data sources - bodies of lookups

Every body that goes to the search endpoint has a target and a type.  What else it has depends only
on the call that it is sent for: nothing, a range that was given, or what the values of a field are
narrowed by, which is one of two forms and never both.

Main results:

- `Lookup.isBody_toJson`: a lookup as a document has a target, a type and what its narrowing and its
  range add to them.
- `Call.Asks`: what each call asks for.
- `Datasource.search_bodies_documented`: every body is what its call asks for.
-/

namespace PanelQuery

open Template Service

namespace Lookup

/-! ## The members of a body -/

/-- A document is a body: it states a target, a type and some extra members, each once, and nothing
else. -/
structure IsBody (target type : String) (extras : List (String × Json)) (body : Json) : Prop where
  distinct : ∃ members, body = .object members ∧ (members.map (·.1)).Nodup
  get?_eq_some_iff : ∀ key value, body.get? key = some value ↔
    (key, value) ∈ ("target", Json.string target) :: ("type", Json.string type) :: extras

/-- The keys of a body with some extra members. -/
def bodyKeys (extras : List (String × Json)) : List String :=
  "target" :: "type" :: extras.map (·.1)

section

variable {target type : String} {extras : List (String × Json)}

theorem isBody_object (h : (bodyKeys extras).Nodup) :
    IsBody target type extras
      (.object (("target", .string target) :: ("type", .string type) :: extras)) where
  distinct := ⟨_, rfl, h⟩
  get?_eq_some_iff _ _ := ⟨KeyTable.mem_of_find?, KeyTable.find?_of_mem h⟩

/-- Which members a body has. -/
theorem IsBody.isSome_get?_iff {body : Json} (h : IsBody target type extras body) {key : String} :
    (body.get? key).isSome ↔ key ∈ bodyKeys extras := by
  have hkeys : bodyKeys extras =
      (("target", Json.string target) :: ("type", Json.string type) :: extras).map (·.1) := rfl
  rw [Option.isSome_iff_exists, hkeys, List.mem_map]
  constructor
  · rintro ⟨value, hvalue⟩
    exact ⟨(key, value), (h.get?_eq_some_iff key value).1 hvalue, rfl⟩
  · rintro ⟨⟨key, value⟩, hmem, rfl⟩
    exact ⟨value, (h.get?_eq_some_iff key value).2 hmem⟩

end

/-- What the body of a lookup has beside its target and its type. -/
def extras (l : Lookup) : List (String × Json) :=
  l.narrowing.members ++ optionalMember "range" TimeRange.toJson l.range

theorem isBody_toJson (l : Lookup) : IsBody l.target l.kind.name l.extras l.toJson := by
  have hkeys : (bodyKeys l.extras).Nodup := by
    rw [bodyKeys, extras]
    cases l.narrowing <;> cases l.range <;> simp [Narrowing.members, optionalMember]
  have hbody : l.toJson =
      .object (("target", .string l.target) :: ("type", .string l.kind.name) :: l.extras) := by
    simp [toJson, extras]
  rw [hbody]
  exact isBody_object hkeys

end Lookup

/-! ## What the calls ask for -/

section

open Target

/-- What a call asks for: the type of the body, and what it has beside its target and the type. -/
inductive Call.Asks : Call → String → List (String × Json) → Prop
  | columns : Asks .columns "Column" []
  | tables (name : Option String) : Asks (.tables name) "Table" []
  | metrics (series : String) (kind : LookupKind) : Asks (.metrics series kind) kind.name []
  | search (text : String) : Asks (.search text none) "Search" []
  | searchIn (text : String) (range : TimeRange) :
      Asks (.search text (some range)) "Search" [("range", range.toJson)]
  | values (name : String) (parents : List Binding) (field like : String) :
      Asks (.values name) "Where_Related" [
        ("parent_meta_fields", .array (parents.map Binding.toJson)),
        ("meta_field", .string field), ("like_field", .string like)]
  /-- No other condition of the group has been filled in. -/
  | condition {t : Target} {group index : Nat} {text : String} {g : Group}
      (hgroup : t.groups[group]? = some g) (hnarrowed : IsNarrowedBy g.conditions index none)
      (field like : String) :
      Asks (.conditionValues t group index text) "Where" [
        ("meta_field", .string field), ("like_field", .string like)]
  /-- The first other condition of the group that has been filled in. -/
  | conditionBeside {t : Target} {group index : Nat} {text : String} {g : Group} {c : Condition}
      (hgroup : t.groups[group]? = some g) (hnarrowed : IsNarrowedBy g.conditions index (some c))
      (parent parentValue field like : String) :
      Asks (.conditionValues t group index text) "Where_Related" [
        ("parent_meta_field", .string parent), ("parent_meta_field_value", .string parentValue),
        ("meta_field", .string field), ("like_field", .string like)]

namespace Call.Asks

variable {call : Call} {type : String} {extras : List (String × Json)}

theorem range_mem_iff (h : call.Asks type extras) :
    "range" ∈ Lookup.bodyKeys extras ↔ ∃ text range, call = .search text (some range) := by
  cases h <;> simp [Lookup.bodyKeys]

theorem parents_mem_iff (h : call.Asks type extras) :
    "parent_meta_fields" ∈ Lookup.bodyKeys extras ↔ ∃ name, call = .values name := by
  cases h <;> simp [Lookup.bodyKeys]

theorem parent_mem_iff (h : call.Asks type extras) :
    "parent_meta_field" ∈ Lookup.bodyKeys extras ↔
      type = "Where_Related" ∧
        ∃ t group index text, call = .conditionValues t group index text := by
  cases h <;> simp [Lookup.bodyKeys]

theorem parentValue_mem_iff (h : call.Asks type extras) :
    "parent_meta_field_value" ∈ Lookup.bodyKeys extras ↔
      "parent_meta_field" ∈ Lookup.bodyKeys extras := by
  cases h <;> simp [Lookup.bodyKeys]

end Call.Asks
end

namespace Datasource

variable {ds : Datasource} {call : Call} {l : Lookup}

/-- The values for a condition are asked for beside another condition if one narrows it. -/
theorem asks_of_conditionLookup {t : Target} {group index : Nat} {text : String}
    (h : ds.conditionLookup t group index text = .ok l) :
    Call.Asks (.conditionValues t group index text) l.kind.name l.extras := by
  unfold conditionLookup at h
  cases hg : t.groups[group]? with
  | none => simp [hg] at h
  | some g =>
      cases hc : g.conditions[index]? with
      | none => simp [hg, hc] at h
      | some c =>
          have hbound : index < g.conditions.length := (List.getElem?_eq_some_iff.1 hc).1
          have hnarrowed := isNarrowedBy_siblingOf hbound
          cases hs : siblingOf g.conditions index with
          | none =>
              rw [hs] at hnarrowed
              simp only [hg, hc, hs, Except.ok.injEq] at h
              subst h
              exact .condition hg hnarrowed _ _
          | some s =>
              rw [hs] at hnarrowed
              simp only [hg, hc, hs, Except.ok.injEq] at h
              subst h
              exact .conditionBeside hg hnarrowed _ _ _ _

/-- The lookup of a call is what the call asks for. -/
theorem asks_of_lookupSent (h : ds.lookupSent? call = some l) :
    call.Asks l.kind.name l.extras := by
  cases call with
  | columns =>
      cases h
      exact .columns
  | values field =>
      cases h
      exact .values field (ds.parentBindings field) _ _
  | conditionValues t group index text =>
      rw [lookupSent?_conditionValues_eq_some_iff] at h
      exact asks_of_conditionLookup h
  | search text range =>
      cases h
      cases range with
      | none => exact .search text
      | some range => exact .searchIn text range
  | tables name =>
      cases h
      exact .tables name
  | metrics series kind =>
      cases h
      exact .metrics series kind
  | refresh r | check | operators | parentBindings field | measurementType | compile scope t =>
      cases h

/-- A call for a condition that is not there sends nothing. -/
theorem perform_sent_of_not_hasPlace (h : ¬ call.HasPlace) (transport : Transport) :
    (ds.perform transport call).sent = [] := by
  cases call with
  | conditionValues t group index text =>
      have hmissing : ¬ ∃ g c, t.groups[group]? = some g ∧ g.conditions[index]? = some c := by
        rintro ⟨g, c, hg, hc⟩
        exact h ⟨g, hg, c, hc⟩
      rw [perform, conditionValues_of_not_found hmissing]
      rfl
  | _ => exact absurd trivial h

/-- What goes to the search endpoint is the request of a lookup. -/
theorem exists_lookupSent_of_sent {transport : Transport} {r : Request}
    (hr : r ∈ (ds.perform transport call).sent) (hpath : r.endpoint.path = "/search") :
    ∃ l, ds.lookupSent? call = some l ∧ r = ds.lookupRequest l := by
  have hsearch : call.path? = some "/search" :=
    hpath ▸ (sendsProperly_perform ds transport call).path r hr
  have hplace : call.HasPlace := by
    by_contra hmissing
    rw [perform_sent_of_not_hasPlace hmissing] at hr
    exact List.not_mem_nil hr
  rcases exists_lookupSent_iff.2 ⟨hsearch, hplace⟩ with ⟨l, hl⟩
  rw [perform_sent_of_lookupSent hl, List.mem_singleton] at hr
  exact ⟨l, hl, hr⟩

/-- A call to the search endpoint sends one request, unless it is for a condition that is not there.
Whatever the dashboard and the arguments of the call, the body of what is sent is what the call asks
for: it has a range exactly if the call gives one, the list of bindings exactly if the call is for
the values of a field, and the two members for another condition exactly if the call is for the
values of a condition and the body of the narrowed type; the editor names the type of its own
lookups. -/
theorem search_bodies_documented (ds : Datasource) (transport : Transport) (call : Call) :
    (call.path? = some "/search" →
      ((∃ r, (ds.perform transport call).sent = [r]) ↔ call.HasPlace)) ∧
    ∀ r ∈ (ds.perform transport call).sent, r.endpoint.path = "/search" →
      ∃ body target type extras, r.body = some body ∧ call.Asks type extras ∧
        Lookup.IsBody target type extras body ∧
        ((body.get? "range").isSome ↔ ∃ text range, call = .search text (some range)) ∧
        ((body.get? "parent_meta_fields").isSome ↔ ∃ name, call = .values name) ∧
        ((body.get? "parent_meta_field").isSome ↔ type = "Where_Related" ∧
          ∃ t group index text, call = .conditionValues t group index text) ∧
        ((body.get? "parent_meta_field_value").isSome ↔
          (body.get? "parent_meta_field").isSome) ∧
        ∀ series kind, call = .metrics series (.ofName kind) → type = kind := by
  constructor
  · intro hsearch
    constructor
    · rintro ⟨r, hsent⟩
      by_contra hmissing
      rw [perform_sent_of_not_hasPlace hmissing] at hsent
      exact List.cons_ne_nil _ _ hsent.symm
    · intro hplace
      rcases exists_lookupSent_iff.2 ⟨hsearch, hplace⟩ with ⟨l, hl⟩
      exact ⟨_, perform_sent_of_lookupSent hl⟩
  · intro r hr hpath
    rcases exists_lookupSent_of_sent hr hpath with ⟨l, hl, rfl⟩
    have hbody := l.isBody_toJson
    have hasks := asks_of_lookupSent hl
    refine ⟨l.toJson, l.target, l.kind.name, l.extras, rfl, hasks, hbody, ?_, ?_, ?_, ?_, ?_⟩
    · rw [hbody.isSome_get?_iff, hasks.range_mem_iff]
    · rw [hbody.isSome_get?_iff, hasks.parents_mem_iff]
    · rw [hbody.isSome_get?_iff, hasks.parent_mem_iff]
    · rw [hbody.isSome_get?_iff, hbody.isSome_get?_iff, hasks.parentValue_mem_iff]
    · rintro series kind rfl
      have hmetric : ds.metricLookup series (.ofName kind) = l := Option.some.inj hl
      rw [← hmetric]
      exact LookupKind.name_ofName kind

end Datasource
end PanelQuery
