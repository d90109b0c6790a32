import Mathlib.Data.List.TakeWhile
import PanelQuery.Proofs.Datasource.Declarations
import PanelQuery.Proofs.Datasource.ResolvedLookups

/-!
# Data sources - what is bound before a field

The values of a field are looked up under what is bound before it: every variable that has values,
and the filters up to the first one on the field.  Neither that filter nor any behind it is seen, so
they may be edited as one likes without a change to the request, as long as none of them gets in
front of the first one on the field.

Main results:

- `isBefore_iff_eq_takeWhile`: which filters stand before a field.
- `Datasource.values_sent_eq_iff`: two dashboards with the same variables send the same request
  exactly if the same is bound before the field.
- `Datasource.values_sees_bound_before`: what the request for the values of a field depends on.
- `Datasource.values_sees_behind_removed_filter`: without the first filter on the field, those
  behind it are seen.
-/

namespace PanelQuery

open Template Service

/-- The binding of a variable: its name, and its value if it has one. -/
def Binding.ofVariable (v : Variable) : Binding :=
  ⟨v.name, v.current⟩

/-- The binding of a filter: its key and its value. -/
def Binding.ofFilter (f : AdhocFilter) : Binding :=
  ⟨f.key, some (.single f.value)⟩

namespace Template

/-! ## Filters before a field -/

/-- Filters are the longest beginning of a list that has no filter on a key. -/
structure IsBefore (key : String) (filters before : List AdhocFilter) : Prop where
  leading : before <+: filters
  free : ∀ f ∈ before, f.key ≠ key
  longest : ∀ others, others <+: filters → (∀ f ∈ others, f.key ≠ key) → others <+: before

/-- A list of filters has none, or begins with one on a key. -/
def BeginsOn (key : String) (filters : List AdhocFilter) : Prop :=
  ∀ f ∈ filters.head?, f.key = key

/-- Two lists of filters are the same up to the first filter on a key. -/
def AgreeBefore (key : String) (filters filters' : List AdhocFilter) : Prop :=
  ∃ before, IsBefore key filters before ∧ IsBefore key filters' before

section

variable {key : String} {filters before rest : List AdhocFilter}

theorem takeWhile_append_of_free (h : ∀ f ∈ before, f.key ≠ key) :
    (before ++ rest).takeWhile (fun f => f.key != key) =
      before ++ rest.takeWhile fun f => f.key != key :=
  List.takeWhile_append_of_pos fun f hf => bne_iff_ne.2 (h f hf)

theorem takeWhile_append_of_not_free (h : ¬ ∀ f ∈ before, f.key ≠ key) :
    (before ++ rest).takeWhile (fun f => f.key != key) =
      before.takeWhile fun f => f.key != key := by
  rw [List.takeWhile_append, if_neg]
  intro hlength
  have hself := (List.takeWhile_prefix _).eq_of_length hlength
  refine h fun f hf => bne_iff_ne.1 ?_
  rw [← hself] at hf
  exact List.all_eq_true.1 List.all_takeWhile f hf

/-- The filters before a key are those up to the first one on it. -/
theorem isBefore_iff_eq_takeWhile :
    IsBefore key filters before ↔ before = filters.takeWhile fun f => f.key != key := by
  have hfree : ∀ f ∈ filters.takeWhile (fun f => f.key != key), f.key ≠ key := by
    intro f hf
    exact bne_iff_ne.1 (List.all_eq_true.1 List.all_takeWhile f hf)
  have hlongest : ∀ others, others <+: filters → (∀ f ∈ others, f.key ≠ key) →
      others <+: filters.takeWhile fun f => f.key != key := by
    rintro others ⟨rest, rfl⟩ hothers
    rw [takeWhile_append_of_free hothers]
    exact List.prefix_append others _
  constructor
  · rintro ⟨hleading, hbefore, hmost⟩
    have hbelow := hlongest before hleading hbefore
    have habove := hmost _ (List.takeWhile_prefix _) hfree
    exact hbelow.eq_of_length (Nat.le_antisymm hbelow.length_le habove.length_le)
  · rintro rfl
    exact ⟨List.takeWhile_prefix _, hfree, hlongest⟩

theorem takeWhile_eq_nil_iff_beginsOn :
    (filters.takeWhile fun f => f.key != key) = [] ↔ BeginsOn key filters := by
  cases filters with
  | nil => simp [BeginsOn]
  | cons f filters => by_cases hf : f.key = key <;> simp [BeginsOn, hf]

end

end Template

namespace Datasource

/-- The data source of another dashboard. -/
def withDashboard (ds : Datasource) (d : Dashboard) : Datasource :=
  { ds with dashboard := d }

section

variable {ds : Datasource} {d : Dashboard} {field : String} {transport transport' : Transport}

/-! ## Bindings -/

theorem parentBindings_eq (ds : Datasource) (field : String) :
    ds.parentBindings field = ds.dashboard.valued.map Binding.ofVariable ++
      ((ds.dashboard.filtersOf ds.name).takeWhile fun f => f.key != field).map Binding.ofFilter :=
  rfl

theorem parentBindings_withDashboard (h : d.declarations = ds.dashboard.declarations) :
    (ds.withDashboard d).parentBindings field = ds.dashboard.valued.map Binding.ofVariable ++
      ((d.filtersOf ds.name).takeWhile fun f => f.key != field).map Binding.ofFilter := by
  rw [parentBindings_eq, withDashboard, Dashboard.valued, Dashboard.valued, h]

/-- The same is bound before a field if the filters agree up to the first one on it. -/
theorem parentBindings_eq_of_agreeBefore (h : d.declarations = ds.dashboard.declarations)
    (hagree : AgreeBefore field (ds.dashboard.filtersOf ds.name) (d.filtersOf ds.name)) :
    (ds.withDashboard d).parentBindings field = ds.parentBindings field := by
  obtain ⟨before, hbefore, hbefore'⟩ := hagree
  rw [parentBindings_withDashboard h, parentBindings_eq, ← isBefore_iff_eq_takeWhile.1 hbefore,
    ← isBefore_iff_eq_takeWhile.1 hbefore']

/-- The filters from the first one on a field on may be replaced by others: what is bound before the
field stays the same exactly if those begin on the field too. -/
theorem parentBindings_eq_iff_of_replaced {before after others : List AdhocFilter} {f : AdhocFilter}
    (h : d.declarations = ds.dashboard.declarations)
    (hfilters : ds.dashboard.filtersOf ds.name = before ++ f :: after)
    (hfree : ∀ g ∈ before, g.key ≠ field) (hkey : f.key = field)
    (hreplaced : d.filtersOf ds.name = before ++ others) :
    (ds.withDashboard d).parentBindings field = ds.parentBindings field ↔
      BeginsOn field others := by
  have hbegins : BeginsOn field (f :: after) := by
    simpa [BeginsOn] using hkey
  rw [parentBindings_withDashboard h, parentBindings_eq, hfilters, hreplaced,
    takeWhile_append_of_free hfree, takeWhile_append_of_free hfree,
    takeWhile_eq_nil_iff_beginsOn.2 hbegins, ← takeWhile_eq_nil_iff_beginsOn]
  simp

/-- A further filter is bound before a field if neither it nor another one is on the field. -/
theorem parentBindings_of_appended {f : AdhocFilter}
    (h : d.declarations = ds.dashboard.declarations)
    (happended : d.filtersOf ds.name = ds.dashboard.filtersOf ds.name ++ [f]) :
    (ds.withDashboard d).parentBindings field = ds.parentBindings field ++
      if (∀ g ∈ ds.dashboard.filtersOf ds.name, g.key ≠ field) ∧ f.key ≠ field
        then [Binding.ofFilter f] else [] := by
  rw [parentBindings_withDashboard h, parentBindings_eq, happended]
  by_cases hfree : ∀ g ∈ ds.dashboard.filtersOf ds.name, g.key ≠ field
  · have hall : ((ds.dashboard.filtersOf ds.name).takeWhile fun g => g.key != field) =
        ds.dashboard.filtersOf ds.name := by
      rw [List.takeWhile_eq_self_iff]
      exact fun g hg => bne_iff_ne.2 (hfree g hg)
    rw [takeWhile_append_of_free hfree, hall]
    by_cases hkey : f.key = field
    · simp [hkey]
    · rw [if_pos ⟨hfree, hkey⟩]
      simp [hkey]
  · rw [takeWhile_append_of_not_free hfree, if_neg fun hboth => hfree hboth.1, List.append_nil]

/-! ## Requests -/

/-- Of dashboards with the same variables, only what is bound before a field decides on the request
for its values. -/
theorem values_sent_eq_iff (h : d.declarations = ds.dashboard.declarations) :
    ((ds.withDashboard d).values transport' field).sent = (ds.values transport field).sent ↔
      (ds.withDashboard d).parentBindings field = ds.parentBindings field := by
  have hresolve : ∀ text, d.resolveLookup text = ds.dashboard.resolveLookup text := by
    intro text
    refine Dashboard.resolve_congr fun name _ => ?_
    simp only [Dashboard.valueOf, Dashboard.valued, h]
  have htype : (ds.withDashboard d).measurementType = ds.measurementType := by
    simp only [measurementType, withDashboard, h]
  have hbody : ((ds.withDashboard d).values transport' field).sent =
      (ds.values transport field).sent ↔
        ((ds.withDashboard d).valuesLookup field).toJson = (ds.valuesLookup field).toJson := by
    simp [values, suggest, lookup, lookupRequest, Request.post, Exchange.map, Exchange.ofRequest,
      withDashboard]
  rw [hbody, valuesLookup, valuesLookup, htype]
  simp only [withDashboard, hresolve]
  exact Lookup.toJson_valuesUnder_iff

end

/-- The request for the values of a field is decided by what is bound before the field: every
variable that carries no filters, with its value or none, and then the filters of the longest
beginning without one on the field.  Dashboards with the same variables, and with the same filters
up to the first one on the field, send the same request.  So the filters from that one on can be
replaced by others without a change exactly if those are none or begin on the field again; and one
more filter at the end makes a change only where no filter, nor it itself, is on the field, and then
it is the one binding that is added, at the end. -/
theorem values_sees_bound_before (ds : Datasource) (field : String) :
    (∃ before, IsBefore field (ds.dashboard.filtersOf ds.name) before ∧
      ds.parentBindings field =
        (ds.dashboard.declarations.filter fun v => v.kind != "adhoc").map Binding.ofVariable ++
          before.map Binding.ofFilter) ∧
    (∀ transport, ∃ request, (ds.values transport field).sent = [request] ∧
      request.body.bind (·.get? "parent_meta_fields") =
        some (.array ((ds.parentBindings field).map Binding.toJson))) ∧
    ∀ (d : Dashboard) (transport transport' : Transport),
      d.declarations = ds.dashboard.declarations →
        (AgreeBefore field (ds.dashboard.filtersOf ds.name) (d.filtersOf ds.name) →
          ((ds.withDashboard d).values transport' field).sent =
            (ds.values transport field).sent) ∧
        (∀ before f after others, ds.dashboard.filtersOf ds.name = before ++ f :: after →
          (∀ g ∈ before, g.key ≠ field) → f.key = field →
            d.filtersOf ds.name = before ++ others →
              (((ds.withDashboard d).values transport' field).sent =
                (ds.values transport field).sent ↔ BeginsOn field others)) ∧
        ∀ f, d.filtersOf ds.name = ds.dashboard.filtersOf ds.name ++ [f] →
          (((ds.withDashboard d).values transport' field).sent ≠
              (ds.values transport field).sent ↔
            (∀ g ∈ ds.dashboard.filtersOf ds.name, g.key ≠ field) ∧ f.key ≠ field) ∧
          ((∀ g ∈ ds.dashboard.filtersOf ds.name, g.key ≠ field) ∧ f.key ≠ field →
            (ds.withDashboard d).parentBindings field =
              ds.parentBindings field ++ [Binding.ofFilter f]) := by
  refine ⟨⟨_, isBefore_iff_eq_takeWhile.2 rfl, rfl⟩, fun _ => ⟨_, rfl, rfl⟩, ?_⟩
  intro d transport transport' hdeclarations
  refine ⟨?_, ?_, ?_⟩
  · intro hagree
    exact (values_sent_eq_iff hdeclarations).2
      (parentBindings_eq_of_agreeBefore hdeclarations hagree)
  · intro before f after others hfilters hfree hkey hreplaced
    rw [values_sent_eq_iff hdeclarations]
    exact parentBindings_eq_iff_of_replaced hdeclarations hfilters hfree hkey hreplaced
  · intro f happended
    have hbindings : (ds.withDashboard d).parentBindings field = _ :=
      parentBindings_of_appended hdeclarations happended
    rw [ne_eq, values_sent_eq_iff hdeclarations]
    constructor
    · rw [hbindings]
      split <;> simp_all
    · intro hfree
      rw [hbindings, if_pos hfree]

/-- A data source of a dashboard with a site that has been chosen, a rack that has not, and a filter
on each of three fields. -/
def portSource : Datasource where
  name := "flows"
  dashboard := {
    declarations := [.custom "site" (.single "nyc"), .adhoc "interface",
      ⟨"rack", Variable.defaultKind, none⟩]
    filters := [⟨"node", "=", "r1"⟩, ⟨"port", "=", "p1"⟩, ⟨"vlan", ">", "7"⟩] }

/-- Its dashboard with the filter on the port changed, the one behind it taken away, and another one
put there. -/
def rewiredDashboard : Dashboard :=
  { portSource.dashboard with
    filters := [⟨"node", "=", "r1"⟩, ⟨"port", "<", "$x"⟩, ⟨"site", "=", "chi"⟩] }

/-- Its dashboard with one more filter. -/
def fasterDashboard : Dashboard :=
  portSource.dashboard.addFilter ⟨"speed", "<", "9"⟩

/-- A transport that never answers in time. -/
def silentTransport : Transport :=
  fun _ => .error .timeout

theorem values_sees_bound_before_portSource :
    ((portSource.withDashboard rewiredDashboard).values silentTransport "port").sent =
      (portSource.values silentTransport "port").sent ∧
    ((portSource.withDashboard rewiredDashboard).values silentTransport "node").sent =
      (portSource.values silentTransport "node").sent ∧
    ((portSource.withDashboard fasterDashboard).values silentTransport "site").sent ≠
      (portSource.values silentTransport "site").sent ∧
    (portSource.withDashboard fasterDashboard).parentBindings "site" =
      portSource.parentBindings "site" ++ [⟨"speed", some (.single "9")⟩] := by
  have hport := (values_sees_bound_before portSource "port").2.2 rewiredDashboard silentTransport
    silentTransport rfl
  have hnode := (values_sees_bound_before portSource "node").2.2 rewiredDashboard silentTransport
    silentTransport rfl
  have hsite := ((values_sees_bound_before portSource "site").2.2 fasterDashboard silentTransport
    silentTransport rfl).2.2 ⟨"speed", "<", "9"⟩ rfl
  have hfree : (∀ g ∈ portSource.dashboard.filtersOf portSource.name, g.key ≠ "site") ∧
      (⟨"speed", "<", "9"⟩ : AdhocFilter).key ≠ "site" := by
    decide
  have hagree : AgreeBefore "port" (portSource.dashboard.filtersOf portSource.name)
      (rewiredDashboard.filtersOf portSource.name) :=
    ⟨[⟨"node", "=", "r1"⟩], isBefore_iff_eq_takeWhile.2 (by decide),
      isBefore_iff_eq_takeWhile.2 (by decide)⟩
  refine ⟨hport.1 hagree, ?_, hsite.1.2 hfree, hsite.2 hfree⟩
  exact (hnode.2.1 [] ⟨"node", "=", "r1"⟩ [⟨"port", "=", "p1"⟩, ⟨"vlan", ">", "7"⟩]
    rewiredDashboard.filters rfl (by simp) rfl rfl).2 (by simp [BeginsOn, rewiredDashboard])

/-- Without the first filter on a field, the filters behind it are bound before the field. -/
theorem values_sees_behind_removed_filter :
    ¬ ∀ (ds : Datasource) (transport : Transport) (field : String)
      (before after : List AdhocFilter) (f : AdhocFilter),
        ds.dashboard.filters = before ++ f :: after → (∀ g ∈ before, g.key ≠ field) →
          f.key = field →
            ((ds.withDashboard { ds.dashboard with filters := before ++ after }).values
              transport field).sent = (ds.values transport field).sent := by
  intro hsees
  have hsame := hsees portSource silentTransport "port" [⟨"node", "=", "r1"⟩]
    [⟨"vlan", ">", "7"⟩] ⟨"port", "=", "p1"⟩ rfl (by decide) rfl
  have hbindings := (values_sent_eq_iff (by rfl)).1 hsame
  have hdiffer : (portSource.withDashboard { portSource.dashboard with
      filters := [⟨"node", "=", "r1"⟩] ++ [⟨"vlan", ">", "7"⟩] }).parentBindings "port" ≠
        portSource.parentBindings "port" := by
    decide
  exact hdiffer hbindings

end Datasource
end PanelQuery
