import PanelQuery.Datasource
import PanelQuery.Proofs.Template.Segmentation

/-!
# Data sources - declaring more

The template state of a dashboard grows at its ends: every further variable stands behind the
variables that are there, and every further filter behind the filters.  What is looked up by name is
found from the front, so what has been declared stays as it is, whatever is declared after it.

Main results:

- `Dashboard.valueOf_declareAll`: additions change the value of a name only where nothing had it.
- `Datasource.declareAll_preserves`: additions keep the measurement type, and every text whose names
  they do not reach.
-/

namespace PanelQuery

open Template

namespace Template

/-! ## Additions -/

/-- One more thing that a dashboard declares. -/
inductive Addition where
  | ofVariable (v : Variable)
  | ofFilter (f : AdhocFilter)
deriving DecidableEq, Repr

/-- The variable that an addition declares, if it declares one. -/
def Addition.toVariable? : Addition → Option Variable
  | .ofVariable v => some v
  | .ofFilter _ => none

namespace Dashboard

/-- Declare one more thing. -/
def declare (d : Dashboard) : Addition → Dashboard
  | .ofVariable v => d.addVariable v
  | .ofFilter f => d.addFilter f

/-- Declare more things, one after the other. -/
def declareAll (d : Dashboard) (more : List Addition) : Dashboard :=
  more.foldl declare d

@[simp]
theorem declarations_declare (d : Dashboard) (a : Addition) :
    (d.declare a).declarations = d.declarations ++ a.toVariable?.toList := by
  cases a with
  | ofVariable v => rfl
  | ofFilter f => exact (List.append_nil _).symm

/-- Additions put their variables behind those that are there, in order. -/
theorem declarations_declareAll (d : Dashboard) (more : List Addition) :
    (d.declareAll more).declarations = d.declarations ++ more.filterMap Addition.toVariable? := by
  -- Every addition makes another dashboard, so the induction is over all of them.
  induction more generalizing d with
  | nil => simp [declareAll]
  | cons a more ih =>
      calc ((d.declare a).declareAll more).declarations
          = d.declarations ++ a.toVariable?.toList ++ more.filterMap Addition.toVariable? := by
            rw [ih, declarations_declare]
        _ = d.declarations ++ (a :: more).filterMap Addition.toVariable? := by
            cases a with
            | ofVariable v => simp [Addition.toVariable?]
            | ofFilter f => simp [List.filterMap_cons, Addition.toVariable?]

theorem mem_filterMap_toVariable {more : List Addition} {v : Variable} :
    v ∈ more.filterMap Addition.toVariable? ↔ .ofVariable v ∈ more := by
  rw [List.mem_filterMap]
  constructor
  · rintro ⟨a, ha, hv⟩
    cases a with
    | ofVariable w =>
        cases hv
        exact ha
    | ofFilter f => cases hv
  · intro hv
    exact ⟨_, hv, rfl⟩

theorem valued_declareAll (d : Dashboard) (more : List Addition) :
    (d.declareAll more).valued =
      d.valued ++ (more.filterMap Addition.toVariable?).filter fun v => !v.isAdhoc := by
  rw [valued, declarations_declareAll, List.filter_append]
  rfl

/-! ## Values -/

/-- Additions do not reach a name: the request sets it, a variable with values has it already, or
none that is added has it. -/
def Fixes (d : Dashboard) (scope : Scope) (more : List Addition) (name : String) : Prop :=
  name ∈ scope.map Prod.fst ∨ (∃ v ∈ d.valued, v.name = name) ∨
    ∀ v, .ofVariable v ∈ more → v.isAdhoc = false → v.name ≠ name

variable {d : Dashboard} {scope : Scope} {more : List Addition} {name : String}

theorem lookup_eq_none_iff_not_mem : scope.lookup name = none ↔ name ∉ scope.map Prod.fst := by
  rw [List.lookup_eq_none_iff]
  constructor
  · intro h hmem
    obtain ⟨entry, hentry, rfl⟩ := List.mem_map.1 hmem
    simpa using h entry hentry
  · intro h entry hentry
    have hne : name ≠ entry.1 := by
      rintro rfl
      exact h (List.mem_map_of_mem hentry)
    simpa using hne

/-- A variable that is there hides those of its name that are added. -/
theorem find_valued_declareAll
    (h : (∃ v ∈ d.valued, v.name = name) ∨
      ∀ v, .ofVariable v ∈ more → v.isAdhoc = false → v.name ≠ name) :
    (d.declareAll more).valued.find? (fun v => v.name == name) =
      d.valued.find? fun v => v.name == name := by
  rw [valued_declareAll, List.find?_append]
  -- A declaration without a value hides later ones too, so only its name counts here.
  rcases h with ⟨v, hv, hname⟩ | hmore
  · have hfound : (d.valued.find? fun v => v.name == name).isSome = true :=
      List.find?_isSome.2 ⟨v, hv, by simpa using hname⟩
    rw [Option.or_of_isSome hfound]
  · have hnone : ((more.filterMap Addition.toVariable?).filter fun v => !v.isAdhoc).find?
        (fun v => v.name == name) = none := by
      rw [List.find?_eq_none]
      intro v hv
      obtain ⟨hv, hvalued⟩ := List.mem_filter.1 hv
      simpa using hmore v (mem_filterMap_toVariable.1 hv) (by simpa using hvalued)
    rw [hnone, Option.or_none]

/-- Additions keep the value of a name that they do not reach. -/
theorem valueOf_declareAll (h : d.Fixes scope more name) :
    (d.declareAll more).valueOf scope name = d.valueOf scope name := by
  unfold valueOf
  cases hscope : scope.lookup name with
  | some value => rfl
  | none =>
      have hfree := h.resolve_left (lookup_eq_none_iff_not_mem.1 hscope)
      rw [find_valued_declareAll hfree]

/-- A name that has a value is not reached by any additions. -/
theorem fixes_of_valueOf {value : Selection} (h : d.valueOf scope name = some value) :
    d.Fixes scope more name := by
  by_cases hkey : name ∈ scope.map Prod.fst
  · exact .inl hkey
  · rw [valueOf, lookup_eq_none_iff_not_mem.2 hkey] at h
    obtain ⟨v, hfound, -⟩ := Option.bind_eq_some_iff.1 h
    exact .inr (.inl ⟨v, List.mem_of_find?_eq_some hfound, by simpa using List.find?_some hfound⟩)

end Dashboard

/-! ## Texts -/

/-- The names that a text refers to, in order. -/
def referencedNames (text : String) : List String :=
  (segments text).filterMap fun
    | .literal _ => none
    | .reference r => some r.name

theorem name_mem_referencedNames {text : String} {r : Reference}
    (h : .reference r ∈ segments text) : r.name ∈ referencedNames text :=
  List.mem_filterMap.2 ⟨_, h, rfl⟩

/-- An addition has no part in a text: it is a filter or carries filters, its name is taken, or the
text does not refer to it. -/
def Addition.IsInert (d : Dashboard) (text : String) : Addition → Prop
  | .ofFilter _ => True
  | .ofVariable v =>
    v.isAdhoc = true ∨ (∃ w ∈ d.valued, w.name = v.name) ∨ v.name ∉ referencedNames text

namespace Dashboard

variable {d : Dashboard} {scope : Scope} {rendering : Rendering} {more : List Addition}
  {text : String}

/-- What a text resolves to is decided by the values of the names that it refers to. -/
theorem resolve_congr {d' : Dashboard}
    (h : ∀ name ∈ referencedNames text, d'.valueOf scope name = d.valueOf scope name) :
    d'.resolve scope rendering text = d.resolve scope rendering text := by
  have hsegment : ∀ s ∈ segments text,
      d'.resolveSegment scope rendering s = d.resolveSegment scope rendering s := by
    intro s hs
    cases s with
    | literal t => rfl
    | reference r =>
        simp only [resolveSegment, resolveReference, h r.name (name_mem_referencedNames hs)]
  rw [resolve, List.map_congr_left hsegment, resolve]

theorem fixes_of_isInert (h : ∀ a ∈ more, a.IsInert d text) {name : String}
    (hname : name ∈ referencedNames text) : d.Fixes scope more name := by
  by_cases htaken : ∃ w ∈ d.valued, w.name = name
  · exact .inr (.inl htaken)
  · refine .inr (.inr ?_)
    rintro v hv hvalued rfl
    rcases h _ hv with hadhoc | hown | hunused
    · simp [hvalued] at hadhoc
    · exact htaken hown
    · exact hunused hname

/-- Where a segmentation has a reference to a name with a value, the value is written into the text
and is not read again. -/
theorem resolve_of_isSegmentation {before after : List Segment} {r : Reference} {value : Selection}
    (hsegs : IsSegmentation text (before ++ .reference r :: after))
    (hvalue : d.valueOf scope r.name = some value) :
    d.resolve scope rendering text =
      String.join (before.map (d.resolveSegment scope rendering)) ++
        ((r.format.bind Rendering.ofName?).getD rendering).write value ++
          String.join (after.map (d.resolveSegment scope rendering)) := by
  rw [resolve, ← (isSegmentation_iff_eq_segments _ _).1 hsegs]
  simp only [List.map_append, List.map_cons, String.join_append, String.join_cons, resolveSegment,
    resolveReference, hvalue, String.append_assoc]

end Dashboard
end Template

namespace Datasource

/-- A data source of a dashboard that declares more. -/
def declareAll (ds : Datasource) (more : List Addition) : Datasource :=
  { ds with dashboard := ds.dashboard.declareAll more }

/-- The first variable that carries filters names the measurement type, also when more is declared.
-/
theorem measurementType_declareAll {ds : Datasource}
    (h : ∃ v ∈ ds.dashboard.declarations, v.isAdhoc = true) (more : List Addition) :
    (ds.declareAll more).measurementType = ds.measurementType := by
  have hfound : (ds.dashboard.declarations.find? (·.isAdhoc)).isSome = true :=
    List.find?_isSome.2 h
  simp only [measurementType, declareAll, Dashboard.declarations_declareAll, List.find?_append,
    Option.or_of_isSome hfound]

/-- What a dashboard has declared stays as it is, whatever it declares after it.  The measurement
type is kept once there is one; a text resolves as before unless a name that it refers to was free
and is now taken, which filters, variables that carry filters, further variables of a name and
variables that are not referred to never do; and a value is written as it is, also where it reads
like a reference. -/
theorem declareAll_preserves (ds : Datasource) (more : List Addition) :
    ((∃ v ∈ ds.dashboard.declarations, v.isAdhoc = true) →
      (ds.declareAll more).measurementType = ds.measurementType) ∧
    ∀ (scope : Scope) (rendering : Rendering) (text : String),
      ((∀ name ∈ referencedNames text, ds.dashboard.Fixes scope more name) →
        (ds.declareAll more).dashboard.resolve scope rendering text =
          ds.dashboard.resolve scope rendering text) ∧
      ((∀ a ∈ more, a.IsInert ds.dashboard text) →
        (ds.declareAll more).dashboard.resolve scope rendering text =
          ds.dashboard.resolve scope rendering text) ∧
      ∀ before r after value, IsSegmentation text (before ++ .reference r :: after) →
        ds.dashboard.valueOf scope r.name = some value →
          (ds.declareAll more).dashboard.resolve scope rendering text =
            String.join (before.map
                ((ds.declareAll more).dashboard.resolveSegment scope rendering)) ++
              ((r.format.bind Rendering.ofName?).getD rendering).write value ++
                String.join (after.map
                  ((ds.declareAll more).dashboard.resolveSegment scope rendering)) := by
  refine ⟨fun h => measurementType_declareAll h more, ?_⟩
  intro scope rendering text
  have hfixed : (∀ name ∈ referencedNames text, ds.dashboard.Fixes scope more name) →
      (ds.declareAll more).dashboard.resolve scope rendering text =
        ds.dashboard.resolve scope rendering text := by
    intro h
    exact Dashboard.resolve_congr fun name hname => Dashboard.valueOf_declareAll (h name hname)
  refine ⟨hfixed, ?_, ?_⟩
  · intro h
    exact hfixed fun name hname => Dashboard.fixes_of_isInert h hname
  · intro before r after value hsegs hvalue
    have hkept : (ds.declareAll more).dashboard.valueOf scope r.name = some value :=
      (Dashboard.valueOf_declareAll (Dashboard.fixes_of_valueOf hvalue)).trans hvalue
    exact Dashboard.resolve_of_isSegmentation hsegs hkept

/-- A data source of a dashboard with a measurement type, a device whose name reads like a
reference, and a site that has not been chosen yet. -/
def deviceSource : Datasource where
  name := "flows"
  dashboard := {
    declarations := [.adhoc "interface", .custom "device" (.single "$rack"),
      ⟨"site", Variable.defaultKind, none⟩]
    filters := [⟨"role", "=", "core"⟩] }

/-- Another measurement type, the rack that the device's name reads like, another device, the site
that was not chosen, and another filter. -/
def deviceAdditions : List Addition :=
  [.ofVariable (.adhoc "circuit"), .ofVariable (.custom "rack" (.single "r7")),
    .ofVariable (.custom "device" (.single "other")),
    .ofVariable (.custom "site" (.single "north")), .ofFilter ⟨"state", "=", "up"⟩]

theorem declareAll_preserves_deviceSource :
    (deviceSource.declareAll deviceAdditions).measurementType = deviceSource.measurementType ∧
    (deviceSource.declareAll deviceAdditions).dashboard.resolve [("port", .single "p1")] .glob
        "$device:$port@${site} $unit" =
      deviceSource.dashboard.resolve [("port", .single "p1")] .glob
        "$device:$port@${site} $unit" ∧
    (deviceSource.declareAll deviceAdditions).dashboard.resolve [] .regex "${site}" =
      deviceSource.dashboard.resolve [] .regex "${site}" ∧
    (deviceSource.declareAll deviceAdditions).dashboard.resolve [] .glob "<$device>" =
      "<$rack>" := by
  refine ⟨?_, ?_, ?_, ?_⟩
  · exact (declareAll_preserves deviceSource deviceAdditions).1 ⟨.adhoc "interface", by decide⟩
  · refine ((declareAll_preserves deviceSource deviceAdditions).2 _ _ _).1 ?_
    have hnames : referencedNames "$device:$port@${site} $unit" =
        ["device", "port", "site", "unit"] := by decide +kernel
    have hunit : ∀ v, .ofVariable v ∈ deviceAdditions → v.isAdhoc = false → v.name ≠ "unit" := by
      simp [deviceAdditions, Variable.adhoc, Variable.custom]
    rw [hnames]
    simp only [List.forall_mem_cons, List.not_mem_nil, false_implies, implies_true, and_true]
    exact ⟨.inr (.inl (by decide)), .inl (by decide), .inr (.inl (by decide)), .inr (.inr hunit)⟩
  · refine ((declareAll_preserves deviceSource deviceAdditions).2 _ _ _).2.1 ?_
    simp only [deviceAdditions, List.forall_mem_cons, List.not_mem_nil, false_implies, implies_true,
      and_true, Addition.IsInert]
    exact ⟨.inl (by decide), .inr (.inr (by decide +kernel)), .inr (.inl (by decide)),
      .inr (.inl (by decide))⟩
  · refine (((declareAll_preserves deviceSource deviceAdditions).2 [] .glob "<$device>").2.2
      [.literal "<"] (.bare "device") [.literal ">"] (.single "$rack") ?_ (by decide)).trans
        (by decide +kernel)
    exact (isSegmentation_iff_eq_segments _ _).2 (by decide +kernel)

end Datasource
end PanelQuery
