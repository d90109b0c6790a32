import PanelQuery.Proofs.FirstFault
import PanelQuery.Proofs.Target.AggregationLists
import PanelQuery.Proofs.Target.OperatorLists

/-!
# Targets - faults of editor rows

The lists of an editor row can be wrong at many places at once.  The places have a fixed order: the
lengths of the aggregation lists, the ranks, the length of the list of group operators, and then,
group by group, its operator, the length of its own list, and the operators of its conditions.
Folding the row stops at the first of them.

Main results:

- `EditorRow.mem_places_of_hasFault`: a fault lies at one of the places of its row.
- `EditorRow.reportsFirst_toTarget`: folding a row fails with the first of its faults.
-/

namespace PanelQuery
namespace Target

open Text

/-! ## Faults of entries -/

/-- The entry that an operator list has for a sibling behind the first: at its own position where
there is an entry for every sibling, and at the one before where there is none for the first. -/
inductive IsEntryOf (operators : List (Option String)) (siblings index : Nat) :
    Option String → Prop
  | aligned {entry : Option String} (hlater : 1 ≤ index) (hlength : operators.length = siblings)
      (hentry : operators[index]? = some entry) : IsEntryOf operators siblings index entry
  | compact {entry : Option String} (hlater : 1 ≤ index)
      (hlength : operators.length + 1 = siblings) (hentry : operators[index - 1]? = some entry) :
      IsEntryOf operators siblings index entry

/-- The entry for a sibling names no connective, with its text; null has the empty one. -/
def NamesNone (operators : List (Option String)) (siblings index : Nat) (text : String) : Prop :=
  ∃ entry, IsEntryOf operators siblings index entry ∧
    (∀ c : Connective, ¬ c.IsNamedBy entry) ∧ entry.getD "" = text

theorem NamesNone.lt {operators : List (Option String)} {siblings index : Nat} {text : String}
    (h : NamesNone operators siblings index text) : index < siblings := by
  obtain ⟨entry, ⟨hlater, hlength, hentry⟩ | ⟨hlater, hlength, hentry⟩, -⟩ := h
  · have hlt := (List.getElem?_eq_some_iff.1 hentry).1
    omega
  · have hlt := (List.getElem?_eq_some_iff.1 hentry).1
    omega

section

variable {operators : List (Option String)} {list : AlignedList}
  {found siblings shift index : Nat} {fault : Fault}

theorem operatorShift_eq_error_iff :
    operatorShift list found siblings = .error fault ↔
      ¬ LinesUp found siblings ∧ .misaligned list found siblings = fault := by
  unfold operatorShift LinesUp
  split
  · rename_i hsame
    simp only [reduceCtorEq, false_iff]
    rintro ⟨hline, -⟩
    exact hline (by omega)
  · split
    · simp only [reduceCtorEq, false_iff]
      rintro ⟨hline, -⟩
      exact hline (by omega)
    · rw [Except.error.injEq, iff_and_self]
      intro _ hline
      omega

theorem connectiveOf_eq_error_iff {entry : Option String} :
    connectiveOf (some entry) = .error fault ↔
      (∀ c : Connective, ¬ c.IsNamedBy entry) ∧ .unknownOperator (entry.getD "") = fault := by
  have hnamed : ∀ c : Connective, c.IsNamedBy entry ↔ connectiveOf (some entry) = .ok c := by
    intro c
    simp [connectiveOf_eq_ok_iff]
  simp only [hnamed, connectiveOf, Option.join_some]
  cases Connective.ofText? (entry.getD "") <;> simp

/-- A later sibling has the entry that lies before it by the shift of its list. -/
theorem isEntryOf_iff (h : operatorShift list operators.length siblings = .ok shift)
    (hlater : 1 ≤ index) (hindex : index < siblings) {entry : Option String} :
    IsEntryOf operators siblings index entry ↔ operators[index - shift]? = some entry := by
  rw [operatorShift_eq_ok_iff] at h
  constructor
  · rintro (⟨-, hlength, hentry⟩ | ⟨-, hlength, hentry⟩)
    · obtain rfl : shift = 0 := by omega
      exact hentry
    · obtain rfl : shift = 1 := by omega
      exact hentry
  · intro hentry
    rcases h with ⟨hsame, rfl⟩ | ⟨-, hlength, rfl⟩
    · exact .aligned hlater (by omega) hentry
    · exact .compact hlater hlength hentry

/-- The connective at an index is missing where its entry names none. -/
theorem connectiveAt_eq_error_iff
    (h : operatorShift list operators.length siblings = .ok shift) (hindex : index < siblings) :
    connectiveAt operators shift index = .error fault ↔
      ∃ text, NamesNone operators siblings index text ∧ .unknownOperator text = fault := by
  unfold connectiveAt
  by_cases hfirst : index = 0
  · rw [if_pos hfirst]
    simp only [reduceCtorEq, false_iff]
    rintro ⟨text, ⟨entry, ⟨hlater, -⟩ | ⟨hlater, -⟩, -⟩, -⟩
    · omega
    · omega
  · have hlater : 1 ≤ index := Nat.one_le_iff_ne_zero.2 hfirst
    obtain ⟨-, hlt⟩ := lookup_lt_of_operatorShift h hlater hindex
    have hentry := List.getElem?_eq_getElem hlt
    rw [if_neg hfirst, hentry, connectiveOf_eq_error_iff]
    simp only [NamesNone, isEntryOf_iff h hlater hindex, hentry, Option.some.injEq]
    constructor
    · rintro ⟨hnone, hfault⟩
      exact ⟨_, ⟨_, rfl, hnone, rfl⟩, hfault⟩
    · rintro ⟨text, ⟨entry, rfl, hnone, rfl⟩, hfault⟩
      exact ⟨hnone, hfault⟩

theorem bind_rankOf?_eq_none_iff {rank : Option Json} :
    rank.bind rankOf? = none ↔ ∀ v text, rank = some v → ¬ StatesRank v text := by
  simp only [Option.eq_none_iff_forall_ne_some, ne_eq, Option.bind_eq_some_iff,
    rankOf?_eq_some_iff, not_exists, not_and]
  exact forall_comm

/-- A function lacks its rank where the entry for it states none. -/
theorem aggregatorOf_eq_error_iff {name : String} {rank : Option Json} :
    aggregatorOf index name rank = .error fault ↔
      name = "percentile" ∧ (∀ v text, rank = some v → ¬ StatesRank v text) ∧
        .missingRank index = fault := by
  rw [← bind_rankOf?_eq_none_iff]
  unfold aggregatorOf
  by_cases hname : name = percentileName
  · rw [if_pos hname]
    cases rank.bind rankOf? <;> simp [hname, percentileName]
  · rw [if_neg hname]
    simp only [reduceCtorEq, false_iff]
    rintro ⟨hpercentile, -⟩
    exact hname hpercentile

end

/-! ## Places of a row -/

/-- Where a row can be wrong. -/
inductive Place where
  /-- The list of the aggregating functions. -/
  | functions
  /-- The list of the labels. -/
  | labels
  /-- The rank of an aggregation. -/
  | rank (index : Nat)
  /-- The list of the operators of the groups. -/
  | groupOperators
  /-- The operator of a group. -/
  | groupOperator (group : Nat)
  /-- The list of the operators of a group's conditions. -/
  | conditionOperators (group : Nat)
  /-- The operator before a condition. -/
  | connective (group condition : Nat)
  /-- The operator within a condition. -/
  | comparison (group condition : Nat)

/-- The places of a group with some conditions. -/
def groupPlaces (group conditions : Nat) : List Place :=
  [.groupOperator group, .conditionOperators group] ++
    (List.range conditions).flatMap fun c => [.connective group c, .comparison group c]

namespace EditorRow

/-- The places of a row, in the order in which it is folded. -/
def places (row : EditorRow) : List Place :=
  [.functions, .labels] ++ (List.range row.aggregators.length).map .rank ++ [.groupOperators] ++
    row.groups.zipIdx.flatMap fun e => groupPlaces e.2 e.1.length

/-- What is wrong at a place of a row, whatever is wrong elsewhere. -/
def HasFault (row : EditorRow) : Place → Fault → Prop
  | .functions, fault =>
    row.aggregators.length ≠ row.valueFields.length ∧
      .misaligned .aggregators row.aggregators.length row.valueFields.length = fault
  | .labels, fault =>
    row.valueFields.length < row.labels.length ∧
      .misaligned .labels row.labels.length row.valueFields.length = fault
  | .rank i, fault =>
    row.aggregators[i]? = some "percentile" ∧
      (∀ v text, row.ranks[i]? = some v → ¬ StatesRank v text) ∧ .missingRank i = fault
  | .groupOperators, fault =>
    ¬ LinesUp row.groupOperators.length row.groups.length ∧
      .misaligned .groupOperators row.groupOperators.length row.groups.length = fault
  | .groupOperator g, fault =>
    ∃ text, NamesNone row.groupOperators row.groups.length g text ∧ .unknownOperator text = fault
  | .conditionOperators g, fault =>
    ∃ entries, row.groups[g]? = some entries ∧
      ¬ LinesUp (row.operatorsOf g).length entries.length ∧
        .misaligned .conditionOperators (row.operatorsOf g).length entries.length = fault
  | .connective g c, fault =>
    ∃ entries, row.groups[g]? = some entries ∧
      ∃ text, NamesNone (row.operatorsOf g) entries.length c text ∧ .unknownOperator text = fault
  | .comparison g c, fault =>
    ∃ entries entry, row.groups[g]? = some entries ∧ entries[c]? = some entry ∧
      (∀ sign : Comparison, trimmed entry.op ≠ sign.write) ∧ .unknownOperator entry.op = fault

variable {row : EditorRow}

theorem mem_groupPlaces_iff {place : Place} {g n : Nat} :
    place ∈ groupPlaces g n ↔ place = .groupOperator g ∨ place = .conditionOperators g ∨
      ∃ c < n, place = .connective g c ∨ place = .comparison g c := by
  simp [groupPlaces, List.mem_flatMap, List.mem_range]

/-- A fault lies at one of the places of its row. -/
theorem mem_places_of_hasFault {place : Place} {fault : Fault} (h : row.HasFault place fault) :
    place ∈ row.places := by
  have hgroup : ∀ g entries, row.groups[g]? = some entries →
      ∀ p ∈ groupPlaces g entries.length, p ∈ row.places := by
    intro g entries hentries p hp
    refine List.mem_append_right _ (List.mem_flatMap.2 ⟨(entries, g), ?_, hp⟩)
    exact List.mk_mem_zipIdx_iff_getElem?.2 hentries
  cases place with
  | functions => simp [places]
  | labels => simp [places]
  | rank i =>
      obtain ⟨hi, -⟩ := List.getElem?_eq_some_iff.1 h.1
      simp [places, hi]
  | groupOperators => simp [places]
  | groupOperator g =>
      obtain ⟨text, hnone, -⟩ := h
      have hentries := List.getElem?_eq_getElem hnone.lt
      exact hgroup g _ hentries _ (mem_groupPlaces_iff.2 (.inl rfl))
  | conditionOperators g =>
      obtain ⟨entries, hentries, -⟩ := h
      exact hgroup g entries hentries _ (mem_groupPlaces_iff.2 (.inr (.inl rfl)))
  | connective g c =>
      obtain ⟨entries, hentries, text, hnone, -⟩ := h
      exact hgroup g entries hentries _
        (mem_groupPlaces_iff.2 (.inr (.inr ⟨c, hnone.lt, .inl rfl⟩)))
  | comparison g c =>
      obtain ⟨entries, entry, hentries, hentry, -⟩ := h
      obtain ⟨hc, -⟩ := List.getElem?_eq_some_iff.1 hentry
      exact hgroup g entries hentries _ (mem_groupPlaces_iff.2 (.inr (.inr ⟨c, hc, .inr rfl⟩)))

/-! ## Folding a row -/

theorem reportsFirst_aggregationsFrom {index : Nat} {fields names : List String}
    (hlength : names.length = fields.length)
    (hnames : ∀ i, names[i]? = row.aggregators[index + i]?) :
    ReportsFirst row.HasFault ((List.range' index names.length).map .rank)
      (aggregationsFrom index row.ranks row.labels fields names) := by
  induction fields generalizing index names with
  | nil =>
      obtain rfl := List.length_eq_zero_iff.1 hlength
      exact .ok []
  | cons field fields ih =>
      cases names with
      | nil => cases hlength
      | cons name names =>
          have hname : row.aggregators[index]? = some name := (hnames 0).symm
          have hfirst : ReportsFirst row.HasFault [.rank index]
              (aggregatorOf index name row.ranks[index]?) := by
            refine .single fun fault => ?_
            simp [aggregatorOf_eq_error_iff, HasFault, hname]
          have hrest : ReportsFirst row.HasFault ((List.range' (index + 1) names.length).map .rank)
              (aggregationsFrom (index + 1) row.ranks row.labels fields names) := by
            refine ih (Nat.succ.inj hlength) fun i => ?_
            rw [Nat.add_right_comm, Nat.add_assoc]
            exact hnames (i + 1)
          exact hfirst.bind fun _ _ => hrest.bind_pure

theorem reportsFirst_toAggregations (row : EditorRow) :
    ReportsFirst row.HasFault
      ([.functions, .labels] ++ (List.range row.aggregators.length).map .rank)
        row.toAggregations := by
  refine .guard (fun _ => Iff.rfl) fun hfunctions => .guard (fun _ => Iff.rfl) fun _ => ?_
  rw [List.range_eq_range']
  exact reportsFirst_aggregationsFrom (not_not.1 hfunctions) fun i => by rw [Nat.zero_add]

section

variable {g shift : Nat} {entries : List EditorCondition}

theorem reportsFirst_conditionsFrom (hgroup : row.groups[g]? = some entries)
    (hshift : operatorShift .conditionOperators (row.operatorsOf g).length entries.length =
      .ok shift) (before : List EditorCondition) {rest : List EditorCondition}
    (hentries : before ++ rest = entries) :
    ReportsFirst row.HasFault
      ((List.range' before.length rest.length).flatMap fun c => [.connective g c, .comparison g c])
        (conditionsFrom (row.operatorsOf g) shift before.length rest) := by
  induction rest generalizing before with
  | nil => exact .ok []
  | cons e rest ih =>
      have hentry : entries[before.length]? = some e := by simp [← hentries]
      have hindex : before.length < entries.length := (List.getElem?_eq_some_iff.1 hentry).1
      have hconnective : ReportsFirst row.HasFault [.connective g before.length]
          (connectiveAt (row.operatorsOf g) shift before.length) := by
        refine .single fun fault => ?_
        simp [connectiveAt_eq_error_iff hshift hindex, HasFault, hgroup]
      have hrest := ih (before ++ [e]) (by simpa using hentries)
      rw [List.length_append, List.length_singleton] at hrest
      have hcomparison : ∀ fault, row.HasFault (.comparison g before.length) fault ↔
          (∀ sign : Comparison, Comparison.ofText? e.op ≠ some sign) ∧
            .unknownOperator e.op = fault := by
        intro fault
        simp [HasFault, hgroup, hentry, Comparison.ofText?_eq_some_iff]
      refine hconnective.bind fun connective _ => ?_
      cases hsign : Comparison.ofText? e.op with
      | none => exact .stop fun fault => by simp [hcomparison, hsign]
      | some sign => exact .pass (fun fault => by simp [hcomparison, hsign]) hrest.bind_pure

/-- The conditions of a group are folded after the length of their operator list is checked. -/
theorem reportsFirst_foldConditions (hgroup : row.groups[g]? = some entries) :
    ReportsFirst row.HasFault
      ([.conditionOperators g] ++
        (List.range entries.length).flatMap fun c => [.connective g c, .comparison g c])
          (foldConditions (row.operatorsOf g) entries) := by
  have hshift : ReportsFirst row.HasFault [.conditionOperators g]
      (operatorShift .conditionOperators (row.operatorsOf g).length entries.length) := by
    refine .single fun fault => ?_
    simp [operatorShift_eq_error_iff, HasFault, hgroup]
  refine hshift.bind fun shift hok => ?_
  rw [List.range_eq_range']
  exact reportsFirst_conditionsFrom hgroup hok [] rfl

theorem reportsFirst_groupsFrom
    (hshift : operatorShift .groupOperators row.groupOperators.length row.groups.length =
      .ok shift) (before : List (List EditorCondition)) {rest : List (List EditorCondition)}
    (hgroups : before ++ rest = row.groups) :
    ReportsFirst row.HasFault
      ((rest.zipIdx before.length).flatMap fun e => groupPlaces e.2 e.1.length)
        (groupsFrom row.groupOperators shift row.conditionOperators before.length rest) := by
  induction rest generalizing before with
  | nil => exact .ok []
  | cons entries rest ih =>
      have hgroup : row.groups[before.length]? = some entries := by simp [← hgroups]
      have hindex : before.length < row.groups.length := (List.getElem?_eq_some_iff.1 hgroup).1
      have hoperator : ReportsFirst row.HasFault [.groupOperator before.length]
          (connectiveAt row.groupOperators shift before.length) := by
        refine .single fun fault => ?_
        simp [connectiveAt_eq_error_iff hshift hindex, HasFault]
      have hrest := ih (before ++ [entries]) (by simpa using hgroups)
      rw [List.length_append, List.length_singleton] at hrest
      rw [List.zipIdx_cons, List.flatMap_cons, groupsFrom_cons]
      exact hoperator.bind fun _ _ =>
        (reportsFirst_foldConditions hgroup).bind fun _ _ => hrest.bind_pure

end

theorem reportsFirst_toGroups (row : EditorRow) :
    ReportsFirst row.HasFault
      ([.groupOperators] ++ row.groups.zipIdx.flatMap fun e => groupPlaces e.2 e.1.length)
        row.toGroups := by
  have hshift : ReportsFirst row.HasFault [.groupOperators]
      (operatorShift .groupOperators row.groupOperators.length row.groups.length) := by
    refine .single fun fault => ?_
    simp [operatorShift_eq_error_iff, HasFault]
  exact hshift.bind fun _ hok => reportsFirst_groupsFrom hok [] rfl

/-- Folding a row fails with the first of its faults. -/
theorem reportsFirst_toTarget (row : EditorRow) :
    ReportsFirst row.HasFault row.places row.toTarget := by
  rw [places, List.append_assoc]
  exact row.reportsFirst_toAggregations.bind fun _ _ => row.reportsFirst_toGroups.bind_pure

theorem exists_toTarget_error_iff (row : EditorRow) :
    (∃ fault, row.toTarget = .error fault) ↔ ∃ place fault, row.HasFault place fault := by
  rw [row.reportsFirst_toTarget.exists_error_iff]
  constructor
  · rintro ⟨place, -, fault, hfault⟩
    exact ⟨place, fault, hfault⟩
  · rintro ⟨place, fault, hfault⟩
    exact ⟨place, mem_places_of_hasFault hfault, fault, hfault⟩

end EditorRow

end Target
end PanelQuery
