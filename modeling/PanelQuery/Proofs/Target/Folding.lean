import PanelQuery.Proofs.Json.Decoder
import PanelQuery.Target.Document

/-!
# Targets - parallel lists and records

The lists of an editor row are folded into records entry by entry.  Each fold is inverted here: what
one step needs in order to succeed, what every outcome satisfies, and which lists fold into given
records.

Main results:

- `isStatable_of_aggregationsFrom`, `joinedByAnd_of_groupsFrom` and
  `joinedByAnd_conditions_of_groupsFrom`: what every outcome of a fold satisfies.
- `aggregationsFrom_entries` and `groupsFrom_entries`: records fold back from their own entries.
-/

namespace PanelQuery

/-! ## Written numbers -/

namespace Decimal

theorem positional_ne_nil {digits : List Char} (h : digits ≠ []) (place : Int) (showsPoint : Bool) :
    positional digits place showsPoint ≠ [] := by
  unfold positional
  split
  · simp
  · simp only
    split <;> simp [h]

theorem scientific_ne_nil (digits : List Char) (place : Int) : scientific digits place ≠ [] := by
  simp [scientific]

theorem Layout.write_ne_empty (layout : Layout) (x : Binary64) : layout.write x ≠ "" := by
  intro h
  have hbody : ∀ digits place, digits ≠ [] →
      (if layout.isPositional place then positional digits place layout.showsPoint
        else scientific digits place) ≠ [] := by
    intro digits place hdigits
    split
    · exact positional_ne_nil hdigits place layout.showsPoint
    · exact scientific_ne_nil digits place
  have hnil := congrArg String.toList h
  simp only [write, String.toList_ofList, String.toList_empty] at hnil
  exact hbody _ _ Nat.toDigits_ne_nil (List.append_eq_nil_iff.1 hnil).2

end Decimal

theorem Json.Number.write_ne_empty (n : Json.Number) : n.write ≠ "" := by
  cases n with
  | integer i =>
      intro h
      have hlist : (toString i).toList = [] := congrArg String.toList h
      cases i <;> simp [toString, Int.repr] at hlist
  | float x => exact Decimal.Layout.json.write_ne_empty x

namespace Target

/-! ## Aggregations -/

/-- An aggregating function that the editor's lists can state: the one that takes a rank has one,
and no other has its name. -/
def Aggregator.IsStatable : Aggregator → Prop
  | .percentile rank => rank ≠ ""
  | .named name => name ≠ percentileName

/-- The name of an aggregating function in the editor's lists. -/
def Aggregator.entryName : Aggregator → String
  | .percentile _ => percentileName
  | .named name => name

/-- The rank of an aggregating function in the editor's lists. -/
def Aggregator.entryRank : Aggregator → Json
  | .percentile rank => .string rank
  | .named _ => .null

theorem ne_empty_of_rankOf? {v : Json} {text : String} (h : rankOf? v = some text) :
    text ≠ "" := by
  cases v with
  | string s =>
      by_cases hs : s = ""
      · simp [rankOf?, hs] at h
      · obtain rfl : s = text := by simpa [rankOf?, hs] using h
        exact hs
  | number n =>
      obtain rfl : n.write = text := by simpa [rankOf?] using h
      exact n.write_ne_empty
  | null => simp [rankOf?] at h
  | bool b => simp [rankOf?] at h
  | array items => simp [rankOf?] at h
  | object members => simp [rankOf?] at h

theorem isStatable_of_aggregatorOf {index : Nat} {name : String} {rank : Option Json}
    {a : Aggregator} (h : aggregatorOf index name rank = .ok a) : a.IsStatable := by
  unfold aggregatorOf at h
  split at h
  · split at h
    · rename_i text hrank
      obtain ⟨v, -, hv⟩ := Option.bind_eq_some_iff.1 hrank
      cases h
      exact ne_empty_of_rankOf? hv
    · cases h
  · rename_i hname
    cases h
    exact hname

theorem aggregatorOf_entries {a : Aggregator} (h : a.IsStatable) (index : Nat) :
    aggregatorOf index a.entryName (some a.entryRank) = .ok a := by
  cases a with
  | percentile rank =>
      have hrank : rankOf? (.string rank) = some rank := if_neg h
      simp [aggregatorOf, Aggregator.entryName, Aggregator.entryRank, hrank]
  | named name => exact if_neg h

theorem aggregationsFrom_cons_eq_ok_iff {index : Nat} {ranks : List Json}
    {labels : List (Option String)} {field name : String} {fields names : List String}
    {as : List Aggregation} :
    aggregationsFrom index ranks labels (field :: fields) (name :: names) = .ok as ↔
      ∃ aggregator, aggregatorOf index name ranks[index]? = .ok aggregator ∧
        ∃ rest, aggregationsFrom (index + 1) ranks labels fields names = .ok rest ∧
          ⟨field, aggregator, (labels[index]?.join).getD ""⟩ :: rest = as := by
  simp only [aggregationsFrom, bind_eq_ok_iff, pure_eq_ok_iff]

/-- Whatever the lists hold, the functions that they fold into can be stated. -/
theorem isStatable_of_aggregationsFrom {index : Nat} {ranks : List Json}
    {labels : List (Option String)} {fields names : List String} {as : List Aggregation}
    (h : aggregationsFrom index ranks labels fields names = .ok as) :
    ∀ a ∈ as, a.aggregator.IsStatable := by
  induction fields generalizing index names as with
  | nil =>
      cases h
      simp
  | cons field fields ih =>
      cases names with
      | nil =>
          cases h
          simp
      | cons name names =>
          obtain ⟨aggregator, haggregator, rest, hrest, rfl⟩ :=
            aggregationsFrom_cons_eq_ok_iff.1 h
          intro a ha
          rcases List.mem_cons.1 ha with rfl | hmem
          · exact isStatable_of_aggregatorOf haggregator
          · exact ih hrest a hmem

/-- Aggregations fold back from their own entries, behind those of the aggregations before. -/
theorem aggregationsFrom_entries (before : List Aggregation) {as : List Aggregation}
    (h : ∀ a ∈ as, a.aggregator.IsStatable) :
    aggregationsFrom before.length ((before ++ as).map (·.aggregator.entryRank))
      ((before ++ as).map (some ·.label)) (as.map (·.field)) (as.map (·.aggregator.entryName)) =
        .ok as := by
  induction as generalizing before with
  | nil => simp [aggregationsFrom]
  | cons a as ih =>
      have hrest := ih (before ++ [a]) fun b hb => h b (List.mem_cons_of_mem a hb)
      rw [List.append_assoc, List.singleton_append, List.length_append, List.length_singleton]
        at hrest
      refine aggregationsFrom_cons_eq_ok_iff.2 ⟨a.aggregator, ?_, as, hrest, ?_⟩
      · simpa using aggregatorOf_entries (h a List.mem_cons_self) before.length
      · simp

/-! ## Conditions and groups -/

/-- Records in a row of which the first is joined by `and`: it has nothing before it. -/
def JoinedByAnd {α : Type} (connective : α → Connective) (records : List α) : Prop :=
  ∀ r ∈ records.head?, connective r = .and

/-- The entry of a connective states it, at whatever position but the first. -/
theorem connectiveAt_entry {operators : List (Option String)} {index : Nat} {c : Connective}
    (hentry : operators[index]? = some (some c.write)) (hfirst : index = 0 → c = .and) :
    connectiveAt operators 0 index = .ok c := by
  unfold connectiveAt
  split
  · rename_i hindex
    rw [hfirst hindex]
  · simp [connectiveOf, hentry, Connective.ofText?_write]

theorem conditionsFrom_cons_eq_ok_iff {operators : List (Option String)} {shift index : Nat}
    {c : EditorCondition} {rest : List EditorCondition} {cs : List Condition} :
    conditionsFrom operators shift index (c :: rest) = .ok cs ↔
      ∃ connective, connectiveAt operators shift index = .ok connective ∧
        ∃ comparison, Comparison.ofText? c.op = some comparison ∧
          ∃ others, conditionsFrom operators shift (index + 1) rest = .ok others ∧
            ⟨connective, c.left, comparison, c.right⟩ :: others = cs := by
  simp only [conditionsFrom, bind_eq_ok_iff]
  refine exists_congr fun connective => and_congr_right fun _ => ?_
  cases Comparison.ofText? c.op with
  | none => simp [throw, throwThe, MonadExceptOf.throw]
  | some comparison =>
      simp only [bind_eq_ok_iff, pure_eq_ok_iff, Option.some.injEq, exists_eq_left']

theorem groupsFrom_cons_eq_ok_iff {operators : List (Option String)} {shift index : Nat}
    {conditionOperators : List (List (Option String))} {conditions : List EditorCondition}
    {rest : List (List EditorCondition)} {gs : List Group} :
    groupsFrom operators shift conditionOperators index (conditions :: rest) = .ok gs ↔
      ∃ operator, connectiveAt operators shift index = .ok operator ∧
        ∃ innerShift, operatorShift .conditionOperators
            (conditionOperators[index]?.getD []).length conditions.length = .ok innerShift ∧
          ∃ folded, conditionsFrom (conditionOperators[index]?.getD []) innerShift 0 conditions =
              .ok folded ∧
            ∃ others, groupsFrom operators shift conditionOperators (index + 1) rest = .ok others ∧
              ⟨operator, folded⟩ :: others = gs := by
  simp only [groupsFrom, bind_eq_ok_iff, pure_eq_ok_iff]

theorem joinedByAnd_of_conditionsFrom {operators : List (Option String)} {shift : Nat}
    {conditions : List EditorCondition} {cs : List Condition}
    (h : conditionsFrom operators shift 0 conditions = .ok cs) :
    JoinedByAnd Condition.connective cs := by
  cases conditions with
  | nil =>
      cases h
      simp [JoinedByAnd]
  | cons c conditions =>
      obtain ⟨connective, hconnective, comparison, -, others, -, rfl⟩ :=
        conditionsFrom_cons_eq_ok_iff.1 h
      cases hconnective
      simp [JoinedByAnd]

theorem joinedByAnd_of_groupsFrom {operators : List (Option String)} {shift : Nat}
    {conditionOperators : List (List (Option String))} {groups : List (List EditorCondition)}
    {gs : List Group} (h : groupsFrom operators shift conditionOperators 0 groups = .ok gs) :
    JoinedByAnd Group.operator gs := by
  cases groups with
  | nil =>
      cases h
      simp [JoinedByAnd]
  | cons conditions groups =>
      obtain ⟨operator, hoperator, _, -, folded, -, others, -, rfl⟩ :=
        groupsFrom_cons_eq_ok_iff.1 h
      cases hoperator
      simp [JoinedByAnd]

theorem joinedByAnd_conditions_of_groupsFrom {operators : List (Option String)} {shift index : Nat}
    {conditionOperators : List (List (Option String))} {groups : List (List EditorCondition)}
    {gs : List Group} (h : groupsFrom operators shift conditionOperators index groups = .ok gs) :
    ∀ g ∈ gs, JoinedByAnd Condition.connective g.conditions := by
  induction groups generalizing index gs with
  | nil =>
      cases h
      simp
  | cons conditions groups ih =>
      obtain ⟨operator, -, _, -, folded, hfolded, others, hothers, rfl⟩ :=
        groupsFrom_cons_eq_ok_iff.1 h
      intro g hg
      rcases List.mem_cons.1 hg with rfl | hmem
      · exact joinedByAnd_of_conditionsFrom hfolded
      · exact ih hothers g hmem

/-- A condition as the editor keeps it. -/
def Condition.toEditor (c : Condition) : EditorCondition :=
  ⟨c.left, c.comparison.write, c.right⟩

/-- The operators of conditions as the editor keeps them, with a slot for each. -/
def Group.entryOperators (g : Group) : List (Option String) :=
  g.conditions.map (some ·.connective.write)

theorem operatorShift_self (list : AlignedList) (n : Nat) : operatorShift list n n = .ok 0 :=
  if_pos (.inr rfl)

/-- Conditions fold back from their own entries, behind those of the conditions before. -/
theorem conditionsFrom_entries (before : List Condition) {cs : List Condition}
    (hfirst : JoinedByAnd Condition.connective (before ++ cs)) :
    conditionsFrom ((before ++ cs).map (some ·.connective.write)) 0 before.length
      (cs.map Condition.toEditor) = .ok cs := by
  induction cs generalizing before with
  | nil => simp [conditionsFrom]
  | cons c cs ih =>
      have hrest := ih (before ++ [c]) (by simpa using hfirst)
      rw [List.append_assoc, List.singleton_append, List.length_append, List.length_singleton]
        at hrest
      refine conditionsFrom_cons_eq_ok_iff.2
        ⟨c.connective, ?_, c.comparison, Comparison.ofText?_write _, cs, hrest, rfl⟩
      refine connectiveAt_entry (by simp) fun hlength => ?_
      obtain rfl : before = [] := List.length_eq_zero_iff.1 hlength
      exact hfirst c rfl

/-- Groups fold back from their own entries, behind those of the groups before. -/
theorem groupsFrom_entries (before : List Group) {gs : List Group}
    (hfirst : JoinedByAnd Group.operator (before ++ gs))
    (hconditions : ∀ g ∈ gs, JoinedByAnd Condition.connective g.conditions) :
    groupsFrom ((before ++ gs).map (some ·.operator.write)) 0
      ((before ++ gs).map Group.entryOperators) before.length
      (gs.map (·.conditions.map Condition.toEditor)) = .ok gs := by
  induction gs generalizing before with
  | nil => simp [groupsFrom]
  | cons g gs ih =>
      have hrest := ih (before ++ [g]) (by simpa using hfirst)
        fun h hh => hconditions h (List.mem_cons_of_mem g hh)
      rw [List.append_assoc, List.singleton_append, List.length_append, List.length_singleton]
        at hrest
      have hinner : ((before ++ g :: gs).map Group.entryOperators)[before.length]?.getD [] =
          g.entryOperators := by simp
      refine groupsFrom_cons_eq_ok_iff.2 ⟨g.operator, ?_, 0, ?_, g.conditions, ?_, gs, hrest, rfl⟩
      · refine connectiveAt_entry (by simp) fun hlength => ?_
        obtain rfl : before = [] := List.length_eq_zero_iff.1 hlength
        exact hfirst g rfl
      · rw [hinner, Group.entryOperators, List.length_map, List.length_map, operatorShift_self]
      · rw [hinner]
        exact conditionsFrom_entries [] (hconditions g List.mem_cons_self)

end Target
end PanelQuery
