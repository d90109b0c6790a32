import PanelQuery.Proofs.Target.OperatorLists

/-!
# Targets - operators that nothing asks for

An operator list for two siblings or more has to line up with them.  A list for a single sibling or
for none is not looked at, and neither are lists of conditions' operators behind the last group.  So
a document may be read although it has more operators than there are siblings for them; what these
operators are then makes no difference.

Main results:

- `EditorRow.OperatorsLineUp.operatorsFit_iff`: where lists that line up may be too long.
- `decode_operatorsFit_iff`: when a document that is read has no operators left over, and that it
  does not matter what those left over are.
- `surplus_operators_discarded`: a document with operators left over is read.
-/

namespace PanelQuery
namespace Target

/-! ## Lists that are not looked at -/

section

variable {operators operators' : List (Option String)} {siblings index : Nat}

/-- The list for a single sibling may hold anything: that sibling is joined to nothing. -/
theorem Joins.congr {c : Connective} (hindex : index < siblings)
    (hlist : 2 ≤ siblings → operators' = operators) (h : Joins operators siblings index c) :
    Joins operators' siblings index c := by
  by_cases hmany : 2 ≤ siblings
  · rw [hlist hmany]
    exact h
  · exact ⟨h.first, by omega, by omega⟩

theorem LinesUp.congr (hlist : 2 ≤ siblings → operators' = operators)
    (h : LinesUp operators.length siblings) : LinesUp operators'.length siblings := by
  intro hmany
  rw [hlist hmany]
  exact h hmany

theorem ArePaired.congr {entries : List EditorCondition} {cs : List Condition}
    (hlist : 2 ≤ entries.length → operators' = operators) (h : ArePaired operators entries cs) :
    ArePaired operators' entries cs := by
  refine ⟨h.linesUp.congr hlist, h.length, ?_⟩
  intro j e c he hc
  have hj : j < entries.length := (List.getElem?_eq_some_iff.1 he).1
  have hstated := h.condition j e c he hc
  exact ⟨hstated.left, hstated.right, hstated.comparison, hstated.connective.congr hj hlist⟩

/-- A list that lines up is no longer than its siblings are many, unless there are less than two. -/
theorem LinesUp.le_iff {found : Nat} (h : LinesUp found siblings) :
    found ≤ siblings ↔ (siblings ≤ 1 → found ≤ siblings) := by
  constructor
  · intro hle _
    exact hle
  · intro hfew
    by_cases hmany : 2 ≤ siblings
    · have hsame := h hmany
      omega
    · exact hfew (by omega)

end

namespace EditorRow

variable {row : EditorRow}

/-- No operator list of a row has more entries than there are siblings for them, and there are no
more lists for conditions than groups. -/
structure OperatorsFit (row : EditorRow) : Prop where
  groups : row.groupOperators.length ≤ row.groups.length
  lists : row.conditionOperators.length ≤ row.groups.length
  conditions : ∀ (i : Nat) (entries : List EditorCondition), row.groups[i]? = some entries →
    (row.operatorsOf i).length ≤ entries.length

/-- The lists of a row for less than two siblings fit, and so does the list of the lists. -/
structure UnreadOperatorsFit (row : EditorRow) : Prop where
  groups : row.groups.length ≤ 1 → row.groupOperators.length ≤ row.groups.length
  lists : row.conditionOperators.length ≤ row.groups.length
  conditions : ∀ (i : Nat) (entries : List EditorCondition), row.groups[i]? = some entries →
    entries.length ≤ 1 → (row.operatorsOf i).length ≤ entries.length

/-- Operator lists are those of a row wherever there are two siblings or more for them. -/
structure AgreesWhereRead (row : EditorRow) (groupOperators : List (Option String))
    (conditionOperators : List (List (Option String))) : Prop where
  groupOperators : 2 ≤ row.groups.length → groupOperators = row.groupOperators
  conditionOperators : ∀ (i : Nat) (entries : List EditorCondition),
    row.groups[i]? = some entries → 2 ≤ entries.length →
      conditionOperators[i]?.getD [] = row.operatorsOf i

/-- Of lists that line up only those for less than two siblings can be too long, or be too many. -/
theorem OperatorsLineUp.operatorsFit_iff (h : row.OperatorsLineUp) :
    row.OperatorsFit ↔ row.UnreadOperatorsFit := by
  constructor
  · intro hfit
    exact ⟨h.groups.le_iff.1 hfit.groups, hfit.lists,
      fun i entries he => (h.conditions i entries he).le_iff.1 (hfit.conditions i entries he)⟩
  · intro hfit
    exact ⟨h.groups.le_iff.2 hfit.groups, hfit.lists,
      fun i entries he => (h.conditions i entries he).le_iff.2 (hfit.conditions i entries he)⟩

section

variable {groupOperators : List (Option String)} {conditionOperators : List (List (Option String))}

/-- Groups stay paired with a row when lists change that are not looked at. -/
theorem PairsOperators.congr {gs : List Group} (h : row.PairsOperators gs)
    (hagrees : row.AgreesWhereRead groupOperators conditionOperators) :
    ({ row with groupOperators, conditionOperators } : EditorRow).PairsOperators gs := by
  refine ⟨h.linesUp.congr hagrees.groupOperators, h.length, ?_, ?_⟩
  · intro i g hg
    have hi : i < row.groups.length := h.length ▸ (List.getElem?_eq_some_iff.1 hg).1
    exact (h.operator i g hg).congr hi hagrees.groupOperators
  · intro i entries g he hg
    exact (h.conditions i entries g he hg).congr (hagrees.conditionOperators i entries he)

/-- A row gives the same target when lists change that are not looked at. -/
theorem AgreesWhereRead.toTarget_eq_ok {t : Target}
    (hagrees : row.AgreesWhereRead groupOperators conditionOperators) (ht : row.toTarget = .ok t) :
    ({ row with groupOperators, conditionOperators } : EditorRow).toTarget = .ok t := by
  rcases toTarget_eq_ok_iff.1 ht with ⟨as, has, gs, hgs, rfl⟩
  have hpairs := toGroups_eq_ok_iff_pairsOperators.1 hgs
  have hgs' := toGroups_eq_ok_iff_pairsOperators.2 (hpairs.congr hagrees)
  exact toTarget_eq_ok_iff.2 ⟨as, has, gs, hgs', rfl⟩

end

end EditorRow

theorem exists_row_of_decode {document : Json} {t : Target} (h : decode document = .ok t) :
    ∃ row, EditorRow.decode document = .ok row ∧ row.toTarget = .ok t := by
  cases hrow : EditorRow.decode document with
  | ok row =>
      rw [decode_of_row hrow] at h
      exact ⟨row, rfl, h⟩
  | error fault =>
      rw [decode, hrow] at h
      cases h

/-- A document that is read has its operator lists lined up with their siblings wherever there are
two or more.  So no operators are left over exactly if none are in the other lists: in the one of
the groups if there are less than two groups, in those of groups with less than two conditions, and
in lists behind the last group.  Those lists may be exchanged for any others, and the document still
gives the same target. -/
theorem decode_operatorsFit_iff {document : Json} {t : Target} (h : decode document = .ok t) :
    ∃ row, EditorRow.decode document = .ok row ∧ row.OperatorsLineUp ∧
      (row.OperatorsFit ↔ row.UnreadOperatorsFit) ∧
      ∀ document' groupOperators conditionOperators,
        row.AgreesWhereRead groupOperators conditionOperators →
          EditorRow.decode document' = .ok { row with groupOperators, conditionOperators } →
            decode document' = .ok t := by
  rcases exists_row_of_decode h with ⟨row, hrow, ht⟩
  rcases EditorRow.toTarget_eq_ok_iff.1 ht with ⟨_, -, gs, hgs, -⟩
  have hlineUp := (EditorRow.toGroups_eq_ok_iff_pairsOperators.1 hgs).operatorsLineUp
  refine ⟨row, hrow, hlineUp, hlineUp.operatorsFit_iff, ?_⟩
  intro document' groupOperators conditionOperators hagrees hrow'
  rw [decode_of_row hrow']
  exact hagrees.toTarget_eq_ok ht

/-- A row with one group of one condition, and operators for two groups of two. -/
def crowdedRow : EditorRow where
  refId := "A"
  hide := false
  rawQuery := false
  text := none
  series := "interface"
  metrics := []
  valueFields := []
  aggregators := []
  ranks := []
  labels := []
  groupByField := none
  groups := [[⟨"node", "=", "r1"⟩]]
  groupOperators := [some "", some "or"]
  conditionOperators := [[some "", some "and"], [some "or"]]
  bucket := none
  targetAlias := none
  kind := none

/-- The row without its operators. -/
def bareRow : EditorRow :=
  { crowdedRow with groupOperators := [], conditionOperators := [] }

theorem exists_decode_crowdedRow : ∃ t, decode crowdedRow.toJson = .ok t := by
  rw [decode_of_row (EditorRow.decode_toJson (by simp [crowdedRow]))]
  exact ⟨_, rfl⟩

theorem not_operatorsFit_crowdedRow : ¬ crowdedRow.OperatorsFit := by
  intro hfit
  exact absurd hfit.groups (by decide)

theorem decode_operatorsFit_iff_crowdedRow :
    (∃ t, decode crowdedRow.toJson = .ok t) ∧ ¬ crowdedRow.UnreadOperatorsFit ∧
      decode bareRow.toJson = decode crowdedRow.toJson := by
  have hcrowded : EditorRow.decode crowdedRow.toJson = .ok crowdedRow :=
    EditorRow.decode_toJson (by simp [crowdedRow])
  have hbare : EditorRow.decode bareRow.toJson = .ok bareRow :=
    EditorRow.decode_toJson (by simp [bareRow, crowdedRow])
  have hagrees : crowdedRow.AgreesWhereRead [] [] := by
    refine ⟨fun hmany => absurd hmany (by decide), ?_⟩
    intro i entries he hmany
    have hentry : entries ∈ crowdedRow.groups := List.mem_of_getElem? he
    rw [List.mem_singleton.1 hentry] at hmany
    exact absurd hmany (by decide)
  rcases exists_decode_crowdedRow with ⟨t, ht⟩
  rcases decode_operatorsFit_iff ht with ⟨row, hrow, -, hfit, hexchange⟩
  rw [hcrowded, Except.ok.injEq] at hrow
  rw [← hrow] at hfit hexchange
  have hexchanged : decode bareRow.toJson = .ok t := hexchange _ _ _ hagrees hbare
  exact ⟨⟨t, ht⟩, mt hfit.2 not_operatorsFit_crowdedRow, hexchanged.trans ht.symm⟩

/-- A document is read although it has more operators than groups and conditions. -/
theorem surplus_operators_discarded :
    ¬ ∀ (document : Json) (row : EditorRow) (t : Target), EditorRow.decode document = .ok row →
      decode document = .ok t → row.OperatorsFit := by
  intro hclaim
  have hrow : EditorRow.decode crowdedRow.toJson = .ok crowdedRow :=
    EditorRow.decode_toJson (by simp [crowdedRow])
  rcases exists_decode_crowdedRow with ⟨t, ht⟩
  exact not_operatorsFit_crowdedRow (hclaim _ _ t hrow ht)

end Target
end PanelQuery
