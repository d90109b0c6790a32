import PanelQuery.Proofs.Correspondence
import PanelQuery.Proofs.Target.NormalForm

/-!
# Targets - lists of operators

An operator list has an entry for every sibling, of which the first is not used, or one for every
sibling but the first.  Either way each entry belongs to one sibling, which it joins to the one
before.  Here the folds of groups and conditions are described by what the lists state for every
sibling, in whichever of the two layouts each of them is.

Main results:

- `connectiveAt_eq_ok_iff`: the connective of a sibling is what the operator list states for it.
- `EditorRow.toGroups_eq_ok_iff_pairsOperators`: a row folds into the groups that it is paired with.
- `EditorRow.AgreesUpToSlots.toTarget_eq`: unused slots do not matter.
- `decode_pairs_operators`: what decoding a document makes of its operators.
-/

namespace PanelQuery
namespace Target

open Text

/-! ## Operators by their words -/

/-- What a table has under a word is what is written as that word. -/
theorem find?_named_eq_some_iff {α : Type} {named : List (String × α)} {write : α → String}
    (hwritten : ∀ entry ∈ named, write entry.2 = entry.1)
    (hfound : ∀ a, (named.find? fun entry => entry.1 == write a).map (·.2) = some a)
    {word : String} {a : α} :
    (named.find? fun entry => entry.1 == word).map (·.2) = some a ↔ word = write a := by
  constructor
  · intro h
    obtain ⟨entry, hentry, rfl⟩ := Option.map_eq_some_iff.1 h
    have hword : entry.1 = word := by simpa using List.find?_some hentry
    rw [hwritten entry (List.mem_of_find?_eq_some hentry), hword]
  · rintro rfl
    exact hfound a

theorem Connective.ofText?_eq_some_iff {text : String} {c : Connective} :
    Connective.ofText? text = some c ↔ lowercased (trimmed text) = c.write := by
  refine find?_named_eq_some_iff ?_ ?_
  · simp [named, write]
  · intro a
    cases a <;> decide

theorem Comparison.ofText?_eq_some_iff {text : String} {c : Comparison} :
    Comparison.ofText? text = some c ↔ trimmed text = c.write := by
  refine find?_named_eq_some_iff ?_ ?_
  · simp [named, write]
  · intro a
    cases a <;> decide

/-- An entry of an operator list names a connective: blanks around it and letter case do not matter.
Null names none. -/
def Connective.IsNamedBy (entry : Option String) (c : Connective) : Prop :=
  ∃ text, entry = some text ∧ lowercased (trimmed text) = c.write

theorem connectiveOf_eq_ok_iff {entry : Option (Option String)} {c : Connective} :
    connectiveOf entry = .ok c ↔ ∃ e, entry = some e ∧ c.IsNamedBy e := by
  have htext : connectiveOf entry = .ok c ↔ Connective.ofText? (entry.join.getD "") = some c := by
    unfold connectiveOf
    cases h : Connective.ofText? (entry.join.getD "") <;> simp [h]
  have hempty : Connective.ofText? "" = none := by decide +kernel
  rw [htext]
  rcases entry with _ | _ | text
  · simp [hempty]
  · simp [hempty, Connective.IsNamedBy]
  · simp [Connective.ofText?_eq_some_iff, Connective.IsNamedBy]

/-! ## Operators of siblings -/

/-- A list of operators lines up with some siblings: it has an entry for each of them, or for each
but the first.  Of a list for no sibling or a single one nothing is asked. -/
def LinesUp (operators siblings : Nat) : Prop :=
  2 ≤ siblings → operators = siblings ∨ operators + 1 = siblings

/-- A connective is what an operator list states for the sibling at an index: `and` for the first,
and for a later one what its entry names.  That entry is at the same position where there is one for
every sibling, and at the one before where there is none for the first. -/
structure Joins (operators : List (Option String)) (siblings index : Nat) (c : Connective) :
    Prop where
  first : index = 0 → c = .and
  aligned : 1 ≤ index → operators.length = siblings →
    ∃ entry, operators[index]? = some entry ∧ c.IsNamedBy entry
  compact : 1 ≤ index → operators.length + 1 = siblings →
    ∃ entry, operators[index - 1]? = some entry ∧ c.IsNamedBy entry

section

variable {list : AlignedList} {found siblings shift index : Nat}

theorem operatorShift_eq_ok_iff :
    operatorShift list found siblings = .ok shift ↔
      (siblings ≤ 1 ∨ found = siblings) ∧ shift = 0 ∨
        2 ≤ siblings ∧ found + 1 = siblings ∧ shift = 1 := by
  unfold operatorShift
  split
  · rename_i hsame
    rw [Except.ok.injEq]
    omega
  · split
    · rw [Except.ok.injEq]
      omega
    · simp only [reduceCtorEq, false_iff]
      omega

theorem exists_operatorShift_iff :
    (∃ shift, operatorShift list found siblings = .ok shift) ↔ LinesUp found siblings := by
  simp only [operatorShift_eq_ok_iff, LinesUp]
  constructor
  · rintro ⟨shift, h⟩
    omega
  · intro h
    by_cases hsame : siblings ≤ 1 ∨ found = siblings
    · exact ⟨0, .inl ⟨hsame, rfl⟩⟩
    · exact ⟨1, by omega⟩

/-- A later sibling has an entry in the list, and the shift does not lead before it. -/
theorem lookup_lt_of_operatorShift (h : operatorShift list found siblings = .ok shift)
    (hlater : 1 ≤ index) (hindex : index < siblings) : shift ≤ index ∧ index - shift < found := by
  rw [operatorShift_eq_ok_iff] at h
  omega

/-- The connective at an index is the one that the operator list states there. -/
theorem connectiveAt_eq_ok_iff {operators : List (Option String)} {c : Connective}
    (h : operatorShift list operators.length siblings = .ok shift) (hindex : index < siblings) :
    connectiveAt operators shift index = .ok c ↔ Joins operators siblings index c := by
  rw [operatorShift_eq_ok_iff] at h
  unfold connectiveAt
  by_cases hfirst : index = 0
  · rw [if_pos hfirst, Except.ok.injEq]
    constructor
    · rintro rfl
      exact ⟨fun _ => rfl, by omega, by omega⟩
    · intro hjoins
      exact (hjoins.first hfirst).symm
  · rw [if_neg hfirst, connectiveOf_eq_ok_iff]
    have hlater : 1 ≤ index := Nat.one_le_iff_ne_zero.2 hfirst
    constructor
    · intro hentry
      refine ⟨fun hzero => absurd hzero hfirst, ?_, ?_⟩
      · intro _ haligned
        obtain rfl : shift = 0 := by omega
        exact hentry
      · intro _ hcompact
        obtain rfl : shift = 1 := by omega
        exact hentry
    · intro hjoins
      rcases h with ⟨hsame, rfl⟩ | ⟨-, hcompact, rfl⟩
      · exact hjoins.aligned hlater (by omega)
      · exact hjoins.compact hlater hcompact

end

/-- A condition is the one that an entry states, joined by what the operator list of its group has
for its index. -/
structure Condition.IsStatedBy (operators : List (Option String)) (siblings index : Nat)
    (entry : EditorCondition) (c : Condition) : Prop where
  left : c.left = entry.left
  right : c.right = entry.right
  comparison : trimmed entry.op = c.comparison.write
  connective : Joins operators siblings index c.connective

/-- Conditions are those of a group of entries, one by one and in order, under an operator list that
lines up with them. -/
structure ArePaired (operators : List (Option String)) (entries : List EditorCondition)
    (cs : List Condition) : Prop where
  linesUp : LinesUp operators.length entries.length
  length : cs.length = entries.length
  condition : ∀ (j : Nat) (e : EditorCondition) (c : Condition), entries[j]? = some e →
    cs[j]? = some c →
    c.IsStatedBy operators entries.length j e

theorem conditionsFrom_eq_ok_iff {operators : List (Option String)} {shift index : Nat}
    {entries : List EditorCondition} {cs : List Condition} :
    conditionsFrom operators shift index entries = .ok cs ↔
      List.Forall₂ (fun e c => connectiveAt operators shift e.2 = .ok c.connective ∧
          c.left = e.1.left ∧ Comparison.ofText? e.1.op = some c.comparison ∧ c.right = e.1.right)
        (entries.zipIdx index) cs := by
  induction entries generalizing index cs with
  | nil => simp [conditionsFrom, eq_comm]
  | cons e entries ih =>
      rw [conditionsFrom_cons_eq_ok_iff, List.zipIdx_cons, List.forall₂_cons_left_iff]
      constructor
      · rintro ⟨connective, hconnective, comparison, hcomparison, others, hothers, rfl⟩
        exact ⟨_, others, ⟨hconnective, rfl, hcomparison, rfl⟩, ih.1 hothers, rfl⟩
      · rintro ⟨c, others, ⟨hconnective, hleft, hcomparison, hright⟩, hothers, rfl⟩
        refine ⟨c.connective, hconnective, c.comparison, hcomparison, others, ih.2 hothers, ?_⟩
        rw [← hleft, ← hright]

/-- Fold the conditions of a group under its operator list. -/
def foldConditions (operators : List (Option String)) (entries : List EditorCondition) :
    Except Fault (List Condition) := do
  let shift ← operatorShift .conditionOperators operators.length entries.length
  conditionsFrom operators shift 0 entries

/-- Conditions are folded to those that they are paired with. -/
theorem foldConditions_eq_ok_iff {operators : List (Option String)}
    {entries : List EditorCondition} {cs : List Condition} :
    foldConditions operators entries = .ok cs ↔ ArePaired operators entries cs := by
  unfold foldConditions
  rw [bind_eq_ok_iff]
  constructor
  · rintro ⟨shift, hshift, hfold⟩
    obtain ⟨hlength, hentries⟩ := forall₂_zipIdx_iff.1 (conditionsFrom_eq_ok_iff.1 hfold)
    refine ⟨exists_operatorShift_iff.1 ⟨shift, hshift⟩, hlength, ?_⟩
    intro j e c he hc
    obtain ⟨hconnective, hleft, hcomparison, hright⟩ := hentries j e c he hc
    have hj : j < entries.length := (List.getElem?_eq_some_iff.1 he).1
    exact ⟨hleft, hright, Comparison.ofText?_eq_some_iff.1 hcomparison,
      (connectiveAt_eq_ok_iff hshift hj).1 hconnective⟩
  · intro h
    obtain ⟨shift, hshift⟩ := exists_operatorShift_iff.2 h.linesUp
    refine ⟨shift, hshift, conditionsFrom_eq_ok_iff.2 (forall₂_zipIdx_iff.2 ⟨h.length, ?_⟩)⟩
    intro j e c he hc
    have hstated := h.condition j e c he hc
    have hj : j < entries.length := (List.getElem?_eq_some_iff.1 he).1
    exact ⟨(connectiveAt_eq_ok_iff hshift hj).2 hstated.connective, hstated.left,
      Comparison.ofText?_eq_some_iff.2 hstated.comparison, hstated.right⟩

theorem groupsFrom_cons (operators : List (Option String)) (shift : Nat)
    (conditionOperators : List (List (Option String))) (index : Nat)
    (entries : List EditorCondition) (rest : List (List EditorCondition)) :
    groupsFrom operators shift conditionOperators index (entries :: rest) = (do
      let operator ← connectiveAt operators shift index
      let folded ← foldConditions (conditionOperators[index]?.getD []) entries
      let others ← groupsFrom operators shift conditionOperators (index + 1) rest
      return ⟨operator, folded⟩ :: others) := by
  simp only [groupsFrom, foldConditions, bind_assoc]

theorem groupsFrom_eq_ok_iff {operators : List (Option String)} {shift : Nat}
    {conditionOperators : List (List (Option String))} {index : Nat}
    {groups : List (List EditorCondition)} {gs : List Group} :
    groupsFrom operators shift conditionOperators index groups = .ok gs ↔
      List.Forall₂ (fun e g => connectiveAt operators shift e.2 = .ok g.operator ∧
          foldConditions (conditionOperators[e.2]?.getD []) e.1 = .ok g.conditions)
        (groups.zipIdx index) gs := by
  induction groups generalizing index gs with
  | nil => simp [groupsFrom, eq_comm]
  | cons entries groups ih =>
      simp only [groupsFrom_cons, bind_eq_ok_iff, pure_eq_ok_iff]
      rw [List.zipIdx_cons, List.forall₂_cons_left_iff]
      constructor
      · rintro ⟨operator, hoperator, folded, hfolded, others, hothers, rfl⟩
        exact ⟨⟨operator, folded⟩, others, ⟨hoperator, hfolded⟩, ih.1 hothers, rfl⟩
      · rintro ⟨g, others, ⟨hoperator, hfolded⟩, hothers, rfl⟩
        exact ⟨g.operator, hoperator, g.conditions, hfolded, others, ih.2 hothers, rfl⟩

/-! ## Unused slots -/

/-- Two operator lists for some siblings differ at most in the slot of the first sibling, which may
hold anything or be left out. -/
inductive SameUpToSlot (siblings : Nat) : List (Option String) → List (Option String) → Prop
  | refl (operators : List (Option String)) : SameUpToSlot siblings operators operators
  | slot {operators : List (Option String)} (entry entry' : Option (Option String))
      (hsiblings : 2 ≤ siblings) (hlength : operators.length + 1 = siblings) :
      SameUpToSlot siblings (entry.toList ++ operators) (entry'.toList ++ operators)

theorem connectiveAt_cons (entry : Option String) (operators : List (Option String))
    (index : Nat) : connectiveAt (entry :: operators) 0 index = connectiveAt operators 1 index := by
  unfold connectiveAt
  by_cases hfirst : index = 0
  · rw [if_pos hfirst, if_pos hfirst]
  · obtain ⟨before, rfl⟩ := Nat.exists_eq_succ_of_ne_zero hfirst
    rw [if_neg hfirst, if_neg hfirst, Nat.sub_zero, Nat.succ_sub_one, List.getElem?_cons_succ]

/-- A list without the slot states the same connectives as one with it. -/
theorem exists_shift_of_slot (list : AlignedList) {siblings : Nat}
    {operators : List (Option String)} (entry : Option (Option String)) (hsiblings : 2 ≤ siblings)
    (hlength : operators.length + 1 = siblings) :
    ∃ shift, operatorShift list (entry.toList ++ operators).length siblings = .ok shift ∧
      connectiveAt (entry.toList ++ operators) shift = connectiveAt operators 1 := by
  cases entry with
  | none => exact ⟨1, operatorShift_eq_ok_iff.2 (.inr ⟨hsiblings, hlength, rfl⟩), rfl⟩
  | some e =>
      exact ⟨0, operatorShift_eq_ok_iff.2 (.inl ⟨.inr hlength, rfl⟩),
        funext (connectiveAt_cons e operators)⟩

theorem conditionsFrom_congr {operators operators' : List (Option String)} {shift shift' : Nat}
    (h : connectiveAt operators' shift' = connectiveAt operators shift) (index : Nat)
    (entries : List EditorCondition) :
    conditionsFrom operators' shift' index entries =
      conditionsFrom operators shift index entries := by
  induction entries generalizing index with
  | nil => rfl
  | cons e entries ih => rw [conditionsFrom, conditionsFrom, h, ih]

theorem SameUpToSlot.foldConditions_eq {operators operators' : List (Option String)}
    {entries : List EditorCondition} (h : SameUpToSlot entries.length operators operators') :
    foldConditions operators' entries = foldConditions operators entries := by
  cases h with
  | refl => rfl
  | @slot operators entry entry' hsiblings hlength =>
      have hslot : ∀ entry : Option (Option String),
          foldConditions (entry.toList ++ operators) entries =
            conditionsFrom operators 1 0 entries := by
        intro entry
        obtain ⟨shift, hshift, hat⟩ :=
          exists_shift_of_slot .conditionOperators entry hsiblings hlength
        rw [foldConditions, hshift]
        exact conditionsFrom_congr hat 0 entries
      rw [hslot entry, hslot entry']

theorem groupsFrom_congr {operators operators' : List (Option String)} {shift shift' : Nat}
    {conditionOperators conditionOperators' : List (List (Option String))} {index : Nat}
    {groups : List (List EditorCondition)}
    (hoperators : connectiveAt operators' shift' = connectiveAt operators shift)
    (hconditions : ∀ i entries, groups[i]? = some entries →
      foldConditions (conditionOperators'[index + i]?.getD []) entries =
        foldConditions (conditionOperators[index + i]?.getD []) entries) :
    groupsFrom operators' shift' conditionOperators' index groups =
      groupsFrom operators shift conditionOperators index groups := by
  induction groups generalizing index with
  | nil => rfl
  | cons entries groups ih =>
      have hfirst := hconditions 0 entries rfl
      rw [Nat.add_zero] at hfirst
      have hrest : groupsFrom operators' shift' conditionOperators' (index + 1) groups =
          groupsFrom operators shift conditionOperators (index + 1) groups := by
        apply ih
        intro i entries' hentries
        have hnext := hconditions (i + 1) entries' hentries
        rwa [Nat.add_comm i 1, ← Nat.add_assoc] at hnext
      rw [groupsFrom_cons, groupsFrom_cons, hoperators, hfirst, hrest]

namespace EditorRow

/-- The operator list of the group at an index; one that is missing counts as empty. -/
def operatorsOf (row : EditorRow) (index : Nat) : List (Option String) :=
  row.conditionOperators[index]?.getD []

/-- The operator lists of a row line up, with the groups and with the conditions of each group. -/
structure OperatorsLineUp (row : EditorRow) : Prop where
  groups : LinesUp row.groupOperators.length row.groups.length
  conditions : ∀ (i : Nat) (entries : List EditorCondition), row.groups[i]? = some entries →
    LinesUp (row.operatorsOf i).length entries.length

/-- Groups are those of a row, one by one and in order, each joined by what the operator list states
at its index, and its conditions paired with their entries in the same way. -/
structure PairsOperators (row : EditorRow) (gs : List Group) : Prop where
  linesUp : LinesUp row.groupOperators.length row.groups.length
  length : gs.length = row.groups.length
  operator : ∀ (i : Nat) (g : Group), gs[i]? = some g →
    Joins row.groupOperators row.groups.length i g.operator
  conditions : ∀ (i : Nat) (entries : List EditorCondition) (g : Group),
    row.groups[i]? = some entries → gs[i]? = some g →
      ArePaired (row.operatorsOf i) entries g.conditions

/-- Operator lists are those of a row, but for what the unused slots hold and whether there are any.
-/
structure AgreesUpToSlots (row : EditorRow) (groupOperators : List (Option String))
    (conditionOperators : List (List (Option String))) : Prop where
  groupOperators : SameUpToSlot row.groups.length row.groupOperators groupOperators
  conditionOperators : ∀ (i : Nat) (entries : List EditorCondition),
    row.groups[i]? = some entries →
      SameUpToSlot entries.length (row.operatorsOf i) (conditionOperators[i]?.getD [])

variable {row : EditorRow}

/-- The lists of a row fold into the groups that they are paired with, and into no others. -/
theorem toGroups_eq_ok_iff_pairsOperators {gs : List Group} :
    row.toGroups = .ok gs ↔ row.PairsOperators gs := by
  rw [toGroups_eq_ok_iff]
  constructor
  · rintro ⟨shift, hshift, hfold⟩
    obtain ⟨hlength, hentries⟩ := forall₂_zipIdx_iff.1 (groupsFrom_eq_ok_iff.1 hfold)
    refine ⟨exists_operatorShift_iff.1 ⟨shift, hshift⟩, hlength, ?_, ?_⟩
    · intro i g hg
      have hi : i < row.groups.length := hlength ▸ (List.getElem?_eq_some_iff.1 hg).1
      obtain ⟨hoperator, -⟩ := hentries i _ g (List.getElem?_eq_getElem hi) hg
      exact (connectiveAt_eq_ok_iff hshift hi).1 hoperator
    · intro i entries g he hg
      exact foldConditions_eq_ok_iff.1 (hentries i entries g he hg).2
  · intro h
    obtain ⟨shift, hshift⟩ := exists_operatorShift_iff.2 h.linesUp
    refine ⟨shift, hshift, groupsFrom_eq_ok_iff.2 (forall₂_zipIdx_iff.2 ⟨h.length, ?_⟩)⟩
    intro i entries g he hg
    have hi : i < row.groups.length := (List.getElem?_eq_some_iff.1 he).1
    exact ⟨(connectiveAt_eq_ok_iff hshift hi).2 (h.operator i g hg),
      foldConditions_eq_ok_iff.2 (h.conditions i entries g he hg)⟩

theorem PairsOperators.operatorsLineUp {gs : List Group} (h : row.PairsOperators gs) :
    row.OperatorsLineUp := by
  refine ⟨h.linesUp, ?_⟩
  intro i entries he
  have hi : i < gs.length := h.length ▸ (List.getElem?_eq_some_iff.1 he).1
  exact (h.conditions i entries gs[i] he (List.getElem?_eq_getElem hi)).linesUp

section

variable {groupOperators : List (Option String)} {conditionOperators : List (List (Option String))}

/-- Unused slots do not matter for the groups, whether the lists fold or not. -/
theorem AgreesUpToSlots.toGroups_eq
    (h : row.AgreesUpToSlots groupOperators conditionOperators) :
    ({ row with groupOperators, conditionOperators } : EditorRow).toGroups = row.toGroups := by
  have hconditions : ∀ i entries, row.groups[i]? = some entries →
      foldConditions (conditionOperators[0 + i]?.getD []) entries =
        foldConditions (row.conditionOperators[0 + i]?.getD []) entries := by
    intro i entries he
    rw [Nat.zero_add]
    exact (h.conditionOperators i entries he).foldConditions_eq
  have houter := h.groupOperators
  simp only [toGroups]
  generalize row.groupOperators = operators at houter
  cases houter with
  | refl => exact bind_congr fun shift => groupsFrom_congr rfl hconditions
  | @slot operators entry entry' hsiblings hlength =>
      obtain ⟨shift, hshift, hat⟩ :=
        exists_shift_of_slot .groupOperators entry hsiblings hlength
      obtain ⟨shift', hshift', hat'⟩ :=
        exists_shift_of_slot .groupOperators entry' hsiblings hlength
      rw [hshift, hshift']
      exact groupsFrom_congr (hat'.trans hat.symm) hconditions

theorem AgreesUpToSlots.toTarget_eq
    (h : row.AgreesUpToSlots groupOperators conditionOperators) :
    ({ row with groupOperators, conditionOperators } : EditorRow).toTarget = row.toTarget := by
  simp only [toTarget, h.toGroups_eq]
  rfl

end

end EditorRow

theorem decode_of_row {document : Json} {row : EditorRow}
    (h : EditorRow.decode document = .ok row) : decode document = row.toTarget := by
  rw [decode, h]

/-- Decoding pairs every operator with the sibling that it stands for.  It fails where an operator
list does not line up.  Where it gives a target, the groups and conditions are those of the document
in their order, each joined by the connective that its own entry names; and a row folds into exactly
those groups.  No entry is looked up outside its list, and what the unused slots hold, or whether
they are there, makes no difference to the outcome. -/
theorem decode_pairs_operators {document : Json} {row : EditorRow}
    (h : EditorRow.decode document = .ok row) :
    (¬ row.OperatorsLineUp → ∃ fault, decode document = .error fault) ∧
      (∀ t, decode document = .ok t → row.PairsOperators t.groups) ∧
      (∀ gs, row.toGroups = .ok gs ↔ row.PairsOperators gs) ∧
      (∀ list found siblings shift index, operatorShift list found siblings = .ok shift →
        1 ≤ index → index < siblings → shift ≤ index ∧ index - shift < found) ∧
      ∀ document' groupOperators conditionOperators,
        row.AgreesUpToSlots groupOperators conditionOperators →
          EditorRow.decode document' = .ok { row with groupOperators, conditionOperators } →
            decode document' = decode document := by
  have hpairs : ∀ t, decode document = .ok t → row.PairsOperators t.groups := by
    intro t ht
    rw [decode_of_row h] at ht
    obtain ⟨as, -, gs, hgs, rfl⟩ := EditorRow.toTarget_eq_ok_iff.1 ht
    exact EditorRow.toGroups_eq_ok_iff_pairsOperators.1 hgs
  refine ⟨?_, hpairs, fun _ => EditorRow.toGroups_eq_ok_iff_pairsOperators, ?_, ?_⟩
  · intro hline
    cases ht : decode document with
    | error fault => exact ⟨fault, rfl⟩
    | ok t => exact absurd (hpairs t ht).operatorsLineUp hline
  · intro list found siblings shift index hshift hlater hindex
    exact lookup_lt_of_operatorShift hshift hlater hindex
  · intro document' groupOperators conditionOperators hagrees h'
    rw [decode_of_row h, decode_of_row h', hagrees.toTarget_eq]

/-- A row with three groups.  The list of their operators has no unused slot, the one of the
conditions of the first has one, and the other groups have no list. -/
def siteRow : EditorRow where
  refId := "A"
  hide := false
  rawQuery := false
  text := none
  series := "interface"
  metrics := ["input"]
  valueFields := []
  aggregators := []
  ranks := []
  labels := []
  groupByField := none
  groups := [[⟨"node", "=", "r1"⟩, ⟨"speed", " >", "10"⟩, ⟨"vlan", "< ", ""⟩], [],
    [⟨"site", "=", "nyc"⟩]]
  groupOperators := [some " OR ", some "and"]
  conditionOperators := [[none, some "Or", some "AND"]]
  bucket := none
  targetAlias := none
  kind := none

/-- The groups of the row. -/
def siteGroups : List Group :=
  [⟨.and, [⟨.and, "node", .equal, "r1"⟩, ⟨.or, "speed", .greater, "10"⟩,
      ⟨.and, "vlan", .less, ""⟩]⟩,
    ⟨.or, []⟩, ⟨.and, [⟨.and, "site", .equal, "nyc"⟩]⟩]

/-- The row with other unused slots: one more for the groups, and no connective in that of the
conditions. -/
def slottedSiteRow : EditorRow :=
  { siteRow with
    groupOperators := [none, some " OR ", some "and"]
    conditionOperators := [[some "?", some "Or", some "AND"]] }

theorem decode_pairs_operators_siteRow :
    EditorRow.decode siteRow.toJson = .ok siteRow ∧ siteRow.PairsOperators siteGroups ∧
      decode slottedSiteRow.toJson = decode siteRow.toJson := by
  have hrow : EditorRow.decode siteRow.toJson = .ok siteRow :=
    EditorRow.decode_toJson (by simp [siteRow])
  have hslotted : EditorRow.decode slottedSiteRow.toJson = .ok slottedSiteRow :=
    EditorRow.decode_toJson (by simp [slottedSiteRow, siteRow])
  have hgroups : siteRow.toGroups = .ok siteGroups := by rfl
  have hagrees : siteRow.AgreesUpToSlots slottedSiteRow.groupOperators
      slottedSiteRow.conditionOperators := by
    refine ⟨.slot none (some none) (by decide) (by decide), ?_⟩
    intro i entries he
    rcases i with _ | i
    · cases he
      exact .slot (some none) (some (some "?")) (by decide) (by decide)
    · exact .refl []
  obtain ⟨-, -, hpairs, -, hslots⟩ := decode_pairs_operators hrow
  exact ⟨hrow, (hpairs siteGroups).1 hgroups, hslots _ _ _ hagrees hslotted⟩

end Target
end PanelQuery
