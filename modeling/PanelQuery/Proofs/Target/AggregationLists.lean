import PanelQuery.Proofs.Correspondence
import PanelQuery.Proofs.Target.NormalForm

/-!
# Targets - lists of aggregations

Four lists of an editor row make up its aggregations: the value fields, the functions, the ranks of
percentiles and the labels.  They are of different lengths, and what belongs together stands at the
same position.  Here the fold over them is described by what they state at each position.

Main results:

- `EditorRow.exists_toAggregations_iff`: the lists fold into aggregations exactly if they line up.
- `EditorRow.statesAggregation_of_toAggregations`: what they fold into.
- `EditorRow.toAggregations_congr`: only the ranks of percentiles are looked at.
-/

namespace PanelQuery
namespace Target

/-! ## What entries state -/

/-- A value states a rank: a text that is not empty states itself, and a number its own text. -/
inductive StatesRank : Json → String → Prop
  | text {s : String} (h : s ≠ "") : StatesRank (.string s) s
  | number (n : Json.Number) : StatesRank (.number n) n.write

theorem rankOf?_eq_some_iff {v : Json} {text : String} :
    rankOf? v = some text ↔ StatesRank v text := by
  constructor
  · intro h
    cases v with
    | string s =>
        by_cases hs : s = ""
        · simp [rankOf?, hs] at h
        · obtain rfl : s = text := by simpa [rankOf?, hs] using h
          exact .text hs
    | number n =>
        obtain rfl : n.write = text := by simpa [rankOf?] using h
        exact .number n
    | null | bool _ | array _ | object _ => simp [rankOf?] at h
  · rintro (hs | n)
    · exact if_neg hs
    · rfl

/-- A name and the entry for its rank state an aggregating function: the percentile with its rank,
or the function of that name. -/
structure Aggregator.IsStatedBy (name : String) (rank : Option Json) (a : Aggregator) : Prop where
  percentile : name = "percentile" → ∃ v text, rank = some v ∧ StatesRank v text ∧
    a = .percentile text ∧ a.write = "percentile(" ++ text ++ ")"
  named : name ≠ "percentile" → a = .named name ∧ a.write = name

theorem aggregatorOf_eq_ok_iff {index : Nat} {name : String} {rank : Option Json}
    {a : Aggregator} : aggregatorOf index name rank = .ok a ↔ a.IsStatedBy name rank := by
  unfold aggregatorOf
  by_cases hname : name = percentileName
  · rw [if_pos hname]
    constructor
    · intro h
      split at h
      · rename_i text hbind
        obtain ⟨v, hrank, hv⟩ := Option.bind_eq_some_iff.1 hbind
        cases h
        exact ⟨fun _ => ⟨v, text, hrank, rankOf?_eq_some_iff.1 hv, rfl, rfl⟩, absurd hname⟩
      · cases h
    · intro h
      obtain ⟨v, text, hrank, htext, rfl, -⟩ := h.percentile hname
      rw [hrank, Option.bind_some, rankOf?_eq_some_iff.2 htext]
  · rw [if_neg hname]
    constructor
    · intro h
      cases h
      exact ⟨fun hpercentile => absurd hpercentile hname, fun _ => ⟨rfl, rfl⟩⟩
    · intro h
      obtain ⟨rfl, -⟩ := h.named hname
      rfl

/-- The entry for a label states a text, the empty one where it is missing or null. -/
inductive StatesLabel : Option (Option String) → String → Prop
  | given (label : String) : StatesLabel (some (some label)) label
  | null : StatesLabel (some none) ""
  | missing : StatesLabel none ""

theorem statesLabel_iff {entry : Option (Option String)} {label : String} :
    StatesLabel entry label ↔ entry.join.getD "" = label := by
  constructor
  · rintro (label | _ | _) <;> rfl
  · rintro rfl
    rcases entry with _ | _ | label
    · exact .missing
    · exact .null
    · exact .given label

/-- An aggregation is folded from the field and the name at an index, with what the other lists
hold there. -/
structure Aggregation.IsFoldedFrom (ranks : List Json) (labels : List (Option String))
    (entry : (String × String) × Nat) (a : Aggregation) : Prop where
  field : a.field = entry.1.1
  aggregator : a.aggregator.IsStatedBy entry.1.2 ranks[entry.2]?
  label : StatesLabel labels[entry.2]? a.label

theorem aggregationsFrom_eq_ok_iff {index : Nat} {ranks : List Json}
    {labels : List (Option String)} {fields names : List String} {as : List Aggregation} :
    aggregationsFrom index ranks labels fields names = .ok as ↔
      List.Forall₂ (Aggregation.IsFoldedFrom ranks labels) ((fields.zip names).zipIdx index)
        as := by
  induction fields generalizing index names as with
  | nil => simp [aggregationsFrom, eq_comm]
  | cons field fields ih =>
      cases names with
      | nil => simp [aggregationsFrom, eq_comm]
      | cons name names =>
          rw [aggregationsFrom_cons_eq_ok_iff, List.zip_cons_cons, List.zipIdx_cons,
            List.forall₂_cons_left_iff]
          constructor
          · rintro ⟨aggregator, haggregator, rest, hrest, rfl⟩
            have hstated := aggregatorOf_eq_ok_iff.1 haggregator
            exact ⟨_, rest, ⟨rfl, hstated, statesLabel_iff.2 rfl⟩, ih.1 hrest, rfl⟩
          · rintro ⟨a, rest, hfolded, hrest, rfl⟩
            refine ⟨a.aggregator, aggregatorOf_eq_ok_iff.2 hfolded.aggregator, rest, ih.2 hrest, ?_⟩
            have hfield : a.field = field := hfolded.field
            have hlabel : (labels[index]?.join).getD "" = a.label := statesLabel_iff.1 hfolded.label
            rw [← hfield, hlabel]

/-- Of the ranks, only those of percentiles are looked at. -/
theorem aggregationsFrom_congr {index : Nat} {ranks ranks' : List Json}
    {labels : List (Option String)} {fields names : List String}
    (h : ∀ i < fields.length, names[i]? = some "percentile" →
      ranks'[index + i]? = ranks[index + i]?) :
    aggregationsFrom index ranks' labels fields names =
      aggregationsFrom index ranks labels fields names := by
  induction fields generalizing index names with
  | nil => rfl
  | cons field fields ih =>
      cases names with
      | nil => rfl
      | cons name names =>
          have hfirst : aggregatorOf index name ranks'[index]? =
              aggregatorOf index name ranks[index]? := by
            by_cases hname : name = percentileName
            · have hrank := h 0 (Nat.zero_lt_succ _) (congrArg some hname)
              rw [Nat.add_zero] at hrank
              rw [hrank]
            · rw [aggregatorOf, aggregatorOf, if_neg hname, if_neg hname]
          have hrest : aggregationsFrom (index + 1) ranks' labels fields names =
              aggregationsFrom (index + 1) ranks labels fields names := by
            apply ih
            intro i hi hpercentile
            have hrank := h (i + 1) (by simpa using hi) (by simpa using hpercentile)
            rwa [Nat.add_comm i 1, ← Nat.add_assoc] at hrank
          rw [aggregationsFrom, aggregationsFrom, hfirst, hrest]

namespace EditorRow

/-- The lists of a row line up for its aggregations: every value field has a function, there are no
more labels than fields, and every percentile has a rank at its own position. -/
structure AggregationsLineUp (row : EditorRow) : Prop where
  functions : row.aggregators.length = row.valueFields.length
  labels : row.labels.length ≤ row.valueFields.length
  ranks : ∀ i : Nat, row.aggregators[i]? = some "percentile" →
    ∃ (v : Json) (text : String), row.ranks[i]? = some v ∧ StatesRank v text

/-- An aggregation is the one that the lists of a row state at an index. -/
structure StatesAggregation (row : EditorRow) (index : Nat) (a : Aggregation) : Prop where
  field : row.valueFields[index]? = some a.field
  aggregator : ∃ name, row.aggregators[index]? = some name ∧
    a.aggregator.IsStatedBy name row.ranks[index]?
  label : StatesLabel row.labels[index]? a.label

variable {row : EditorRow}

theorem toAggregations_eq_ok_iff {as : List Aggregation} :
    row.toAggregations = .ok as ↔
      (row.aggregators.length = row.valueFields.length ∧
        row.labels.length ≤ row.valueFields.length) ∧
        List.Forall₂ (Aggregation.IsFoldedFrom row.ranks row.labels)
          (row.valueFields.zip row.aggregators).zipIdx as := by
  unfold toAggregations
  by_cases hfunctions : row.aggregators.length = row.valueFields.length
  · by_cases hlabels : row.valueFields.length < row.labels.length
    · simp [hfunctions, hlabels]
    · rw [if_neg (not_not.2 hfunctions), if_neg hlabels, aggregationsFrom_eq_ok_iff]
      simp [hfunctions, Nat.le_of_not_lt hlabels]
  · simp [hfunctions]

/-- The lists fold into aggregations exactly if they line up. -/
theorem exists_toAggregations_iff :
    (∃ as, row.toAggregations = .ok as) ↔ row.AggregationsLineUp := by
  simp only [toAggregations_eq_ok_iff, exists_and_left, exists_forall₂_iff]
  constructor
  · rintro ⟨⟨hfunctions, hlabels⟩, hentries⟩
    refine ⟨hfunctions, hlabels, ?_⟩
    intro i hname
    obtain ⟨hi, -⟩ := List.getElem?_eq_some_iff.1 hname
    have hfield := List.getElem?_eq_getElem (l := row.valueFields) (hfunctions ▸ hi)
    obtain ⟨a, ha⟩ := hentries ((row.valueFields[i], "percentile"), i)
      (List.mk_mem_zipIdx_iff_getElem?.2 (List.getElem?_zip_eq_some.2 ⟨hfield, hname⟩))
    obtain ⟨v, text, hrank, htext, -⟩ := ha.aggregator.percentile rfl
    exact ⟨v, text, hrank, htext⟩
  · intro h
    refine ⟨⟨h.functions, h.labels⟩, ?_⟩
    rintro ⟨⟨field, name⟩, i⟩ hmem
    have hentry : (row.valueFields.zip row.aggregators)[i]? = some (field, name) :=
      List.mk_mem_zipIdx_iff_getElem?.1 hmem
    have hname : row.aggregators[i]? = some name := (List.getElem?_zip_eq_some.1 hentry).2
    have haggregator : ∃ a : Aggregator, a.IsStatedBy name row.ranks[i]? := by
      by_cases hpercentile : name = "percentile"
      · obtain ⟨v, text, hrank, htext⟩ := h.ranks i (hpercentile ▸ hname)
        exact ⟨.percentile text, fun _ => ⟨v, text, hrank, htext, rfl, rfl⟩, absurd hpercentile⟩
      · exact ⟨.named name, fun heq => absurd heq hpercentile, fun _ => ⟨rfl, rfl⟩⟩
    obtain ⟨aggregator, haggregator⟩ := haggregator
    exact ⟨⟨field, aggregator, _⟩, rfl, haggregator, statesLabel_iff.2 rfl⟩

/-- What the lists fold into is what they state at each position. -/
theorem statesAggregation_of_toAggregations {as : List Aggregation}
    (h : row.toAggregations = .ok as) :
    as.length = row.valueFields.length ∧
      ∀ i a, as[i]? = some a → row.StatesAggregation i a := by
  obtain ⟨⟨hfunctions, -⟩, hfolded⟩ := toAggregations_eq_ok_iff.1 h
  obtain ⟨hlength, hentries⟩ := forall₂_zipIdx_iff.1 hfolded
  rw [List.length_zip, hfunctions, Nat.min_self] at hlength
  refine ⟨hlength, ?_⟩
  intro i a ha
  obtain ⟨hi, -⟩ := List.getElem?_eq_some_iff.1 ha
  have hfield := List.getElem?_eq_getElem (l := row.valueFields) (by omega : i < _)
  have hname := List.getElem?_eq_getElem (l := row.aggregators) (by omega : i < _)
  have hstated := hentries i (row.valueFields[i], row.aggregators[i]) a
    (List.getElem?_zip_eq_some.2 ⟨hfield, hname⟩) ha
  exact ⟨hfield.trans (congrArg some hstated.field.symm), ⟨_, hname, hstated.aggregator⟩,
    hstated.label⟩

/-- Ranks at other positions than those of percentiles, and any behind the last field, do not
matter. -/
theorem toAggregations_congr {ranks : List Json}
    (h : ∀ i < row.valueFields.length, row.aggregators[i]? = some "percentile" →
      ranks[i]? = row.ranks[i]?) :
    ({ row with ranks } : EditorRow).toAggregations = row.toAggregations := by
  have hfold : aggregationsFrom 0 ranks row.labels row.valueFields row.aggregators =
      aggregationsFrom 0 row.ranks row.labels row.valueFields row.aggregators := by
    apply aggregationsFrom_congr
    simpa using h
  simp only [toAggregations, hfold]

/-- The lists of a row fold into aggregations exactly if they line up.  Then there is one
aggregation for every value field, which has what the lists state at its position, and of the ranks
only those at the positions of percentiles are looked at. -/
theorem toAggregations_spec (row : EditorRow) :
    ((∃ as, row.toAggregations = .ok as) ↔ row.AggregationsLineUp) ∧
      (∀ as, row.toAggregations = .ok as → as.length = row.valueFields.length ∧
        ∀ i a, as[i]? = some a → row.StatesAggregation i a) ∧
      ∀ ranks : List Json,
        (∀ i < row.valueFields.length, row.aggregators[i]? = some "percentile" →
          ranks[i]? = row.ranks[i]?) →
        ({ row with ranks } : EditorRow).toAggregations = row.toAggregations :=
  ⟨exists_toAggregations_iff, fun _ => statesAggregation_of_toAggregations,
    fun _ => toAggregations_congr⟩

end EditorRow

end Target
end PanelQuery
