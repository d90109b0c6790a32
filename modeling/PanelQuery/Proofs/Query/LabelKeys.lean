import PanelQuery.Proofs.Query.Assembly
import PanelQuery.Proofs.Query.LabelTable
import PanelQuery.Proofs.Template.SetSpelling

/-!
# Queries - keys of labels

Results are labelled by expression, and the expressions of a compiled query are meant to be found in
its text.  But the keys of the labels are the expressions before values were written in, and sets
are spelt out in the text only.  So a key is there only where values left the expression alone.

Main results:

- `label_infix_compile_iff`: when the key of an aggregation occurs in the compiled text.
- `label_lost`: a field that refers to a variable with a value is enough to lose the key.
-/

namespace PanelQuery

namespace Target

open Template

/-- Texts with a comma behind each. -/
def leading (items : List String) : String :=
  String.join (items.map (· ++ ", "))

/-- Texts with a comma before each. -/
def trailing (items : List String) : String :=
  String.join (items.map (", " ++ ·))

theorem leading_cons (x : String) (items : List String) :
    leading (x :: items) = x ++ (", " ++ leading items) := by
  simp [leading, String.append_assoc]

theorem trailing_cons (x : String) (items : List String) :
    trailing (x :: items) = ", " ++ (x ++ trailing items) := by
  simp [trailing, String.append_assoc]

theorem intercalate_cons_eq_trailing (x : String) (more : List String) :
    ", ".intercalate (x :: more) = x ++ trailing more := by
  induction more generalizing x with
  | nil => simp [trailing]
  | cons y more ih =>
      rw [String.intercalate_cons_cons, ih, trailing_cons, String.append_assoc]

/-- An item of a list stands between those before it and those behind it. -/
theorem intercalate_append_cons (items : List String) (x : String) (more : List String) :
    ", ".intercalate (items ++ x :: more) = leading items ++ (x ++ trailing more) := by
  induction items with
  | nil => simpa [leading] using intercalate_cons_eq_trailing x more
  | cons y items ih =>
      have hne : items ++ x :: more ≠ [] := by simp
      rw [List.cons_append, String.intercalate_cons_of_ne_nil hne, ih, leading_cons]
      simp only [String.append_assoc]

theorem separated_trailing_append (items : List String) {more : String} (h : Separated more) :
    Separated (trailing items ++ more) := by
  cases items with
  | nil => simpa [trailing] using h
  | cons x items =>
      rw [trailing_cons, String.append_assoc]
      exact Glue.separated_append (by decide) _

/-- Items that leave no opening mark unanswered are resolved one by one before any text. -/
theorem resolve_leading_append {d : Dashboard} {scope : Scope} {rendering : Rendering}
    {items : List String} (h : ∀ x ∈ items, ReferenceClosed x) (more : String) :
    d.resolve scope rendering (leading items ++ more) =
      leading (items.map (d.resolve scope rendering)) ++ d.resolve scope rendering more := by
  induction items with
  | nil => simp [leading]
  | cons x items ih =>
      have hx := h x List.mem_cons_self
      have hitems := ih fun y hy => h y (List.mem_cons_of_mem x hy)
      rw [leading_cons, List.map_cons, leading_cons, String.append_assoc, String.append_assoc,
        d.resolve_append scope rendering hx (Glue.separated_append (by decide) _),
        d.resolve_plain_append scope rendering (by decide), hitems]
      simp only [String.append_assoc]

theorem not_mem_leading {c : Char} (hc : c ∉ [',', ' ']) {items : List String}
    (h : ∀ x ∈ items, c ∉ x.toList) : c ∉ (leading items).toList := by
  induction items with
  | nil => simp [leading]
  | cons x items ih =>
      rw [leading_cons, String.toList_append, String.toList_append, List.mem_append,
        List.mem_append, not_or, not_or]
      exact ⟨h x List.mem_cons_self, hc, ih fun y hy => h y (List.mem_cons_of_mem x hy)⟩

/-! ## Keys -/

theorem Aggregation.comma_mem_expression (a : Aggregation) : ',' ∈ a.expression.toList := by
  have hcomma : ',' ∈ ", ".toList := by decide
  rewrite [a.expression_eq]
  simp only [String.toList_append, List.mem_append, hcomma, true_or, or_true]

theorem Aggregation.getLast?_expression (a : Aggregation) :
    a.expression.toList.getLast? = some ')' := by
  unfold expression
  rewrite [String.toList_append]
  exact List.getLast?_concat

/-- An expression occurs in a text with its sets spelt out exactly if a part of the text without a
brace before it is spelt out to the expression. -/
theorem Aggregation.infix_spellSets_iff_exists_part {a : Aggregation} {text : String} :
    a.expression.toList <:+: (spellSets text).toList ↔
      ∃ front w back, text = front ++ w ++ back ∧ '{' ∉ front.toList ∧
        spellSets w = a.expression := by
  refine infix_spellSets_iff_exists a.comma_mem_expression ?_
  rw [a.getLast?_expression]
  rintro c ⟨⟩
  decide

/-- The text of a target up to an aggregation, and what stands behind it. -/
theorem exists_assemble_eq {t : Target} {front back : List Aggregation} {a : Aggregation}
    (h : t.aggregations = front ++ a :: back) (filters : String) :
    ∃ more, Separated more ∧ t.assemble filters =
      "get " ++ (leading (t.metrics ++ front.map Aggregation.expression) ++
        (a.expression ++ more)) := by
  have hselection : t.selection = (t.metrics ++ front.map Aggregation.expression) ++
      a.expression :: back.map Aggregation.expression := by
    simp [selection, h]
  rewrite [t.assemble_eq, hselection, intercalate_append_cons]
  simp only [String.append_assoc]
  exact ⟨_, separated_trailing_append _ (Glue.separated_append (by decide) _), rfl⟩

section

variable {t : Target} {d : Dashboard} {source : String} {scope : Scope}

/-- An expression that values leave alone is such a part, if no set stands before it. -/
theorem exists_part_of_unchanged {front back : List Aggregation} {a : Aggregation}
    (h : t.aggregations = front ++ a :: back)
    (hfront : ∀ x ∈ t.metrics ++ front.map Aggregation.expression,
      ReferenceClosed x ∧ '{' ∉ (d.resolve scope .glob x).toList)
    (hclosed : ReferenceClosed a.expression)
    (hunchanged : d.resolveQuery scope a.expression = a.expression) (filters : String) :
    ∃ front w back, d.resolve scope .glob (t.assemble filters) = front ++ w ++ back ∧
      '{' ∉ front.toList ∧ spellSets w = a.expression := by
  obtain ⟨more, hmore, hassemble⟩ := exists_assemble_eq h filters
  refine ⟨"get " ++ leading ((t.metrics ++ front.map Aggregation.expression).map
    (d.resolve scope .glob)), d.resolve scope .glob a.expression,
    d.resolve scope .glob more, ?_, ?_, hunchanged⟩
  · rewrite [hassemble, d.resolve_plain_append scope .glob (by decide),
      resolve_leading_append fun x hx => (hfront x hx).1,
      d.resolve_append scope .glob hclosed hmore]
    simp only [String.append_assoc]
  · rw [String.toList_append, List.mem_append, not_or]
    refine ⟨by decide, not_mem_leading (by decide) fun x hx => ?_⟩
    obtain ⟨y, hy, rfl⟩ := List.mem_map.1 hx
    exact (hfront y hy).2

/-- A key of the labels occurs in the compiled text exactly if it is what a part of the resolved
text is spelt out to, with no brace before that part.  That is so for every aggregation that values
leave alone, if what is selected before it resolves to texts without braces. -/
theorem label_infix_compile_iff (hstructured : t.rawQuery = false) :
    ∃ q, t.compile d source scope = .ok q ∧
      (∀ key, key ∈ q.labels.map (·.1) ↔ key ∈ t.aggregations.map Aggregation.expression) ∧
      (∀ key ∈ q.labels.map (·.1), key.toList <:+: q.text.toList ↔
        ∃ front w back, d.resolve scope .glob (t.assemble (d.filterCondition source)) =
          front ++ w ++ back ∧ '{' ∉ front.toList ∧ spellSets w = key) ∧
      ∀ front a back, t.aggregations = front ++ a :: back →
        (∀ x ∈ t.metrics ++ front.map Aggregation.expression,
          ReferenceClosed x ∧ '{' ∉ (d.resolve scope .glob x).toList) →
        ReferenceClosed a.expression → d.resolveQuery scope a.expression = a.expression →
        a.expression.toList <:+: q.text.toList := by
  refine ⟨⟨d.resolveQuery scope (t.assemble (d.filterCondition source)), t.labels⟩, ?_,
    fun key => mem_keys_labels_iff, ?_, ?_⟩
  · rw [compile, if_neg (by simp [hstructured])]
  · intro key hkey
    obtain ⟨a, -, rfl⟩ := List.mem_map.1 (mem_keys_labels_iff.1 hkey)
    exact a.infix_spellSets_iff_exists_part
  · intro front a back h hfront hclosed hunchanged
    exact a.infix_spellSets_iff_exists_part.2
      (exists_part_of_unchanged h hfront hclosed hunchanged _)

end

/-- A target with two aggregations behind a metric that refers to a variable. -/
def trafficTarget : Target where
  series := "interface"
  metrics := ["$node"]
  aggregations := [⟨"input", .named "max", "in"⟩, ⟨"output", .percentile "95", ""⟩]

theorem label_infix_compile_iff_trafficTarget :
    trafficTarget.rawQuery = false ∧
      ∃ q, trafficTarget.compile .empty "flows" [("node", .single "r1")] = .ok q ∧
        "aggregate(values.output, $quantify, percentile(95))".toList <:+: q.text.toList := by
  have hstructured : trafficTarget.rawQuery = false := rfl
  obtain ⟨q, hq, -, -, hkeep⟩ :
      ∃ q, trafficTarget.compile .empty "flows" [("node", .single "r1")] = .ok q ∧ _ :=
    label_infix_compile_iff hstructured
  refine ⟨rfl, q, hq, ?_⟩
  refine hkeep [⟨"input", .named "max", "in"⟩] ⟨"output", .percentile "95", ""⟩ [] rfl ?_ ?_ ?_
  · decide +kernel
  · decide +kernel
  · decide +kernel

/-- A target that aggregates the field which a variable names. -/
def fieldTarget : Target where
  series := "interface"
  aggregations := [⟨"$f", .named "max", ""⟩]

/-- A field that refers to a variable with a value is written in, but not in the key. -/
theorem label_lost :
    ¬ ∀ (t : Target) (d : Dashboard) (source : String) (scope : Scope), t.rawQuery = false →
      ∃ q, t.compile d source scope = .ok q ∧
        ∀ key ∈ q.labels.map (·.1), key.toList <:+: q.text.toList := by
  intro hclaim
  let d : Dashboard := { declarations := [.custom "f" (.single "input")] }
  obtain ⟨q, hq, hin⟩ := hclaim fieldTarget d "tsds" [] rfl
  have htext : d.resolveQuery [] (fieldTarget.assemble (d.filterCondition "tsds")) =
      "get aggregate(values.input, $quantify, max) between ($START,$END) from interface" := by
    decide +kernel
  have hlabels : fieldTarget.labels = [("aggregate(values.$f, $quantify, max)", "")] := by
    decide +kernel
  rw [compile, if_neg (by decide), htext, hlabels] at hq
  obtain rfl := Except.ok.inj hq
  have hkey := hin "aggregate(values.$f, $quantify, max)" (by simp)
  exact absurd hkey (by decide +kernel)

end Target
end PanelQuery
