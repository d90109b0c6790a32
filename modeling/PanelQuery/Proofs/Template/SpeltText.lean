import PanelQuery.Proofs.Template.SetSpelling

/-!
# Templates - text with its sets spelt out

Spelling out sets turns every comma from the first opening brace on into a word, and does nothing
else.  It makes neither braces nor commas, so the first brace stays where it is and nothing is left
to spell out.

Main results:

- `joinAlternatives_eq_intercalate`: what stands between commas is kept.
- `spellSets_eq_self_iff`: which texts have nothing to spell out.
- `spellSets_once_and_local`: spelling out is done once, and piece by piece.
-/

namespace PanelQuery
namespace Template

/-! ## Words for commas -/

/-- What stands between the commas of a text, joined by a word instead. -/
def commasToWords (text : String) : String :=
  String.ofList ([' ', 'o', 'r', ' '].intercalate (text.toList.splitOn ','))

theorem intercalate_modifyHead_cons {α : Type} (sep : List α) (c : α) {parts : List (List α)}
    (h : parts ≠ []) :
    sep.intercalate (parts.modifyHead (c :: ·)) = c :: sep.intercalate parts := by
  cases parts with
  | nil => exact absurd rfl h
  | cons part parts => cases parts with
    | nil => simp
    | cons next parts => simp [List.intercalate_cons_cons]

/-- What stands between commas is kept. -/
theorem joinAlternatives_eq_intercalate (cs : List Char) :
    joinAlternatives cs = [' ', 'o', 'r', ' '].intercalate (cs.splitOn ',') := by
  induction cs with
  | nil => simp
  | cons c cs ih =>
      have hparts : cs.splitOn ',' ≠ [] := List.splitOn_ne_nil _ _
      rw [joinAlternatives_cons, List.splitOn_cons_eq_if_modifyHead, ih]
      by_cases hc : c = ','
      · simp only [hc, beq_self_eq_true, if_true]
        rw [List.intercalate_cons_of_ne_nil hparts, List.nil_append]
      · rw [if_neg (by simpa using hc), if_neg (by simpa using hc),
          intercalate_modifyHead_cons _ _ hparts, List.singleton_append]

theorem toList_commasToWords (text : String) :
    (commasToWords text).toList = joinAlternatives text.toList := by
  rw [commasToWords, String.toList_ofList, joinAlternatives_eq_intercalate]

theorem joinAlternatives_eq_self_iff {cs : List Char} :
    joinAlternatives cs = cs ↔ ',' ∉ cs := by
  constructor
  · intro h
    rw [← h]
    exact comma_not_mem_joinAlternatives cs
  · intro h
    rw [joinAlternatives_eq_intercalate, List.splitOn_eq_singleton h, List.intercalate_singleton]

/-! ## Texts with a brace -/

/-- The characters of a text from its first opening brace on, if it has one. -/
def fromSets (text : String) : List Char :=
  text.toList.dropWhile (· != '{')

/-- A text with a brace is what stands before its first brace, the brace, and what stands behind. -/
theorem exists_eq_append_brace {text : String} (h : '{' ∈ text.toList) :
    ∃ a b : String, text = a ++ "\x7b" ++ b ∧ '{' ∉ a.toList := by
  obtain ⟨as, bs, hsplit, has⟩ := List.eq_append_cons_of_mem h
  refine ⟨.ofList as, .ofList bs, ?_, by simpa using has⟩
  apply String.toList_injective
  simp [hsplit]

theorem brace_mem_append_brace (a : String) : '{' ∈ (a ++ "\x7b").toList := by
  simp

/-- Behind the first brace every comma becomes a word. -/
theorem spellSets_append_brace {a : String} (h : '{' ∉ a.toList) (b : String) :
    spellSets (a ++ "\x7b" ++ b) = a ++ "\x7b" ++ commasToWords b := by
  have hbrace : spellSets "\x7b" = "\x7b" := by decide
  apply String.toList_injective
  rw [spellSets_append_of_mem (brace_mem_append_brace a), spellSets_append_of_not_mem h, hbrace,
    ← toList_commasToWords, ← String.toList_append]

theorem fromSets_append_brace {a : String} (h : '{' ∉ a.toList) (b : String) :
    fromSets (a ++ "\x7b" ++ b) = '{' :: b.toList := by
  rw [fromSets, String.toList_append, String.toList_append, List.append_assoc,
    List.dropWhile_append_of_pos (ne_brace_of_not_mem h)]
  simp

theorem idxOf_append_brace {a : String} (h : '{' ∉ a.toList) (b : String) :
    (a ++ "\x7b" ++ b).toList.idxOf '{' = a.toList.length := by
  rw [String.toList_append, String.toList_append, List.append_assoc, List.idxOf_append, if_neg h]
  simp

theorem fromSets_of_not_mem {text : String} (h : '{' ∉ text.toList) : fromSets text = [] := by
  exact List.dropWhile_eq_nil_iff.2 (ne_brace_of_not_mem h)

/-- From the first brace on a spelt-out text is the text with words for commas. -/
theorem fromSets_spellSets (text : String) :
    fromSets (spellSets text) = joinAlternatives (fromSets text) := by
  by_cases h : '{' ∈ text.toList
  · obtain ⟨a, b, rfl, ha⟩ := exists_eq_append_brace h
    rw [spellSets_append_brace ha, fromSets_append_brace ha, fromSets_append_brace ha,
      toList_commasToWords]
    rfl
  · rw [spellSets_of_not_mem h, fromSets_of_not_mem h, joinAlternatives_nil]

/-- A text is left alone exactly if it has no comma from its first brace on. -/
theorem spellSets_eq_self_iff {text : String} : spellSets text = text ↔ ',' ∉ fromSets text := by
  by_cases h : '{' ∈ text.toList
  · obtain ⟨a, b, rfl, ha⟩ := exists_eq_append_brace h
    rw [spellSets_append_brace ha, fromSets_append_brace ha, String.append_right_inj,
      ← String.toList_inj, toList_commasToWords, joinAlternatives_eq_self_iff]
    simp
  · simp [spellSets_of_not_mem h, fromSets_of_not_mem h]

theorem comma_not_mem_fromSets_spellSets (text : String) : ',' ∉ fromSets (spellSets text) := by
  rw [fromSets_spellSets]
  exact comma_not_mem_joinAlternatives _

/-- The first brace stays where it is. -/
theorem idxOf_spellSets (text : String) :
    (spellSets text).toList.idxOf '{' = text.toList.idxOf '{' := by
  by_cases h : '{' ∈ text.toList
  · obtain ⟨a, b, rfl, ha⟩ := exists_eq_append_brace h
    rw [spellSets_append_brace ha, idxOf_append_brace ha, idxOf_append_brace ha]
  · rw [spellSets_of_not_mem h]

/-- Sets are spelt out once, and piece by piece.  A text without braces is left alone, and so is
what stands before the first brace of any text; behind it every comma becomes a word and nothing
else changes.  So the brace stays where it is, no comma is left from it on, and spelling out again
changes nothing.  Of two pieces the second is spelt out as a text of its own, or has a word for
every comma if there was a brace in the first.  And query text is what the template resolves to
exactly if that has no comma from its first brace on. -/
theorem spellSets_once_and_local :
    (∀ a : String, '{' ∉ a.toList →
      spellSets a = a ∧ ∀ b, spellSets (a ++ "\x7b" ++ b) = a ++ "\x7b" ++ commasToWords b) ∧
    (∀ text, (spellSets text).toList.idxOf '{' = text.toList.idxOf '{' ∧
      ',' ∉ fromSets (spellSets text) ∧ spellSets (spellSets text) = spellSets text) ∧
    (∀ a b : String, ('{' ∉ a.toList → spellSets (a ++ b) = a ++ spellSets b) ∧
      ('{' ∈ a.toList → spellSets (a ++ b) = spellSets a ++ commasToWords b)) ∧
    ∀ (d : Dashboard) (scope : Scope) (text : String),
      ',' ∉ fromSets (d.resolveQuery scope text) ∧
        (d.resolveQuery scope text = d.resolve scope .glob text ↔
          '{' ∉ (d.resolve scope .glob text).toList ∨
            ',' ∉ fromSets (d.resolve scope .glob text)) := by
  refine ⟨?_, ?_, ?_, ?_⟩
  · intro a ha
    exact ⟨spellSets_of_not_mem ha, spellSets_append_brace ha⟩
  · intro text
    have hcomma := comma_not_mem_fromSets_spellSets text
    exact ⟨idxOf_spellSets text, hcomma, spellSets_eq_self_iff.2 hcomma⟩
  · intro a b
    refine ⟨fun ha => spellSets_append_of_not_mem ha b, fun ha => ?_⟩
    rw [← String.toList_inj, spellSets_append_of_mem ha, String.toList_append, toList_commasToWords]
  · intro d scope text
    refine ⟨comma_not_mem_fromSets_spellSets _, ?_⟩
    rw [Dashboard.resolveQuery, spellSets_eq_self_iff, iff_or_self]
    intro hbrace
    simp [fromSets_of_not_mem hbrace]

/-- A query whose first comma stands before the set and whose others stand in and behind it. -/
theorem spellSets_once_and_local_query :
    '{' ∉ "get a, b where x = ".toList ∧
      spellSets ("get a, b where x = " ++ "\x7b" ++ "1,2\x7d, y") =
        "get a, b where x = \x7b1 or 2\x7d or  y" ∧
      '{' ∈ "x = \x7b1".toList ∧
      spellSets ("x = \x7b1" ++ ",2\x7d") = spellSets "x = \x7b1" ++ commasToWords ",2\x7d" := by
  have hfree : '{' ∉ "get a, b where x = ".toList := by decide
  have hset : '{' ∈ "x = \x7b1".toList := by decide
  have hwords : "get a, b where x = " ++ "\x7b" ++ commasToWords "1,2\x7d, y" =
      "get a, b where x = \x7b1 or 2\x7d or  y" := by
    decide +kernel
  refine ⟨hfree, ?_, hset, (spellSets_once_and_local.2.2.1 _ _).2 hset⟩
  rw [← hwords]
  exact (spellSets_once_and_local.1 _ hfree).2 _

end Template
end PanelQuery
