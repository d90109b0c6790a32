import Mathlib.Data.List.TakeWhile
import PanelQuery.Template.Interpolation

/-!
# Templates - sets of values spelt out

Spelling out sets leaves a text alone up to its first opening brace, and leaves no comma behind it.

Main results:

- `infix_spellSets_iff`: words with a comma survive in front of the first brace, and nowhere else.
- `infix_spellSets_iff_exists`: words with a comma, with braces or without, come from a part of the
  text with no brace before it.
-/

namespace PanelQuery
namespace Template

/-- The characters of a text before its first opening brace. -/
def beforeSets (text : String) : List Char :=
  text.toList.takeWhile (· != '{')

@[simp]
theorem joinAlternatives_nil : joinAlternatives [] = [] :=
  rfl

@[simp]
theorem joinAlternatives_cons (c : Char) (cs : List Char) :
    joinAlternatives (c :: cs) =
      (if c == ',' then [' ', 'o', 'r', ' '] else [c]) ++ joinAlternatives cs :=
  rfl

theorem comma_not_mem_joinAlternatives (cs : List Char) : ',' ∉ joinAlternatives cs := by
  induction cs with
  | nil => simp
  | cons c cs ih =>
      rw [joinAlternatives_cons, List.mem_append, not_or]
      refine ⟨?_, ih⟩
      by_cases hc : c = ','
      · subst hc
        decide
      · simp [hc, Ne.symm hc]

theorem toList_spellSets (text : String) :
    (spellSets text).toList =
      beforeSets text ++ joinAlternatives (text.toList.dropWhile (· != '{')) := by
  simp [spellSets, beforeSets]

/-- What stands behind the text before the first brace begins with that brace, if it is there. -/
theorem head?_joinAlternatives_dropWhile {cs : List Char} {c : Char}
    (h : c ∈ (joinAlternatives (cs.dropWhile (· != '{'))).head?) : c = '{' := by
  cases hdrop : cs.dropWhile (· != '{') with
  | nil => simp [hdrop] at h
  | cons b rest =>
      have hb : b = '{' := by
        have hnot := List.head?_dropWhile_not (· != '{') cs
        simpa [hdrop] using hnot
      subst hb
      simpa [hdrop, eq_comm] using h

/-- A word with a comma and without an opening brace occurs in a text with its sets spelt out
exactly if it occurs before the first brace. -/
theorem infix_spellSets_iff {w : List Char} {text : String} (hcomma : ',' ∈ w) (hbrace : '{' ∉ w) :
    w <:+: (spellSets text).toList ↔ w <:+: beforeSets text := by
  rw [toList_spellSets]
  constructor
  · intro h
    rcases List.infix_append_iff.1 h with h | h | ⟨x, y, rfl, hx, hy⟩
    · exact h
    · exact absurd (h.subset hcomma) (comma_not_mem_joinAlternatives _)
    · cases y with
      | nil => simpa using hx.isInfix
      | cons c y =>
          obtain ⟨rest, hrest⟩ := hy
          have hc : c = '{' := head?_joinAlternatives_dropWhile (by rw [← hrest]; rfl)
          exact absurd (by simp [hc]) hbrace
  · intro h
    exact h.trans (List.prefix_append _ _).isInfix

theorem beforeSets_append_of_mem {a : String} (h : '{' ∈ a.toList) (b : String) :
    beforeSets (a ++ b) = beforeSets a := by
  rw [beforeSets, String.toList_append, List.takeWhile_append, if_neg]
  · rfl
  · intro hlength
    have hself := (List.takeWhile_prefix (· != '{')).eq_of_length hlength
    have hall : (a.toList.takeWhile (· != '{')).all (· != '{') = true := List.all_takeWhile
    rw [hself, List.all_eq_true] at hall
    exact absurd (hall '{' h) (by decide)

theorem ne_brace_of_not_mem {cs : List Char} (h : '{' ∉ cs) : ∀ c ∈ cs, (c != '{') = true := by
  intro c hc
  simpa using fun hc' => h (by rwa [← hc'])

theorem beforeSets_append_of_not_mem {a : String} (h : '{' ∉ a.toList) (b : String) :
    beforeSets (a ++ b) = a.toList ++ beforeSets b := by
  rw [beforeSets, String.toList_append, List.takeWhile_append_of_pos (ne_brace_of_not_mem h)]
  rfl

/-! ## Words that may have braces -/

theorem joinAlternatives_append (cs ds : List Char) :
    joinAlternatives (cs ++ ds) = joinAlternatives cs ++ joinAlternatives ds :=
  List.flatMap_append

/-- Spelt-out text that does not break off inside a joining word comes from a front part. -/
theorem exists_prefix_joinAlternatives {w cs : List Char} (h : w <+: joinAlternatives cs)
    (hlast : ∀ c ∈ w.getLast?, c ∉ [' ', 'o', 'r']) :
    ∃ ds, ds <+: cs ∧ joinAlternatives ds = w := by
  induction cs generalizing w with
  | nil => exact ⟨[], List.nil_prefix, (List.prefix_nil.1 h).symm⟩
  | cons c cs ih =>
      rw [joinAlternatives_cons] at h
      -- The text ends within what the first character became, or goes on behind it.
      rcases List.prefix_or_prefix_of_prefix h (List.prefix_append _ _) with hin | ⟨v, rfl⟩
      · cases hw : w.getLast? with
        | none => exact ⟨[], List.nil_prefix, (List.getLast?_eq_none_iff.1 hw).symm⟩
        | some x =>
            have hx : x ∈ w := List.mem_of_getLast? hw
            by_cases hc : c = ','
            · have hmem : x ∈ [' ', 'o', 'r', ' '] := by simpa [hc] using hin.subset hx
              have hjoin : ∀ y ∈ [' ', 'o', 'r', ' '], y ∈ [' ', 'o', 'r'] := by simp
              exact absurd (hjoin x hmem) (hlast x hw)
            · rw [if_neg (by simpa using hc)] at hin
              obtain rfl : w = [c] :=
                hin.eq_of_length_le (List.length_pos_of_mem hx)
              exact ⟨[c], by simp, by simp [hc]⟩
      · obtain ⟨ds, hds, rfl⟩ := ih ((List.prefix_append_right_inj _).1 h) fun x hx =>
          hlast x (by rw [List.getLast?_append, Option.mem_def.1 hx, Option.some_or]; rfl)
        exact ⟨c :: ds, List.cons_prefix_cons.2 ⟨rfl, hds⟩, joinAlternatives_cons c ds⟩

/-- Up to the first brace nothing is spelt out. -/
theorem spellSets_append_of_not_mem {a : String} (h : '{' ∉ a.toList) (b : String) :
    spellSets (a ++ b) = a ++ spellSets b := by
  apply String.toList_injective
  rw [toList_spellSets, beforeSets_append_of_not_mem h, String.toList_append, String.toList_append,
    toList_spellSets, List.dropWhile_append_of_pos (ne_brace_of_not_mem h), List.append_assoc]

/-- From the first brace on everything is spelt out. -/
theorem spellSets_append_of_mem {a : String} (h : '{' ∈ a.toList) (b : String) :
    (spellSets (a ++ b)).toList = (spellSets a).toList ++ joinAlternatives b.toList := by
  have hdrop : (a ++ b).toList.dropWhile (· != '{') =
      a.toList.dropWhile (· != '{') ++ b.toList := by
    rw [String.toList_append, List.dropWhile_append, if_neg]
    intro hempty
    rw [List.isEmpty_iff, List.dropWhile_eq_nil_iff] at hempty
    exact absurd (hempty '{' h) (by decide)
  rw [toList_spellSets, toList_spellSets, beforeSets_append_of_mem h, hdrop,
    joinAlternatives_append, List.append_assoc]

theorem spellSets_of_not_mem {a : String} (h : '{' ∉ a.toList) : spellSets a = a := by
  have hempty : spellSets "" = "" := rfl
  simpa [hempty] using spellSets_append_of_not_mem h ""

theorem spellSets_prefix_append (a b : String) :
    (spellSets a).toList <+: (spellSets (a ++ b)).toList := by
  by_cases h : '{' ∈ a.toList
  · rw [spellSets_append_of_mem h]
    exact List.prefix_append _ _
  · rw [spellSets_append_of_not_mem h, spellSets_of_not_mem h, String.toList_append]
    exact List.prefix_append _ _

theorem brace_not_mem_beforeSets (text : String) : '{' ∉ beforeSets text := by
  intro h
  have hall : (beforeSets text).all (· != '{') = true := List.all_takeWhile
  exact absurd (List.all_eq_true.1 hall '{' h) (by decide)

/-- A front part of what stands from the first brace on is spelt out as a whole. -/
theorem toList_spellSets_of_prefix {cs ds : List Char} (h : ds <+: cs.dropWhile (· != '{')) :
    (spellSets (String.ofList ds)).toList = joinAlternatives ds := by
  cases ds with
  | nil => rfl
  | cons c ds =>
      obtain ⟨rest, hrest⟩ := h
      have hc : c = '{' := by
        have hnot := List.head?_dropWhile_not (· != '{') cs
        simpa [← hrest] using hnot
      simp [toList_spellSets, beforeSets, hc]

/-- A word with a comma that does not break off inside a joining word occurs in a text with its sets
spelt out exactly if it is what a part of the text is spelt out to, with no brace before that part.
-/
theorem infix_spellSets_iff_exists {w text : String} (hcomma : ',' ∈ w.toList)
    (hlast : ∀ c ∈ w.toList.getLast?, c ∉ [' ', 'o', 'r']) :
    w.toList <:+: (spellSets text).toList ↔
      ∃ a v b, text = a ++ v ++ b ∧ '{' ∉ a.toList ∧ spellSets v = w := by
  constructor
  · intro h
    rw [toList_spellSets] at h
    have htext : text.toList = beforeSets text ++ text.toList.dropWhile (· != '{') :=
      List.takeWhile_append_dropWhile.symm
    -- The word lies before the first brace, behind it or across it.
    rcases List.infix_append_iff.1 h with ⟨a, b, hab⟩ | hin | ⟨x, y, hw, ⟨a, hax⟩, hy⟩
    · have hfree := brace_not_mem_beforeSets text
      simp only [← hab, List.mem_append, not_or] at hfree
      refine ⟨.ofList a, w, .ofList (b ++ text.toList.dropWhile (· != '{')), ?_,
        by simpa using hfree.1.1, spellSets_of_not_mem hfree.1.2⟩
      apply String.toList_injective
      refine htext.trans ?_
      rw [← hab]
      simp
    · exact absurd (hin.subset hcomma) (comma_not_mem_joinAlternatives _)
    · obtain ⟨ds, hds, rfl⟩ := exists_prefix_joinAlternatives hy fun c hc =>
        hlast c (by rw [hw, List.getLast?_append, Option.mem_def.1 hc, Option.some_or]; rfl)
      have hfree := brace_not_mem_beforeSets text
      simp only [← hax, List.mem_append, not_or] at hfree
      have hspelt := toList_spellSets_of_prefix hds
      obtain ⟨rest, hrest⟩ := hds
      refine ⟨.ofList a, .ofList x ++ .ofList ds, .ofList rest, ?_, by simpa using hfree.1, ?_⟩
      · apply String.toList_injective
        refine htext.trans ?_
        rw [← hax, ← hrest]
        simp
      · rw [spellSets_append_of_not_mem (by simpa using hfree.2)]
        apply String.toList_injective
        rw [String.toList_append, hspelt, hw, String.toList_ofList]
  · rintro ⟨a, v, b, rfl, ha, rfl⟩
    rw [String.append_assoc, spellSets_append_of_not_mem ha, String.toList_append]
    exact (spellSets_prefix_append v b).isInfix.trans (List.suffix_append _ _).isInfix

end Template
end PanelQuery
