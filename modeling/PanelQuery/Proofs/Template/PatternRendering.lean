import PanelQuery.Proofs.Template.Segmentation
import PanelQuery.Template.Interpolation

/-!
# Templates - selections as patterns

A selection that is written as a pattern can be read back.  A backslash stands before every pattern
character of a value, so the marks around and between values are the only pattern characters without
one: a parenthesis at the front tells a list from a single value, a bar goes on to a further value,
and a parenthesis ends the list.

Main results:

- `escapeChars_append_inj`: an escaped text is read up to the mark behind it.
- `write_regex_eq_iff`: two selections are the same pattern exactly if they have the same values.
- `resolve_regex_eq_iff`: so are the texts that a reference to them resolves to.
-/

namespace PanelQuery
namespace Template
namespace Rendering

/-! ## Escaped characters -/

/-- The characters of a text as a pattern: a backslash before every pattern character. -/
def escapeChars (cs : List Char) : List Char :=
  cs.flatMap fun c => if isPatternChar c then ['\\', c] else [c]

@[simp]
theorem escapeChars_nil : escapeChars [] = [] :=
  rfl

theorem escapeChars_cons_of_pattern {c : Char} (h : isPatternChar c = true) (cs : List Char) :
    escapeChars (c :: cs) = '\\' :: c :: escapeChars cs := by
  simp [escapeChars, h]

theorem escapeChars_cons_of_plain {c : Char} (h : isPatternChar c = false) (cs : List Char) :
    escapeChars (c :: cs) = c :: escapeChars cs := by
  simp [escapeChars, h]

@[simp]
theorem toList_escapePattern (s : String) : (escapePattern s).toList = escapeChars s.toList := by
  simp [escapePattern, escapeChars]

/-- A text ends, or goes on with a pattern character that has no backslash before it. -/
def Marked (cs : List Char) : Prop :=
  ∀ c ∈ cs.head?, isPatternChar c = true ∧ c ≠ '\\'

@[simp]
theorem marked_cons_iff {c : Char} {cs : List Char} :
    Marked (c :: cs) ↔ isPatternChar c = true ∧ c ≠ '\\' := by
  simp [Marked]

/-- No escaped text begins with a mark. -/
theorem not_marked_escapeChars_cons (c : Char) (cs rest : List Char) :
    ¬ Marked (escapeChars (c :: cs) ++ rest) := by
  cases hc : isPatternChar c with
  | true => simp [escapeChars_cons_of_pattern hc]
  | false => simp [escapeChars_cons_of_plain hc, hc]

/-- The first character of an escaped text is read back. -/
theorem escapeChars_cons_append_inj {c d : Char} {cs ds xs ys : List Char}
    (h : escapeChars (c :: cs) ++ xs = escapeChars (d :: ds) ++ ys) :
    c = d ∧ escapeChars cs ++ xs = escapeChars ds ++ ys := by
  have hbackslash : isPatternChar '\\' = true := by decide
  cases hc : isPatternChar c with
  | true =>
      cases hd : isPatternChar d with
      | true => simpa [escapeChars_cons_of_pattern hc, escapeChars_cons_of_pattern hd] using h
      | false =>
          obtain ⟨rfl, -⟩ : '\\' = d ∧ _ := by
            simpa [escapeChars_cons_of_pattern hc, escapeChars_cons_of_plain hd] using h
          simp [hbackslash] at hd
  | false =>
      cases hd : isPatternChar d with
      | true =>
          obtain ⟨rfl, -⟩ : c = '\\' ∧ _ := by
            simpa [escapeChars_cons_of_plain hc, escapeChars_cons_of_pattern hd] using h
          simp [hbackslash] at hc
      | false => simpa [escapeChars_cons_of_plain hc, escapeChars_cons_of_plain hd] using h

/-- An escaped text is read back, up to the mark behind it. -/
theorem escapeChars_append_inj {cs ds xs ys : List Char} (hxs : Marked xs) (hys : Marked ys)
    (h : escapeChars cs ++ xs = escapeChars ds ++ ys) : cs = ds ∧ xs = ys := by
  induction cs generalizing ds with
  | nil => cases ds with
    | nil => exact ⟨rfl, h⟩
    | cons d ds =>
        obtain rfl : xs = escapeChars (d :: ds) ++ ys := h
        exact absurd hxs (not_marked_escapeChars_cons d ds ys)
  | cons c cs ih => cases ds with
    | nil =>
        obtain rfl : escapeChars (c :: cs) ++ xs = ys := h
        exact absurd hys (not_marked_escapeChars_cons c cs xs)
    | cons d ds =>
        obtain ⟨rfl, hrest⟩ := escapeChars_cons_append_inj h
        obtain ⟨rfl, hends⟩ := ih hrest
        exact ⟨rfl, hends⟩

/-! ## Alternatives -/

/-- Further alternatives, each behind a bar, up to the closing parenthesis. -/
def furtherAlternatives (vs : List String) : List Char :=
  vs.flatMap (fun v => '|' :: escapeChars v.toList) ++ [')']

@[simp]
theorem furtherAlternatives_nil : furtherAlternatives [] = [')'] :=
  rfl

@[simp]
theorem furtherAlternatives_cons (v : String) (vs : List String) :
    furtherAlternatives (v :: vs) = '|' :: (escapeChars v.toList ++ furtherAlternatives vs) := by
  simp [furtherAlternatives]

theorem marked_furtherAlternatives (vs : List String) : Marked (furtherAlternatives vs) := by
  cases vs with
  | nil =>
      rw [furtherAlternatives_nil, marked_cons_iff]
      decide
  | cons v vs =>
      rw [furtherAlternatives_cons, marked_cons_iff]
      decide

/-- Further alternatives are read back one by one. -/
theorem furtherAlternatives_inj {vs ws : List String}
    (h : furtherAlternatives vs = furtherAlternatives ws) : vs = ws := by
  induction vs generalizing ws with
  | nil => cases ws with
    | nil => rfl
    | cons w ws => simp at h
  | cons v vs ih => cases ws with
    | nil => simp at h
    | cons w ws =>
        rw [furtherAlternatives_cons, furtherAlternatives_cons, List.cons.injEq] at h
        obtain ⟨hvalue, hrest⟩ := escapeChars_append_inj (marked_furtherAlternatives vs)
          (marked_furtherAlternatives ws) h.2
        rw [String.toList_inj.1 hvalue, ih hrest]

/-! ## Selections -/

/-- The pattern for some values: a single one by itself, and any other number of them between
parentheses. -/
def patternChars : List String → List Char
  | [] => ['(', ')']
  | [v] => escapeChars v.toList
  | v :: w :: vs => '(' :: (escapeChars v.toList ++ furtherAlternatives (w :: vs))

theorem toList_intercalate_escapePattern (v : String) (vs : List String) :
    ("|".intercalate ((v :: vs).map escapePattern) ++ ")").toList =
      escapeChars v.toList ++ furtherAlternatives vs := by
  induction vs generalizing v with
  | nil => simp
  | cons w vs ih =>
      rw [List.map_cons, List.map_cons, String.intercalate_cons_cons, String.append_assoc,
        String.append_assoc, String.toList_append, String.toList_append, ← List.map_cons, ih]
      simp

/-- A selection is written as the pattern for its values, whether it was given as a list or not. -/
theorem toList_write_regex (s : Selection) :
    (Rendering.regex.write s).toList = patternChars s.values := by
  cases s with
  | single v => simp [write, Selection.values, patternChars]
  | several vs => match vs with
    | [] => simp [write, Selection.values, patternChars]
    | [v] => simp [write, Selection.values, patternChars]
    | v :: w :: vs =>
        have hlist := toList_intercalate_escapePattern v (w :: vs)
        simpa [write, Selection.values, patternChars, String.append_assoc] using hlist

/-- A parenthesis at the front is not that of an escaped value. -/
theorem escapeChars_ne_parenthesis (cs rest : List Char) : escapeChars cs ≠ '(' :: rest := by
  intro h
  have hends : Marked ('(' :: rest) := by
    rw [marked_cons_iff]
    decide
  have hread : escapeChars cs ++ [] = escapeChars [] ++ '(' :: rest := by
    simpa using h
  have hnothing := (escapeChars_append_inj (by simp [Marked]) hends hread).2
  simp at hnothing

/-- A list with alternatives does not end where one without any does. -/
theorem escapeChars_append_furtherAlternatives_ne (cs : List Char) (w : String) (vs : List String) :
    escapeChars cs ++ furtherAlternatives (w :: vs) ≠ [')'] := by
  intro h
  have hends : Marked [')'] := by
    rw [marked_cons_iff]
    decide
  have hread : escapeChars cs ++ furtherAlternatives (w :: vs) = escapeChars [] ++ [')'] := h
  have hbar := (escapeChars_append_inj (marked_furtherAlternatives _) hends hread).2
  simp at hbar

/-- The values are read back from their pattern. -/
theorem patternChars_injective : Function.Injective patternChars := by
  intro vs ws h
  match vs, ws with
  | [], [] => rfl
  | [], [w] => exact absurd h.symm (escapeChars_ne_parenthesis _ _)
  | [v], [] => exact absurd h (escapeChars_ne_parenthesis _ _)
  | [v], w :: x :: ws => exact absurd h (escapeChars_ne_parenthesis _ _)
  | v :: x :: vs, [w] => exact absurd h.symm (escapeChars_ne_parenthesis _ _)
  | [v], [w] =>
      have hread : escapeChars v.toList ++ [] = escapeChars w.toList ++ [] :=
        congrArg (· ++ []) h
      obtain ⟨hvalue, -⟩ := escapeChars_append_inj (by simp [Marked]) (by simp [Marked]) hread
      rw [String.toList_inj.1 hvalue]
  | [], w :: x :: ws =>
      rw [patternChars, patternChars, List.cons.injEq] at h
      exact absurd h.2.symm (escapeChars_append_furtherAlternatives_ne _ _ _)
  | v :: x :: vs, [] =>
      rw [patternChars, patternChars, List.cons.injEq] at h
      exact absurd h.2 (escapeChars_append_furtherAlternatives_ne _ _ _)
  | v :: x :: vs, w :: y :: ws =>
      rw [patternChars, patternChars, List.cons.injEq] at h
      obtain ⟨hvalue, hrest⟩ := escapeChars_append_inj (marked_furtherAlternatives _)
        (marked_furtherAlternatives _) h.2
      rw [String.toList_inj.1 hvalue, furtherAlternatives_inj hrest]

/-- Two selections are the same pattern exactly if they have the same values. -/
theorem write_regex_eq_iff {s s' : Selection} :
    Rendering.regex.write s = Rendering.regex.write s' ↔ s.values = s'.values := by
  rw [← String.toList_inj, toList_write_regex, toList_write_regex]
  exact patternChars_injective.eq_iff

end Rendering

/-! ## References -/

/-- A bare reference is all of its text. -/
theorem segments_bare {name : String} (hname : IsName name.toList) :
    segments ("$" ++ name) = [.reference (.bare name)] := by
  refine (segments_eq_of_allFit ?_ ⟨⟨Reference.shaped_bare_iff.2 hname, ?_⟩, trivial⟩)
  · simp [Reference.rawChars]
  · intro _ _
    exact Text.stopsBefore_nil isNameChar

/-- A reference to a variable with a value resolves to the value alone. -/
theorem Dashboard.resolve_bare {d : Dashboard} {scope : Scope} {rendering : Rendering}
    {name : String} {s : Selection} (hname : IsName name.toList)
    (hs : d.valueOf scope name = some s) :
    d.resolve scope rendering ("$" ++ name) = rendering.write s := by
  simp [resolve, segments_bare hname, resolveSegment, resolveReference, Reference.name,
    Reference.format, hs]

/-- Two values of a variable, in whatever states of the dashboard, resolve to the same pattern
exactly if they are the same list of values. -/
theorem resolve_regex_eq_iff {d d' : Dashboard} {scope scope' : Scope} {name : String}
    {s s' : Selection} (hname : IsName name.toList) (hs : d.valueOf scope name = some s)
    (hs' : d'.valueOf scope' name = some s') :
    d.resolve scope .regex ("$" ++ name) = d'.resolve scope' .regex ("$" ++ name) ↔
      s.values = s'.values := by
  rw [Dashboard.resolve_bare hname hs, Dashboard.resolve_bare hname hs']
  exact Rendering.write_regex_eq_iff

/-- A variable with two values, of which one reads like the end of a list. -/
def hostDashboard : Dashboard :=
  { declarations := [.custom "x" (.several ["r1|r2)", ""])] }

/-- What a request may set the variable to: the same text, split at its bar. -/
def splitHosts : Selection :=
  .several ["r1", "r2)", ""]

theorem resolve_regex_eq_iff_hostDashboard :
    IsName "x".toList ∧ hostDashboard.valueOf [] "x" = some (.several ["r1|r2)", ""]) ∧
      hostDashboard.valueOf [("x", splitHosts)] "x" = some splitHosts ∧
        (hostDashboard.resolve [] .regex ("$" ++ "x") =
            hostDashboard.resolve [("x", splitHosts)] .regex ("$" ++ "x") ↔
          ["r1|r2)", ""] = ["r1", "r2)", ""]) := by
  have hletter : isNameChar 'x' = true := by decide
  have hname : IsName "x".toList := by
    simp [IsName, hletter]
  have hvalue : hostDashboard.valueOf [] "x" = some (.several ["r1|r2)", ""]) := by decide
  have hsplit : hostDashboard.valueOf [("x", splitHosts)] "x" = some splitHosts := by decide
  exact ⟨hname, hvalue, hsplit, resolve_regex_eq_iff hname hvalue hsplit⟩

end Template
end PanelQuery
