import PanelQuery.Text.CharSet

/-!
# Text - white space

White space in the Unicode sense, and the removal of it from both ends of a text.

Main results:

- `trim_eq_nil_iff`: a trimmed text is empty exactly when the text is white space only.
-/

namespace PanelQuery
namespace Text

/-- The characters with the Unicode property White_Space. -/
def blankRanges : CharSet := [
  (0x9, 0xD), (0x20, 0x20), (0x85, 0x85), (0xA0, 0xA0), (0x1680, 0x1680), (0x2000, 0x200A),
  (0x2028, 0x2029), (0x202F, 0x202F), (0x205F, 0x205F), (0x3000, 0x3000)]

/-- Whether a character is white space. -/
def isBlank (c : Char) : Bool :=
  blankRanges.contains c

/-- Remove white space from the end of a text. -/
def trimEnd (cs : List Char) : List Char :=
  (cs.reverse.dropWhile isBlank).reverse

/-- Remove white space from both ends of a text. -/
def trim (cs : List Char) : List Char :=
  trimEnd (cs.dropWhile isBlank)

/-- Remove white space from both ends of a string. -/
def trimmed (s : String) : String :=
  String.ofList (trim s.toList)

/-- Whether a string is empty or white space only. -/
def isBlankText (s : String) : Bool :=
  s.toList.all isBlank

theorem dropWhile_isBlank_eq_nil {cs : List Char} :
    cs.dropWhile isBlank = [] ↔ ∀ c ∈ cs, isBlank c = true := by
  induction cs with
  | nil => simp
  | cons c rest ih => by_cases hc : isBlank c = true <;> simp [hc, ih]

theorem trimEnd_eq_nil_iff {cs : List Char} : trimEnd cs = [] ↔ ∀ c ∈ cs, isBlank c = true := by
  rw [trimEnd, List.reverse_eq_nil_iff, dropWhile_isBlank_eq_nil]
  simp

/-- A text trims to nothing exactly when it is white space only. -/
theorem trim_eq_nil_iff {cs : List Char} : trim cs = [] ↔ ∀ c ∈ cs, isBlank c = true := by
  unfold trim
  rw [trimEnd_eq_nil_iff]
  constructor
  · intro h
    induction cs with
    | nil => simp
    | cons c rest ih =>
      by_cases hc : isBlank c = true
      · rw [List.dropWhile_cons_of_pos hc] at h
        intro x hx
        rcases List.mem_cons.1 hx with rfl | hx
        · exact hc
        · exact ih h x hx
      · rw [List.dropWhile_cons_of_neg hc] at h
        exact h
  · intro h c hc
    exact h c ((List.dropWhile_sublist _).subset hc)

end Text
end PanelQuery
