/-!
# Text - parts between separators

Cutting a text into the parts between separators.

Main results:

- `flatten_splitAt`: cutting loses nothing but separators.
-/

namespace PanelQuery
namespace Text

/-- The parts of a text between separators.  There is always one more part than there are
separators. -/
def splitAt (separates : Char → Bool) : List Char → List (List Char)
  | [] => [[]]
  | c :: rest =>
    if separates c then [] :: splitAt separates rest
    else
      match splitAt separates rest with
      | part :: parts => (c :: part) :: parts
      | [] => [[c]]

/-- Cutting a text loses nothing but separators. -/
theorem flatten_splitAt (separates : Char → Bool) (cs : List Char) :
    (splitAt separates cs).flatten = cs.filter fun c => !separates c := by
  induction cs with
  | nil => rfl
  | cons c rest ih =>
    by_cases hc : separates c = true
    · simp [splitAt, hc, ih]
    · have hc' : separates c = false := by simpa using hc
      rw [List.filter_cons_of_pos (by simp [hc']), ← ih]
      simp only [splitAt, hc', Bool.false_eq_true, if_false]
      cases splitAt separates rest <;> simp

end Text
end PanelQuery
