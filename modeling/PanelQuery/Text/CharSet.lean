/-!
# Text - sets of characters

A Unicode property is kept as a list of inclusive ranges of code points.
-/

namespace PanelQuery
namespace Text

/-- A set of characters, given by inclusive ranges of code points. -/
abbrev CharSet := List (Nat × Nat)

/-- Membership of a character in a set of ranges. -/
def CharSet.contains (s : CharSet) (c : Char) : Bool :=
  s.any fun r => r.1 ≤ c.toNat && c.toNat ≤ r.2

/-- A character is in a set when some range of the set holds its code point. -/
theorem CharSet.contains_iff {s : CharSet} {c : Char} :
    s.contains c = true ↔ ∃ r ∈ s, r.1 ≤ c.toNat ∧ c.toNat ≤ r.2 := by
  simp [CharSet.contains]

end Text
end PanelQuery
