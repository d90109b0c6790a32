/-!
# Text - readers

A reader takes a value off the front of a text.  What it leaves is shorter than what it was given,
so that readers can be repeated without a bound.
-/

namespace PanelQuery
namespace Text

/-- What a reader leaves of a text. -/
structure Rest (cs : List Char) where
  chars : List Char
  shorter : chars.length < cs.length

theorem length_lt_cons (c : Char) (cs : List Char) : cs.length < (c :: cs).length :=
  Nat.lt_succ_self cs.length

theorem length_dropWhile_le (p : Char → Bool) (cs : List Char) :
    (cs.dropWhile p).length ≤ cs.length :=
  (List.dropWhile_sublist p).length_le

theorem length_lt_of_dropWhile {p : Char → Bool} {c : Char} {cs rest : List Char}
    (h : cs.dropWhile p = c :: rest) : rest.length < cs.length := by
  have := length_dropWhile_le p cs
  rw [h, List.length_cons] at this
  omega

namespace Rest

theorem shorter_cons {cs : List Char} (c : Char) (r : Rest cs) :
    r.chars.length < (c :: cs).length :=
  Nat.lt_succ_of_lt r.shorter

theorem trans_shorter {cs : List Char} (r : Rest cs) (r' : Rest r.chars) :
    r'.chars.length < cs.length :=
  Nat.lt_trans r'.shorter r.shorter

theorem drop_shorter {cs : List Char} (n : Nat) (r : Rest cs) :
    (r.chars.drop n).length < cs.length :=
  Nat.lt_of_le_of_lt (List.drop_sublist n r.chars).length_le r.shorter

theorem dropWhile_shorter {cs : List Char} (p : Char → Bool) (r : Rest cs) :
    (r.chars.dropWhile p).length < cs.length :=
  Nat.lt_of_le_of_lt (length_dropWhile_le p r.chars) r.shorter

/-- What is left after the first character. -/
def tail {c : Char} {cs : List Char} : Rest (c :: cs) :=
  ⟨cs, length_lt_cons c cs⟩

/-- What is left of a text is left of the text with a character before it. -/
def behind {c : Char} {cs : List Char} (r : Rest cs) : Rest (c :: cs) :=
  ⟨r.chars, r.shorter_cons c⟩

/-- What is left of a rest is left of the text. -/
def trans {cs : List Char} (r : Rest cs) (r' : Rest r.chars) : Rest cs :=
  ⟨r'.chars, r.trans_shorter r'⟩

/-- What is left after more characters. -/
def drop {cs : List Char} (n : Nat) (r : Rest cs) : Rest cs :=
  ⟨r.chars.drop n, r.drop_shorter n⟩

/-- What is left after all characters of a kind. -/
def dropWhile {cs : List Char} (p : Char → Bool) (r : Rest cs) : Rest cs :=
  ⟨r.chars.dropWhile p, r.dropWhile_shorter p⟩

/-- What is left of a part of a text is left of the text. -/
def widen {cs ds : List Char} (h : cs.length ≤ ds.length) (r : Rest cs) : Rest ds :=
  ⟨r.chars, Nat.lt_of_lt_of_le r.shorter h⟩

end Rest

/-- A function that takes a value off the front of a text, or fails. -/
abbrev Reader (α : Type) := (cs : List Char) → Option (α × Rest cs)

/-- Read an item, and another after each comma, up to a closing character. -/
def Reader.commaList {α : Type} (skips : Char → Bool) (close : Char) (item : Reader α) :
    Reader (List α) := fun cs =>
  match item cs with
  | none => none
  | some (a, r) =>
    match h : r.chars.dropWhile skips with
    | [] => none
    | c :: more =>
      have hmore := Nat.lt_trans (length_lt_of_dropWhile h) r.shorter
      if c == ',' then
        (Reader.commaList skips close item more).map fun (rest, r') =>
          (a :: rest, r'.widen (Nat.le_of_lt hmore))
      else if c == close then some ([a], ⟨more, hmore⟩)
      else none
termination_by cs => cs.length
decreasing_by exact hmore

end Text
end PanelQuery
