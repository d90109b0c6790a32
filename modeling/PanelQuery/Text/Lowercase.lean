import PanelQuery.Text.LetterCase

/-!
# Text - lower-casing

Lower-casing a whole text by the Unicode default mapping.  Two characters need more than a table:
the dotted capital I becomes two characters, and a capital sigma becomes a final sigma at the end of
a word.
-/

namespace PanelQuery
namespace Text

/-- The lower-case form of one character, without regard to its place in a word. -/
def lowerChar (c : Char) : List Char :=
  if c.toNat < 128 then [c.toLower]
  else if c.toNat == 0x130 then ['i', Char.ofNat 0x307]
  else match lowerCaseRuns.find? (·.covers c) with
    | some run => [Char.ofNat (c.toNat + run.shift).toNat]
    | none => [c]

/-- Whether, after marks that do not interrupt a word, a letter with a case comes next. -/
def meetsCased (cs : List Char) : Bool :=
  match cs.dropWhile caseIgnorableRanges.contains with
  | c :: _ => casedRanges.contains c
  | [] => false

/-- Lower-case a text, given the characters before it from the nearest to the farthest. -/
def lowerAfter (before : List Char) : List Char → List Char
  | [] => []
  | c :: rest =>
    let mapped :=
      if c.toNat == 0x3A3 then
        [if meetsCased before && !meetsCased rest then Char.ofNat 0x3C2 else Char.ofNat 0x3C3]
      else lowerChar c
    mapped ++ lowerAfter (c :: before) rest

/-- The lower-case form of a text. -/
def lower (cs : List Char) : List Char :=
  lowerAfter [] cs

/-- The lower-case form of a string. -/
def lowercased (s : String) : String :=
  String.ofList (lower s.toList)

end Text
end PanelQuery
