import PanelQuery.HostName.Direction
import PanelQuery.HostName.Joiner
import PanelQuery.HostName.Punycode

/-!
# Host names

The name of a host: labels between points.  A name may be written in many ways; it is read into the
images of its characters, in composed form, and sent in ASCII, where a label beyond ASCII has a code
behind a mark.  Hyphens may stand anywhere, and a label may be empty or long.

Main results:

- `Label.ofText?_code`: what stands behind the mark of a code is read as a code.
- `Label.asciiForm_of_ascii`: an ASCII label is sent as it is.
-/

namespace PanelQuery

/-- A label of a host name: its characters, and the ASCII text that is sent for them. -/
structure Label where
  characters : List Char
  written : List Char
deriving DecidableEq, Repr

/-- The name of a host. -/
structure HostName where
  labels : List Label
deriving DecidableEq, Repr

namespace HostName

/-- Whether a character is one of ASCII. -/
def isAscii (c : Char) : Bool :=
  c.toNat < 128

/-- Whether an ASCII character cannot be part of a name. -/
def isForbidden (c : Char) : Bool :=
  c.toNat ≤ 0x20 || c.toNat == 0x7F ||
    ['#', '/', ':', '<', '>', '?', '@', '[', '\\', ']', '^', '|', '%'].contains c

end HostName

namespace Label

open HostName

/-- The mark of a label that is a code. -/
def codeMark : List Char :=
  ['x', 'n', '-', '-']

/-- How many characters a label beyond ASCII may have. -/
def greatestLength : Nat := 1000

/-- How long a code may be. -/
def greatestCode : Nat := 2000

/-- Whether characters may stand together in a label. -/
def isWellFormed (cs : List Char) : Bool :=
  !cs.any isForbidden && !cs.head?.any Text.isMark && joinersFit [] cs &&
    (cs.all isAscii || cs.length ≤ greatestLength)

/-- Whether the text of a code is one that needs a code and is in its usual form. -/
def isUsual (cs : List Char) : Bool :=
  !cs.all isAscii && cs.all isSettled && composed cs == cs && !codeMark.isPrefixOf cs

/-- The label that a code stands for. -/
def ofCode? (code : List Char) : Option Label :=
  if greatestCode < code.length || !code.all isAscii then none
  else
    match Punycode.decode? code with
    | some cs => if isUsual cs && isWellFormed cs then some ⟨cs, codeMark ++ code⟩ else none
    | none => none

/-- What is sent for characters. -/
def asciiForm (cs : List Char) : List Char :=
  if cs.all isAscii then cs else codeMark ++ Punycode.encode cs

/-- The label of a text. -/
def ofText? (cs : List Char) : Option Label :=
  if codeMark.isPrefixOf cs then ofCode? (cs.drop codeMark.length)
  else if isWellFormed cs then some ⟨cs, asciiForm cs⟩
  else none

/-- What stands behind the mark of a code is read as a code. -/
theorem ofText?_code (code : List Char) : ofText? (codeMark ++ code) = ofCode? code := by
  simp [ofText?, codeMark]

/-- An ASCII label is sent as it is. -/
theorem asciiForm_of_ascii {cs : List Char} (h : cs.all isAscii = true) : asciiForm cs = cs := by
  simp only [asciiForm, h, if_true]

end Label

namespace HostName

open Text (splitAt)

/-- Read a host name. -/
def read? (cs : List Char) : Option HostName := do
  let image ← textImage? cs
  let labels ← (splitAt (· == '.') (composed image)).mapM Label.ofText?
  if areOrdered (labels.map Label.characters) then some ⟨labels⟩ else none

/-- The text that is sent for a host name. -/
def write (h : HostName) : List Char :=
  ['.'].intercalate (h.labels.map Label.written)

end HostName
end PanelQuery
