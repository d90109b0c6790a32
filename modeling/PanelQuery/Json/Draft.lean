import PanelQuery.Json.Numeral

/-!
# Json - drafts

The syntax of JSON text, before it is asked what the text stands for.  In a draft a string may stand
for no text, when an escape in it is half a surrogate pair, and a number for no number, when it is
too large.  Members of an object stand in the order of the text, and a key may come twice.  So what
nobody looks at has to be well formed, but need not mean anything.

Blanks are the four of the JSON grammar, and strings hold no control characters.
-/

namespace PanelQuery
namespace Json

open Text

/-- The syntax of a JSON text. -/
inductive Draft where
  | null
  | bool (value : Bool)
  | number (value : Option Number)
  | string (value : Option String)
  | array (items : List Draft)
  | object (members : List (Option String × Draft))

/-- The blanks of the grammar. -/
def isBlank (c : Char) : Bool :=
  c == ' ' || c == '\n' || c == '\t' || c == '\r'

/-- The number that a hexadecimal digit stands for. -/
def hexValue? (c : Char) : Option Nat :=
  if c.isDigit then some (c.toNat - '0'.toNat)
  else if 'a' ≤ c && c ≤ 'f' then some (c.toNat - 'a'.toNat + 10)
  else if 'A' ≤ c && c ≤ 'F' then some (c.toNat - 'A'.toNat + 10)
  else none

/-- The number that four hexadecimal digits stand for. -/
def hexQuad? (a b c d : Char) : Option Nat := do
  let a ← hexValue? a
  let b ← hexValue? b
  let c ← hexValue? c
  let d ← hexValue? d
  return ((a * 16 + b) * 16 + c) * 16 + d

/-- The character of a short escape. -/
def shortEscape? (c : Char) : Option Char :=
  match c with
  | '"' => some '"'
  | '\\' => some '\\'
  | '/' => some '/'
  | 'b' => some '\x08'
  | 'f' => some '\x0C'
  | 'n' => some '\n'
  | 'r' => some '\r'
  | 't' => some '\t'
  | _ => none

/-- The second half of a surrogate pair, at the front of a text. -/
def lowHalf? : List Char → Option Nat
  | '\\' :: 'u' :: a :: b :: c :: d :: _ =>
    match hexQuad? a b c d with
    | some low => if 0xDC00 ≤ low && low ≤ 0xDFFF then some low else none
    | none => none
  | _ => none

/-- The number of characters of an escape by code unit. -/
def escapeLength : Nat := 6

/-- Read a code unit in four hexadecimal digits. -/
def readCodeUnit : Reader Nat := fun cs =>
  match cs with
  | a :: b :: c :: d :: _ => (hexQuad? a b c d).map fun n => (n, Rest.tail.drop 3)
  | _ => none

/-- Read an escape after its backslash.  Half a surrogate pair is no character. -/
def readEscape : Reader (Option Char) := fun cs =>
  match cs with
  | 'u' :: rest =>
    match readCodeUnit rest with
    | none => none
    | some (high, r) =>
      if high < 0xD800 || 0xDFFF < high then some (some (Char.ofNat high), r.behind)
      else
        match lowHalf? r.chars with
        | some low =>
          if high < 0xDC00 then
            some (some (Char.ofNat (0x10000 + (high - 0xD800) * 0x400 + (low - 0xDC00))),
              (r.drop escapeLength).behind)
          else some (none, r.behind)
        | none => some (none, r.behind)
  | c :: _ => (shortEscape? c).map fun x => (some x, .tail)
  | [] => none

/-- A character before a text, if both are there. -/
def prepend (c : Option Char) (text : Option (List Char)) : Option (List Char) :=
  match c, text with
  | some c, some cs => some (c :: cs)
  | _, _ => none

/-- Read the characters of a string after its opening quote, and the closing quote. -/
def readStringChars : Reader (Option (List Char)) := fun cs =>
  match cs with
  | [] => none
  | c :: rest =>
    if c == '"' then some (some [], .tail)
    else if c == '\\' then
      match readEscape rest with
      | none => none
      | some (x, r) =>
        (readStringChars r.chars).map fun (xs, r') => (prepend x xs, (r.trans r').behind)
    else if c.toNat < 0x20 then none
    else (readStringChars rest).map fun (xs, r') => (prepend (some c) xs, r'.behind)
termination_by cs => cs.length
decreasing_by
  · exact r.shorter_cons c
  · exact length_lt_cons c rest

/-- Read a string after its opening quote. -/
def readString : Reader (Option String) := fun cs =>
  (readStringChars cs).map fun (text, r) => (text.map String.ofList, r)

theorem length_drop_of_isPrefixOf {word cs : List Char} (h : word ≠ [] ∧ word.isPrefixOf cs) :
    (cs.drop word.length).length < cs.length := by
  obtain ⟨t, rfl⟩ := List.isPrefixOf_iff_prefix.1 h.2
  have : 0 < word.length := List.length_pos_iff.2 h.1
  simp only [List.drop_left, List.length_append]
  omega

/-- Read a fixed word. -/
def readWord {α : Type} (word : List Char) (value : α) : Reader α := fun cs =>
  if h : word ≠ [] ∧ word.isPrefixOf cs then
    some (value, ⟨cs.drop word.length, length_drop_of_isPrefixOf h⟩)
  else none

/-- Read a number. -/
def readNumber : Reader (Option Number) := fun cs =>
  match h : readNumeral cs with
  | none => none
  | some (numeral, rest) => some (numeral.toNumber?, ⟨rest, length_readNumeral h⟩)

/-- Apply a reader to what follows blanks. -/
def afterBlanks {α : Type} (reader : Reader α) : Reader α := fun cs =>
  (reader (cs.dropWhile isBlank)).map fun (a, r) => (a, r.widen (length_dropWhile_le isBlank cs))

/-- Read a fixed character and then what a reader takes. -/
def afterChar {α : Type} (c : Char) (reader : Reader α) : Reader α := fun cs =>
  match cs with
  | [] => none
  | d :: rest =>
    if c == d then (reader rest).map fun (a, r) => (a, r.behind) else none

/-- Read a member: a key, a colon and a value. -/
def readMember (value : Reader Draft) : Reader (Option String × Draft) :=
  afterBlanks <| afterChar '"' fun cs =>
    match readString cs with
    | none => none
    | some (key, r) =>
      (afterBlanks (afterChar ':' value) r.chars).map fun (v, r') =>
        ((key, v), r.trans r')

/-- Read the rest of a list after its opening bracket: nothing but blanks, or items. -/
def readListBody {α : Type} (close : Char) (item : Reader α) : Reader (List α) := fun cs =>
  match h : cs.dropWhile isBlank with
  | [] => none
  | c :: rest =>
    if c == close then some ([], ⟨rest, length_lt_of_dropWhile h⟩)
    else Reader.commaList isBlank close item cs

/-- Read a draft that is nested to a depth at most. -/
def readDraft (depth : Nat) : Reader Draft :=
  afterBlanks fun cs =>
    match cs with
    | [] => none
    | c :: rest =>
      let shorter : rest.length ≤ (c :: rest).length := by simp
      if c == '"' then (readString rest).map fun (s, r) => (.string s, r.widen shorter)
      else if c == '[' then
        match depth with
        | 0 => none
        | d + 1 =>
          (readListBody ']' (readDraft d) rest).map fun (items, r) =>
            (.array items, r.widen shorter)
      else if c == '{' then
        match depth with
        | 0 => none
        | d + 1 =>
          (readListBody '}' (readMember (readDraft d)) rest).map fun (members, r) =>
            (.object members, r.widen shorter)
      else if c == 'n' then readWord ['n', 'u', 'l', 'l'] .null (c :: rest)
      else if c == 't' then readWord ['t', 'r', 'u', 'e'] (.bool true) (c :: rest)
      else if c == 'f' then readWord ['f', 'a', 'l', 's', 'e'] (.bool false) (c :: rest)
      else (readNumber (c :: rest)).map fun (n, r) => (.number n, r)

/-- The draft of a whole text, if it is well formed.  A text cannot be nested deeper than it is
long. -/
def Draft.parse? (text : String) : Option Draft :=
  match readDraft text.length text.toList with
  | some (d, r) => if r.chars.all isBlank then some d else none
  | none => none

end Json
end PanelQuery
