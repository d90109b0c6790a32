import PanelQuery.Toml.Scalar
import PanelQuery.Toml.Section

/-!
# TOML - documents

Reading a whole document: assignments and headers, one a line, between blank lines and comments.
-/

namespace PanelQuery
namespace Toml

/-! ## Values -/

/-- Skip blanks, line breaks and comments; a comment ends with its line. -/
def skipGaps (inComment : Bool) : List Char → List Char
  | [] => []
  | c :: rest =>
    if c == '\n' then skipGaps false rest
    else if c == '\r' && rest.head? == some '\n' then skipGaps inComment rest
    else if inComment then if isPlain c then skipGaps true rest else c :: rest
    else if isBlank c then skipGaps false rest
    else if c == '#' then skipGaps true rest
    else c :: rest

/-- Read the items of an array after its opening bracket.  A comma may follow the last one. -/
def readItems (read : List Char → Option (Value × List Char)) (cs : List Char) :
    Option (List Value × List Char) :=
  match skipGaps false cs with
  | ']' :: rest => some ([], rest)
  | start =>
    match read start with
    | none => none
    | some (item, rest) =>
      match skipGaps false rest with
      | ']' :: rest => some ([item], rest)
      | ',' :: rest =>
        further cs rest fun rest _ =>
          (readItems read rest).map fun (items, left) => (item :: items, left)
      | _ => none
termination_by cs.length
decreasing_by assumption

/-- Read a key, the sign after it and its value. -/
def readAssignment (read : List Char → Option (Value × List Char)) (cs : List Char) :
    Option (Assignment × List Char) := do
  let (key, rest) ← readKey cs
  let rest ← readChar '=' rest
  let (value, rest) ← read (rest.dropWhile isBlank)
  return ((key, value), rest)

/-- Read the assignments of a table that is written in one line, after its opening brace. -/
def readInline (read : List Char → Option (Assignment × List Char)) (cs : List Char) :
    Option (List Assignment × List Char) :=
  match read cs with
  | none => none
  | some (assignment, rest) =>
    match rest.dropWhile isBlank with
    | '}' :: rest => some ([assignment], rest)
    | ',' :: rest =>
      further cs rest fun rest _ =>
        (readInline read rest).map fun (others, left) => (assignment :: others, left)
    | _ => none
termination_by cs.length
decreasing_by assumption

/-- Read a value that may be nested to a depth. -/
def readValue (depth : Nat) (cs : List Char) : Option (Value × List Char) :=
  match cs with
  | '"' :: _ => (readQuoted cs).map fun (text, left) => (.text text, left)
  | '\x27' :: _ => (readQuoted cs).map fun (text, left) => (.text text, left)
  | 't' :: 'r' :: 'u' :: 'e' :: rest => some (.boolean true, rest)
  | 'f' :: 'a' :: 'l' :: 's' :: 'e' :: rest => some (.boolean false, rest)
  | '[' :: rest =>
    match depth with
    | 0 => none
    | d + 1 => (readItems (readValue d) rest).map fun (items, left) => (.array items, left)
  | '{' :: rest =>
    match depth with
    | 0 => none
    | d + 1 =>
      match rest.dropWhile isBlank with
      | '}' :: left => some (.table [], left)
      | _ => do
        let (assignments, left) ← readInline (readAssignment (readValue d)) rest
        let members ← putAll assignments []
        return (.table (finishAll members), left)
  | _ => readNumeric cs

/-! ## Lines -/

/-- What stands in a line of a document. -/
inductive Line where
  | assignment (assignment : Assignment)
  | header (path : List String) (key : String)
  | listHeader (path : List String) (key : String)

/-- Read the end of a line: a comment at most. -/
def readLineEnd (cs : List Char) : Option (List Char) :=
  let ended := fun (rest : List Char) => if rest.isEmpty then some [] else afterNewline? rest
  match cs.dropWhile isBlank with
  | '#' :: rest => ended (rest.dropWhile isPlain)
  | rest => ended rest

/-- Read what stands in a line. -/
def readLine (cs : List Char) : Option (Line × List Char) :=
  match cs with
  | '[' :: '[' :: rest => do
    let ((path, key), rest) ← readKey rest
    let rest ← readChar ']' rest
    let rest ← readChar ']' rest
    return (.listHeader path key, rest)
  | '[' :: rest => do
    let ((path, key), rest) ← readKey rest
    let rest ← readChar ']' rest
    return (.header path key, rest)
  | _ => (readAssignment (readValue greatestDepth) cs).map fun (a, rest) => (.assignment a, rest)

/-- Read the lines of a document. -/
def readLinesOf (cs : List Char) : Option (List Line) :=
  match skipGaps false cs with
  | [] => some []
  | start => do
    let (line, rest) ← readLine start
    let rest ← readLineEnd rest
    further cs rest fun rest _ => do
      let lines ← readLinesOf rest
      return line :: lines
termination_by cs.length
decreasing_by assumption

/-- The assignments before the next header, and the lines from it on. -/
def spanAssignments : List Line → List Assignment × List Line
  | .assignment a :: rest =>
    let (assignments, lines) := spanAssignments rest
    (a :: assignments, lines)
  | lines => ([], lines)

theorem length_spanAssignments (lines : List Line) :
    (spanAssignments lines).2.length ≤ lines.length := by
  fun_induction spanAssignments lines with
  | case1 a rest assignments lines h ih =>
    simp only [h, List.length_cons] at ih ⊢
    omega
  | case2 lines h => simp

/-- Build the tables that headers open. -/
def build (ms : Members) (lines : List Line) : Option Members :=
  match lines with
  | [] => some ms
  | .assignment _ :: _ => none
  | .header path key :: rest =>
    have := length_spanAssignments rest
    match within (openTable key (spanAssignments rest).1) path ms with
    | some ms => build ms (spanAssignments rest).2
    | none => none
  | .listHeader path key :: rest =>
    have := length_spanAssignments rest
    match within (openNext key (spanAssignments rest).1) path ms with
    | some ms => build ms (spanAssignments rest).2
    | none => none
termination_by lines.length
decreasing_by all_goals exact Nat.lt_succ_of_le this

/-- A text without the mark of its byte order. -/
def dropMark : List Char → List Char
  | c :: rest => if c.toNat == 0xFEFF then rest else c :: rest
  | [] => []

/-- The members of the document that a text is, if it is one. -/
def parse? (text : String) : Option (List (String × Value)) := do
  let lines ← readLinesOf (dropMark text.toList)
  let (assignments, rest) := spanAssignments lines
  let ms ← putAll assignments []
  let ms ← build ms rest
  return finishAll ms

end Toml
end PanelQuery
