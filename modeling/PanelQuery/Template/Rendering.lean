import PanelQuery.Text.Lowercase

/-!
# Templates - renderings

How the value of a variable is written into text.  A variable holds one value or several selected
ones; the five renderings differ in how they join several and whether they escape.
-/

namespace PanelQuery
namespace Template

/-- The current value of a variable: one value, or the list of those selected. -/
inductive Selection where
  | single (value : String)
  | several (values : List String)
deriving DecidableEq, Repr

/-- All values of a selection, in order. -/
def Selection.values : Selection → List String
  | .single v => [v]
  | .several vs => vs

/-- A way of writing a selection. -/
inductive Rendering where
  /-- Several values between braces, separated by commas. -/
  | glob
  /-- Values escaped; several of them in parentheses, separated by bars. -/
  | regex
  /-- Values as they are, separated by commas. -/
  | raw
  /-- Values as they are, separated by commas. -/
  | csv
  /-- Values as they are, separated by bars. -/
  | pipe
deriving DecidableEq, Repr

namespace Rendering

/-- The renderings by name. -/
def named : List (String × Rendering) :=
  [("glob", .glob), ("regex", .regex), ("raw", .raw), ("csv", .csv), ("pipe", .pipe)]

/-- The name of a rendering. -/
def name : Rendering → String
  | .glob => "glob"
  | .regex => "regex"
  | .raw => "raw"
  | .csv => "csv"
  | .pipe => "pipe"

/-- The rendering that a reference asks for; letter case does not matter. -/
def ofName? (name : String) : Option Rendering :=
  (named.find? fun r => r.1 == Text.lowercased name).map (·.2)

/-- Every rendering is found under its own name. -/
theorem ofName?_name (r : Rendering) : ofName? r.name = some r := by
  cases r <;> decide +kernel

/-- The characters that have a meaning in a pattern. -/
def isPatternChar (c : Char) : Bool :=
  ['\\', '.', '+', '*', '?', '(', ')', '|', '[', ']', '{', '}', '^', '$', '#', '&', '-',
    '~'].contains c

/-- A text as a pattern that matches only itself: a backslash before every pattern character. -/
def escapePattern (s : String) : String :=
  String.ofList (s.toList.flatMap fun c => if isPatternChar c then ['\\', c] else [c])

/-- Write a selection. -/
def write : Rendering → Selection → String
  | .regex, .single v => escapePattern v
  | _, .single v => v
  | .glob, .several vs =>
    if 1 < vs.length then "\x7b" ++ ",".intercalate vs ++ "\x7d" else ",".intercalate vs
  | .regex, .several vs =>
    match vs.map escapePattern with
    | [v] => v
    | escaped => "(" ++ "|".intercalate escaped ++ ")"
  | .pipe, .several vs => "|".intercalate vs
  | .raw, .several vs => ",".intercalate vs
  | .csv, .several vs => ",".intercalate vs

end Rendering
end Template
end PanelQuery
