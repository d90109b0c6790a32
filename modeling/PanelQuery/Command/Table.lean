import PanelQuery.Json.Printer
import PanelQuery.Lookup.Suggestion
import PanelQuery.Query.Compiled

/-!
# Command line - printed results

The text in which results are printed for a reader: two columns under a heading, or one value a
line.

Main results:

- `length_padded`: a padded text fills its column.
-/

namespace PanelQuery
namespace Command

/-- A text with blanks up to the width of a column. -/
def padded (width : Nat) (text : String) : List Char :=
  text.toList ++ List.replicate (width - text.toList.length) ' '

/-- A padded text fills its column. -/
theorem length_padded (width : Nat) (text : String) : width ≤ (padded width text).length := by
  simp [padded]
  omega

/-- A line of two columns. -/
def row (width : Nat) (left right : String) : String :=
  String.ofList (padded width left) ++ " " ++ right ++ "\n"

/-- A line under a heading. -/
def rule (width : Nat) : String :=
  String.ofList (List.replicate width '-') ++ "\n"

/-- A value for a reader: a string as it is, anything else as JSON. -/
def shown : Json → String
  | .string s => s
  | v => v.write

/-- A line of its own. -/
def line (text : String) : String :=
  text ++ "\n"

/-- A value as JSON for a reader. -/
def jsonText (v : Json) : String :=
  line v.pretty

/-- Suggestions as a table. -/
def suggestionTable : List Suggestion → String
  | [] => line Lookup.noResults
  | items =>
    row 30 "Text" "Value" ++ rule 50 ++
      String.join (items.map fun s => row 30 (shown s.text) (shown s.value))

/-- Suggestions as JSON or as a table. -/
def suggestionText (asJson : Bool) (items : List Suggestion) : String :=
  if asJson then jsonText (.array (items.map Suggestion.toJson)) else suggestionTable items

/-- Values as JSON or one a line. -/
def valueText (asJson : Bool) (values : List Json) : String :=
  if asJson then jsonText (.array values) else String.join (values.map fun v => line (shown v))

/-- The name of a series. -/
def seriesName (series : Json) : String :=
  match series.get? "target" with
  | some (.string name) => name
  | _ => "-"

/-- The number of points of a series. -/
def pointCount (series : Json) : Nat :=
  match series.get? "datapoints" with
  | some (.array points) => points.length
  | _ => 0

/-- The series of an answer: the answer itself, or its member for data. -/
def seriesOf? (answer : Json) : Option (List Json) :=
  match answer, answer.get? "data" with
  | .array series, _ => some series
  | _, some (.array series) => some series
  | _, _ => none

/-- An answer to a refresh as a table. -/
def answerTable (answer : Json) : String :=
  match seriesOf? answer with
  | none => line (shown answer)
  | some [] => line "No data for the selected time range"
  | some series =>
    row 50 "Series" "Points" ++ rule 60 ++
      String.join (series.map fun s => row 50 (seriesName s) (toString (pointCount s)))

/-- An answer to a refresh as JSON or as a table. -/
def answerText (asJson : Bool) (answer : Json) : String :=
  if asJson then jsonText answer else answerTable answer

/-- A compiled query as JSON, or as its text with a line for every label. -/
def queryText (asJson : Bool) (q : CompiledQuery) : String :=
  if asJson then jsonText q.toJson
  else
    line q.text ++
      String.join (q.labels.map fun l => line ("  " ++ l.1 ++ " => " ++ l.2))

end Command
end PanelQuery
