import PanelQuery.Json.Decoder
import PanelQuery.Text.Blank
import PanelQuery.Text.Lowercase

/-!
# Targets - operators

The words that join conditions and the signs that compare a field with a value.

Main results:

- `Connective.ofText?_write` and `Comparison.ofText?_write`: an operator is read back from its text.
-/

namespace PanelQuery
namespace Target

open Text

/-- What joins a condition, or a group of them, to the one before. -/
inductive Connective where
  | and
  | or
deriving DecidableEq, Repr

namespace Connective

/-- The connectives by name. -/
def named : List (String × Connective) :=
  [("and", .and), ("or", .or)]

/-- The word for a connective. -/
def write : Connective → String
  | .and => "and"
  | .or => "or"

/-- Read a connective; blanks around it and letter case do not matter. -/
def ofText? (text : String) : Option Connective :=
  (named.find? fun c => c.1 == lowercased (trimmed text)).map (·.2)

theorem ofText?_write (c : Connective) : ofText? c.write = some c := by
  cases c <;> decide +kernel

/-- Read a connective from a document, by its exact name. -/
def decode : Json.Decoder Connective :=
  Json.Decoder.choice named

end Connective

/-- How a condition compares a field with a value. -/
inductive Comparison where
  | equal
  | greater
  | less
deriving DecidableEq, Repr

namespace Comparison

/-- The comparisons by sign. -/
def named : List (String × Comparison) :=
  [("=", .equal), (">", .greater), ("<", .less)]

/-- The comparisons in the order in which they are offered. -/
def menu : List Comparison :=
  [.equal, .less, .greater]

/-- The sign of a comparison. -/
def write : Comparison → String
  | .equal => "="
  | .greater => ">"
  | .less => "<"

/-- Read a comparison; blanks around it do not matter. -/
def ofText? (text : String) : Option Comparison :=
  (named.find? fun c => c.1 == trimmed text).map (·.2)

theorem ofText?_write (c : Comparison) : ofText? c.write = some c := by
  cases c <;> decide +kernel

/-- Read a comparison from a document, by its exact sign. -/
def decode : Json.Decoder Comparison :=
  Json.Decoder.choice named

end Comparison
end Target
end PanelQuery
