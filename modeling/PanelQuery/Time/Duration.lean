import PanelQuery.Text.Blank
import PanelQuery.Text.Integer
import PanelQuery.Text.Lowercase
import PanelQuery.Time.Instant

/-!
# Time - written durations

Durations as users write them: an integer and a letter for the unit.  Blanks around the text and the
case of its letters do not matter.

Main results:

- `DurationUnit.ofLetter?_letter`: a unit is found under its letter.
-/

namespace PanelQuery
namespace Time

/-- A unit of durations. -/
inductive DurationUnit where
  | second
  | minute
  | hour
  | day
  | week
  | year
deriving DecidableEq, Repr

namespace DurationUnit

/-- The letter of a unit. -/
def letter : DurationUnit → Char
  | .second => 's'
  | .minute => 'm'
  | .hour => 'h'
  | .day => 'd'
  | .week => 'w'
  | .year => 'y'

/-- The seconds of a unit; a year has 365 days. -/
def seconds : DurationUnit → Int
  | .second => 1
  | .minute => 60
  | .hour => 3600
  | .day => 86400
  | .week => 604800
  | .year => 31536000

/-- What a number of units is multiplied by, one factor after the other, to have its seconds; years
are counted in days first. -/
def factors : DurationUnit → List Int
  | .second => []
  | .minute => [60]
  | .hour => [3600]
  | .day => [86400]
  | .week => [604800]
  | .year => [365, 86400]

/-- The seconds of a number of units, if all products on the way are integers of 64 bits. -/
def secondsIn? (u : DurationUnit) (n : Int) : Option Int :=
  u.factors.foldlM Text.product? n

/-- The unit of a letter. -/
def ofLetter? (c : Char) : Option DurationUnit :=
  [second, minute, hour, day, week, year].find? fun u => u.letter == c

/-- A unit is found under its letter. -/
theorem ofLetter?_letter (u : DurationUnit) : ofLetter? u.letter = some u := by
  cases u <;> rfl

end DurationUnit

/-- Why a text is no duration. -/
inductive DurationFault where
  /-- The text does not end in the letter of a unit. -/
  | noUnit (text : String)
  /-- What stands before the letter is no integer. -/
  | noInteger (fault : Text.IntegerFault)
  /-- The duration is too long. -/
  | outOfRange (text : String)
deriving DecidableEq, Repr

/-- The text of a fault. -/
def DurationFault.message : DurationFault → String
  | .noUnit text => "Invalid duration format: " ++ text ++ ". Use: 30m, 24h, 7d, 2w, 1y"
  | .noInteger fault => fault.message
  | .outOfRange text => "Duration out of range: " ++ text

/-- The text of a duration without what does not matter in it. -/
def durationText (text : String) : String :=
  Text.lowercased (Text.trimmed text)

/-- Read a duration. -/
def Span.parse (text : String) : Except DurationFault Span :=
  let cs := (durationText text).toList
  match cs.getLast?.bind DurationUnit.ofLetter? with
  | none => .error (.noUnit (durationText text))
  | some u =>
    match Text.readInteger (String.ofList cs.dropLast) with
    | .error fault => .error (.noInteger fault)
    | .ok n =>
      match (u.secondsIn? n).bind Span.ofSeconds? with
      | none => .error (.outOfRange (durationText text))
      | some span => .ok span

end Time
end PanelQuery
