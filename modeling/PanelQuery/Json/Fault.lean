import PanelQuery.Json.Printer
import PanelQuery.Text.Quoted

/-!
# Json - faults

Why a JSON value does not stand for what was asked for, and the text of each reason.
-/

namespace PanelQuery
namespace Json

/-- What a decoder was looking for. -/
inductive Wanted where
  | text
  | boolean
  | list
  | table
  | record (name : String)
  | choice
  | nothing
deriving DecidableEq, Repr

/-- How a message names what was looked for. -/
def Wanted.describe : Wanted → String
  | .text => "a string"
  | .boolean => "a boolean"
  | .list => "a sequence"
  | .table => "a map"
  | .record name => "struct " ++ name
  | .choice => "string or map"
  | .nothing => "unit"

/-- How a message names a value. -/
def describe : Json → String
  | .null => "null"
  | .bool b => "boolean `" ++ toString b ++ "`"
  | .number (.integer i) => "integer `" ++ toString i ++ "`"
  | .number (.float x) => "floating point `" ++ (Number.float x).write ++ "`"
  | .string s => "string " ++ Text.quoted s
  | .array _ => "sequence"
  | .object _ => "map"

/-- Why a value was refused. -/
inductive Fault where
  /-- The value is of another type. -/
  | wrongType (found : Json) (wanted : Wanted)
  /-- A record lacks a field. -/
  | missingField (name : String)
  /-- A record holds a field under both of its names. -/
  | duplicateField (name : String)
  /-- A record given as a list ends before a field that has no default. -/
  | tooFewItems (found : Nat) (record : String) (size : Nat)
  /-- A record given as a list goes on after its last field. -/
  | tooManyItems (found : Nat)
  /-- The value is neither of the forms that its type allows. -/
  | noForm (typeName : String)
  /-- The text is none of the names of a choice. -/
  | unknownChoice (found : String) (choices : List String)
  /-- An object that should name a choice has no member, or several. -/
  | notOneMember
  /-- The text is not a time. -/
  | invalidTime (found : String)

/-- The names of a choice as a message lists them. -/
def listChoices (choices : List String) : String :=
  match choices.map fun c => "`" ++ c ++ "`" with
  | [] => "there are no variants"
  | [a] => "expected " ++ a
  | [a, b] => "expected " ++ a ++ " or " ++ b
  | names => "expected one of " ++ ", ".intercalate names

/-- The text of a fault. -/
def Fault.message : Fault → String
  | .wrongType found wanted =>
    "invalid type: " ++ found.describe ++ ", expected " ++ wanted.describe
  | .missingField name => "missing field `" ++ name ++ "`"
  | .duplicateField name => "duplicate field `" ++ name ++ "`"
  | .tooFewItems found record size =>
    "invalid length " ++ toString found ++ ", expected struct " ++ record ++ " with " ++
      toString size ++ (if size == 1 then " element" else " elements")
  | .tooManyItems found =>
    "invalid length " ++ toString found ++ ", expected fewer elements in array"
  | .noForm typeName => "data did not match any variant of untagged enum " ++ typeName
  | .unknownChoice found choices => "unknown variant `" ++ found ++ "`, " ++ listChoices choices
  | .notOneMember => "invalid value: map, expected map with a single key"
  | .invalidTime found => "invalid time " ++ Text.quoted found

end Json
end PanelQuery
