import PanelQuery.Files.Tree
import PanelQuery.Json.Reader
import PanelQuery.Template.Document

/-!
# Templates - files of dashboard state

Dashboard state that was saved to a file.  Members of the document that are not known are passed
over, whatever they hold.
-/

namespace PanelQuery
namespace Template

open Json (Draft)

/-- The shape of a variable. -/
def Variable.shape : Draft.Part :=
  Draft.record [("name", Draft.value?), ("type", Draft.value?), ("current", Draft.value?)]

/-- The shape of a filter. -/
def AdhocFilter.shape : Draft.Part :=
  Draft.record [("key", Draft.value?), ("operator", Draft.value?), ("value", Draft.value?)]

/-- The shape of dashboard state. -/
def Dashboard.shape : Draft.Part :=
  Draft.record [
    ("variables", Draft.list Variable.shape), ("adhoc_filters", Draft.list AdhocFilter.shape)]

/-- Why dashboard state could not be taken from a file. -/
inductive StateFault where
  | unreadable (path : String) (fault : FileFault)
  | malformed (path : String)
deriving DecidableEq, Repr

/-- The text of a fault. -/
def StateFault.message : StateFault → String
  | .unreadable path fault => "Failed to read variables file " ++ path ++ ": " ++ fault.message
  | .malformed path => "Invalid variables file " ++ path ++ ": no state of the expected form"

/-- The dashboard state that a text stands for, if it does. -/
def Dashboard.ofText? (text : String) : Option Dashboard := do
  let draft ← Draft.parse? text
  let document ← Dashboard.shape draft
  (Dashboard.decode document).toOption

/-- The dashboard state of a file, given what reading it gave. -/
def Dashboard.load (path : String) (reading : Except FileFault String) :
    Except StateFault Dashboard :=
  match reading with
  | .error fault => .error (.unreadable path fault)
  | .ok text =>
    match Dashboard.ofText? text with
    | some d => .ok d
    | none => .error (.malformed path)

end Template
end PanelQuery
