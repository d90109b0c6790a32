import PanelQuery.Json.Decoder
import PanelQuery.Template.Dashboard

/-!
# Templates - the document form of dashboard state

How variables, filters and values are written in JSON documents, and read from them.
-/

namespace PanelQuery
namespace Template

open Json (Decoder Fault RecordDecoder)

/-- A selection is a string, or a list of strings. -/
def Selection.decode : Decoder Selection
  | .string s => .ok (.single s)
  | v =>
    match Decoder.list Decoder.text v with
    | .ok values => .ok (.several values)
    | .error _ => .error (.noForm "VariableValue")

/-- A selection as a document. -/
def Selection.toJson : Selection → Json
  | .single v => .string v
  | .several vs => .array (vs.map .string)

/-- The value of a variable as a document; null when there is none. -/
def Selection.optionToJson : Option Selection → Json
  | some s => s.toJson
  | none => .null

/-- The fields of a variable. -/
def Variable.fields : RecordDecoder Variable :=
  Variable.mk
    <$> .required "name" Decoder.text
    <*> .defaulted "type" Decoder.text Variable.defaultKind
    <*> .defaulted "current" (Decoder.nullable Selection.decode) none

/-- Read a variable. -/
def Variable.decode : Decoder Variable :=
  Variable.fields.decode "Variable"

/-- A variable as a document. -/
def Variable.toJson (v : Variable) : Json :=
  .object [("name", .string v.name), ("type", .string v.kind),
    ("current", Selection.optionToJson v.current)]

/-- The fields of a filter. -/
def AdhocFilter.fields : RecordDecoder AdhocFilter :=
  AdhocFilter.mk
    <$> .required "key" Decoder.text
    <*> .required "operator" Decoder.text
    <*> .required "value" Decoder.text

/-- Read a filter. -/
def AdhocFilter.decode : Decoder AdhocFilter :=
  AdhocFilter.fields.decode "AdhocFilter"

/-- A filter as a document. -/
def AdhocFilter.toJson (f : AdhocFilter) : Json :=
  .object [("key", .string f.key), ("operator", .string f.operator), ("value", .string f.value)]

/-- The fields of dashboard state; filters that were saved are bound to every source. -/
def Dashboard.fields : RecordDecoder Dashboard :=
  (fun declarations filters => { declarations, filters })
    <$> .defaulted "variables" (Decoder.list Variable.decode) []
    <*> .defaulted "adhoc_filters" (Decoder.list AdhocFilter.decode) []

/-- Read dashboard state. -/
def Dashboard.decode : Decoder Dashboard :=
  Dashboard.fields.decode "VariablesFile"

/-- Read the values that a request sets. -/
def Scope.decode : Decoder Scope :=
  Decoder.table Selection.decode

/-- Read the name of a rendering. -/
def Rendering.decode : Decoder Rendering :=
  Decoder.choice Rendering.named

end Template
end PanelQuery
