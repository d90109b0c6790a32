import PanelQuery.Query.Refresh
import PanelQuery.Template.Document

/-!
# Lookups - bodies

The bodies of metadata lookups.  Every body has a target and a type; what else it holds depends on
how the values are narrowed and on whether a range was given.

Main results:

- `LookupKind.name_ofName`: a type is found again under its name.
-/

namespace PanelQuery

open Template

/-- The type of a lookup. -/
inductive LookupKind where
  /-- The columns of a measurement type. -/
  | column
  /-- The values of a field, narrowed by other fields. -/
  | related
  /-- The values of a field. -/
  | unrelated
  /-- A free search. -/
  | search
  /-- The measurement types. -/
  | table
  /-- Any other lookup. -/
  | other (name : String)
deriving DecidableEq, Repr

namespace LookupKind

/-- The name of a type. -/
def name : LookupKind → String
  | .column => "Column"
  | .related => "Where_Related"
  | .unrelated => "Where"
  | .search => "Search"
  | .table => "Table"
  | .other name => name

/-- The type of a name. -/
def ofName (name : String) : LookupKind :=
  if name = "Column" then .column
  else if name = "Where_Related" then .related
  else if name = "Where" then .unrelated
  else if name = "Search" then .search
  else if name = "Table" then .table
  else .other name

theorem name_ofName (name : String) : (ofName name).name = name := by
  unfold ofName
  repeat' split
  all_goals simp_all [LookupKind.name]

end LookupKind

/-- A field that is bound to a value, or to none. -/
structure Binding where
  key : String
  value : Option Selection
deriving DecidableEq, Repr

/-- A binding as a document. -/
def Binding.toJson (b : Binding) : Json :=
  .object [("key", .string b.key), ("value", Selection.optionToJson b.value)]

/-- How the values of a lookup are narrowed. -/
inductive Narrowing where
  /-- The lookup is not for the values of a field. -/
  | free
  /-- The values of a field that look like a text. -/
  | field (field like : String)
  /-- Those that occur together with some bindings. -/
  | bindings (parents : List Binding) (field like : String)
  /-- Those that occur together with one value of another field. -/
  | sibling (parent parentValue field like : String)

/-- The members that a narrowing adds to a body. -/
def Narrowing.members : Narrowing → List (String × Json)
  | .free => []
  | .field name like => [("meta_field", .string name), ("like_field", .string like)]
  | .bindings parents name like => [
      ("parent_meta_fields", .array (parents.map Binding.toJson)),
      ("meta_field", .string name), ("like_field", .string like)]
  | .sibling parent parentValue name like => [
      ("parent_meta_field", .string parent), ("parent_meta_field_value", .string parentValue),
      ("meta_field", .string name), ("like_field", .string like)]

/-- A metadata lookup. -/
structure Lookup where
  target : String
  kind : LookupKind
  narrowing : Narrowing := .free
  range : Option TimeRange := none

namespace Lookup

/-- A lookup of columns. -/
def columns (target : String) : Lookup :=
  { target, kind := .column }

/-- A lookup of the values of a field. -/
def values (target field like : String) : Lookup :=
  { target, kind := .unrelated, narrowing := .field field like }

/-- A lookup of the values of a field that occur together with some bindings. -/
def valuesUnder (target : String) (parents : List Binding) (field like : String) : Lookup :=
  { target, kind := .related, narrowing := .bindings parents field like }

/-- A lookup of the values of a field that occur together with one value of another field. -/
def valuesBeside (target field like parent parentValue : String) : Lookup :=
  { target, kind := .related, narrowing := .sibling parent parentValue field like }

/-- A lookup as a document. -/
def toJson (l : Lookup) : Json :=
  .object (
    [("target", .string l.target), ("type", .string l.kind.name)] ++ l.narrowing.members ++
    optionalMember "range" TimeRange.toJson l.range)

end Lookup
end PanelQuery
