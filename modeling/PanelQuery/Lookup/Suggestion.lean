import PanelQuery.Json.Decoder

/-!
# Lookups - suggestions

What the service finds becomes suggestions, each with a text to show and a value to use.

Main results:

- `length_ofData`: there is one suggestion for every item.
-/

namespace PanelQuery

/-- A suggestion: what to show, and what to use. -/
structure Suggestion where
  text : Json
  value : Json

namespace Suggestion

/-- Whether a value counts as something: not null, false, zero or the empty string. -/
def isPresent : Json → Bool
  | .null => false
  | .bool b => b
  | .number n => !n.isZero
  | .string s => s != ""
  | .array _ => true
  | .object _ => true

/-- The suggestion that an item brings along: an object with a text and a value that both count as
something. -/
def readyMade? (item : Json) : Option Suggestion :=
  match item.get? "text", item.get? "value" with
  | some text, some value => if isPresent text && isPresent value then some ⟨text, value⟩ else none
  | _, _ => none

/-- The suggestion for the item at an index.  A list or object that brings none along has its index
for a value; anything else stands for itself. -/
def ofItem (index : Nat) (item : Json) : Suggestion :=
  match item with
  | .object members => (readyMade? (.object members)).getD ⟨.object members, Json.ofNat index⟩
  | .array items => ⟨.array items, Json.ofNat index⟩
  | scalar => ⟨scalar, scalar⟩

/-- The suggestions for items, in order. -/
def ofData (items : List Json) : List Suggestion :=
  items.mapIdx ofItem

/-- There is one suggestion for every item. -/
@[simp]
theorem length_ofData (items : List Json) : (ofData items).length = items.length := by
  simp [ofData]

/-- The fields of a suggestion. -/
def fields : Json.RecordDecoder Suggestion :=
  Suggestion.mk
    <$> .required "text" Json.Decoder.any
    <*> .required "value" Json.Decoder.any

/-- Read a suggestion. -/
def decode : Json.Decoder Suggestion :=
  fields.decode "Suggestion"

/-- A suggestion as a document. -/
def toJson (s : Suggestion) : Json :=
  .object [("text", s.text), ("value", s.value)]

end Suggestion

namespace Lookup

/-- The items that a response holds; a response that is no list holds none. -/
def itemsOf : Json → List Json
  | .array items => items
  | _ => []

/-- What stands in a list of values when there are none. -/
def noResults : String := "No results found"

/-- The items, or a single note that there are none. -/
def itemsOrNote (items : List Json) : List Json :=
  if items.isEmpty then [.string noResults] else items

end Lookup
end PanelQuery
