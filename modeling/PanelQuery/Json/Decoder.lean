import PanelQuery.Json.Fault

/-!
# Json - decoders

Turning JSON values into values of the library.  A record is an object or a list of its fields in
order.  Of an object every known member is looked at in the order of the keys, and the first fault
found that way is reported; fields that are missing are reported after that, in the order of the
record.

Main results:

- `checkMembers_unknown`: a member whose key no field has is passed over.
-/

namespace PanelQuery
namespace Json

/-- A function from JSON values to values of a type. -/
abbrev Decoder (α : Type) := Json → Except Fault α

namespace Decoder

/-- Decode a string. -/
def text : Decoder String
  | .string s => .ok s
  | v => .error (.wrongType v .text)

/-- Decode a boolean. -/
def boolean : Decoder Bool
  | .bool b => .ok b
  | v => .error (.wrongType v .boolean)

/-- Keep a value as it is. -/
def any : Decoder Json :=
  .ok

/-- Decode the items of a list; the first fault counts. -/
def items {α : Type} (decode : Decoder α) : List Json → Except Fault (List α)
  | [] => .ok []
  | v :: rest => do
    let a ← decode v
    let as ← items decode rest
    return a :: as

/-- Decode a list. -/
def list {α : Type} (decode : Decoder α) : Decoder (List α)
  | .array values => items decode values
  | v => .error (.wrongType v .list)

/-- Decode a value that may be null. -/
def nullable {α : Type} (decode : Decoder α) : Decoder (Option α)
  | .null => .ok none
  | v => (decode v).map some

/-- Decode the members of an object; the first fault counts. -/
def members {α : Type} (decode : Decoder α) :
    List (String × Json) → Except Fault (List (String × α))
  | [] => .ok []
  | (k, v) :: rest => do
    let a ← decode v
    let as ← members decode rest
    return (k, a) :: as

/-- Decode an object as a table from keys to values. -/
def table {α : Type} (decode : Decoder α) : Decoder (List (String × α))
  | .object ms => members decode ms
  | v => .error (.wrongType v .table)

/-- Decode one of several names: a string, or an object whose only member has the name as its key
and null as its value. -/
def choice {α : Type} (choices : List (String × α)) : Decoder α
  | .string s => named s
  | .object [(k, v)] => do
    let a ← named k
    match v with
    | .null => return a
    | v => throw (.wrongType v .nothing)
  | .object _ => .error .notOneMember
  | v => .error (.wrongType v .choice)
where
  named (s : String) : Except Fault α :=
    match KeyTable.find? s choices with
    | some a => .ok a
    | none => .error (.unknownChoice s (choices.map (·.1)))

end Decoder

/-- A field of a record: its name, a second name that it may have, and the check of its value. -/
structure Field where
  name : String
  alternative : Option String
  check : Json → Except Fault Unit

/-- Whether a key is one of the names of a field. -/
def Field.answersTo (f : Field) (key : String) : Bool :=
  f.name == key || f.alternative == some key

/-- Where the fields of a record are taken from. -/
inductive Source where
  | members (members : List (String × Json))
  | items (record : String) (size : Nat) (values : List Json)

/-- The value of the field at a position, if there is one. -/
def Source.value? (s : Source) (position : Nat) (name : String) (alternative : Option String) :
    Option Json :=
  match s with
  | .members ms => KeyTable.find? name ms <|> alternative.bind (KeyTable.find? · ms)
  | .items _ _ values => values[position]?

/-- The fault of a field that is not there. -/
def Source.missing (s : Source) (position : Nat) (name : String) : Fault :=
  match s with
  | .members _ => .missingField name
  | .items record size _ => .tooFewItems position record size

/-- A decoder of some fields of a record, given the position of the first of them. -/
structure RecordDecoder (α : Type) where
  fields : List Field
  build : Source → Nat → Except Fault α

namespace RecordDecoder

instance : Applicative RecordDecoder where
  pure a := ⟨[], fun _ _ => .ok a⟩
  seq f x :=
    { fields := f.fields ++ (x ()).fields
      build := fun s i => do
        let g ← f.build s i
        let a ← (x ()).build s (i + f.fields.length)
        return g a }

/-- A field that must be there. -/
def required {α : Type} (name : String) (decode : Decoder α) : RecordDecoder α where
  fields := [⟨name, none, fun v => (decode v).map fun _ => ()⟩]
  build s i :=
    match s.value? i name none with
    | some v => decode v
    | none => .error (s.missing i name)

/-- A field with a value to take when it is not there, and perhaps a second name. -/
def defaulted {α : Type} (name : String) (decode : Decoder α) (default : α)
    (alternative : Option String := none) : RecordDecoder α where
  fields := [⟨name, alternative, fun v => (decode v).map fun _ => ()⟩]
  build s i :=
    match s.value? i name alternative with
    | some v => decode v
    | none => .ok default

end RecordDecoder

/-- Check the members of an object in order, given the fields that were met before. -/
def checkMembers (fields : List Field) (met : List String) :
    List (String × Json) → Except Fault Unit
  | [] => .ok ()
  | (key, v) :: rest =>
    match fields.find? (·.answersTo key) with
    | none => checkMembers fields met rest
    | some f =>
      if met.contains f.name then .error (.duplicateField f.name)
      else do
        f.check v
        checkMembers fields (f.name :: met) rest

/-- A member whose key no field has is passed over. -/
theorem checkMembers_unknown {fields : List Field} {met : List String} {key : String} {v : Json}
    {rest : List (String × Json)} (h : ∀ f ∈ fields, f.answersTo key = false) :
    checkMembers fields met ((key, v) :: rest) = checkMembers fields met rest := by
  have hnone : fields.find? (·.answersTo key) = none := by
    rw [List.find?_eq_none]
    intro f hf
    simp [h f hf]
  simp [checkMembers, hnone]

/-- Decode a record, given by an object or by the list of its fields in order. -/
def RecordDecoder.decode {α : Type} (r : RecordDecoder α) (record : String) : Decoder α
  | .object ms => do
    checkMembers r.fields [] ms
    r.build (.members ms) 0
  | .array values => do
    let a ← r.build (.items record r.fields.length values) 0
    if r.fields.length < values.length then throw (.tooManyItems values.length)
    return a
  | v => .error (.wrongType v (.record record))

end Json
end PanelQuery
