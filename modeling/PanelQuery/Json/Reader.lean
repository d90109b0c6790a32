import PanelQuery.Json.Draft

/-!
# Json - reading

What a text stands for.  A value may be nested 127 levels deep, and everything in it has to mean
something.  Members are put into the order of their keys; of two with one key the later one stays.

Of a document whose shape is known beforehand only the known members are looked at.  A known member
may not come twice.
-/

namespace PanelQuery
namespace Json
namespace Draft

mutual

/-- The value of a draft that may be nested to a depth. -/
def toJson? (depth : Nat) : Draft → Option Json
  | .null => some .null
  | .bool b => some (.bool b)
  | .number n => n.map .number
  | .string s => s.map .string
  | .array items =>
    match depth with
    | 0 => none
    | d + 1 => (itemsToJson? d items).map .array
  | .object members =>
    match depth with
    | 0 => none
    | d + 1 => (membersToJson? d members).map fun ms => .object (KeyTable.ofList ms)

/-- The values of drafts, if all have one. -/
def itemsToJson? (depth : Nat) : List Draft → Option (List Json)
  | [] => some []
  | d :: rest =>
    match toJson? depth d, itemsToJson? depth rest with
    | some v, some vs => some (v :: vs)
    | _, _ => none

/-- The members of a draft, if all have a key and a value. -/
def membersToJson? (depth : Nat) : List (Option String × Draft) → Option (List (String × Json))
  | [] => some []
  | (key, d) :: rest =>
    match key, toJson? depth d, membersToJson? depth rest with
    | some k, some v, some ms => some ((k, v) :: ms)
    | _, _, _ => none

end

/-- How deep a value may be nested. -/
def greatestDepth : Nat := 127

/-- The value of a draft. -/
def value? (d : Draft) : Option Json :=
  d.toJson? greatestDepth

/-! ## Documents of a known shape -/

/-- A part of a document: how its value is taken from a draft. -/
abbrev Part := Draft → Option Json

/-- A list of parts of one shape. -/
def list (part : Part) : Part
  | .array items => (items.mapM part).map .array
  | d => d.value?

/-- The known members among some, each at most once. -/
def knownMembers (parts : List (String × Part)) (met : List String) :
    List (Option String × Draft) → Option (List (String × Json))
  | [] => some []
  | (none, _) :: _ => none
  | (some key, d) :: rest =>
    match parts.lookup key with
    | none => knownMembers parts met rest
    | some part =>
      if met.contains key then none
      else do
        let v ← part d
        let others ← knownMembers parts (key :: met) rest
        return (key, v) :: others

/-- The values of the parts of a record that is given as a list. -/
def knownItems : List (String × Part) → List Draft → Option (List Json)
  | _, [] => some []
  | [], d :: rest => do
    let v ← d.value?
    let others ← knownItems [] rest
    return v :: others
  | (_, part) :: parts, d :: rest => do
    let v ← part d
    let others ← knownItems parts rest
    return v :: others

/-- A record with some parts. -/
def record (parts : List (String × Part)) : Part
  | .object members => (knownMembers parts [] members).map fun ms => .object (KeyTable.ofList ms)
  | .array items => (knownItems parts items).map .array
  | d => d.value?

end Draft

/-- The value that a whole text stands for, if it is JSON. -/
def parse? (text : String) : Option Json :=
  Draft.parse? text >>= Draft.value?

end Json
end PanelQuery
