import PanelQuery.Decimal.Layout
import PanelQuery.KeyTable

/-!
# Json - values

JSON values.  Integers that fit in 64 bits, signed or unsigned, stay integers; every other number is
a 64-bit floating point number.  An object is a list of members; a value that was read has its
members in the order of their keys, one for each key.
-/

namespace PanelQuery

/-- A JSON number. -/
inductive Json.Number where
  | integer (value : Int)
  | float (value : Binary64)
deriving DecidableEq, Repr

/-- A JSON value. -/
inductive Json where
  | null
  | bool (value : Bool)
  | number (value : Json.Number)
  | string (value : String)
  | array (items : List Json)
  | object (members : List (String × Json))
deriving Inhabited

namespace Json

/-- The member of an object, or nothing for any other value. -/
def get? (v : Json) (key : String) : Option Json :=
  match v with
  | .object members => KeyTable.find? key members
  | _ => none

/-- The whole number of a natural number. -/
def ofNat (n : Nat) : Json :=
  .number (.integer n)

/-- A string, or null. -/
def ofText? : Option String → Json
  | some s => .string s
  | none => .null

/-- The text of a number. -/
def Number.write : Number → String
  | .integer i => toString i
  | .float x => Decimal.Layout.json.write x

/-- Whether a number is zero. -/
def Number.isZero : Number → Bool
  | .integer i => i == 0
  | .float x => x.isZero

end Json
end PanelQuery
