/-!
# TOML - values

The values of a TOML document.  Numbers with a fraction, and dates and times, are only told apart
from other values: no setting asks for one.
-/

namespace PanelQuery
namespace Toml

/-- A value. -/
inductive Value where
  | text (value : String)
  | integer (value : Int)
  | fraction
  | boolean (value : Bool)
  | moment
  | array (items : List Value)
  | table (members : List (String × Value))

/-- The value of a key, if a table has it. -/
def find? (key : String) : List (String × Value) → Option Value
  | [] => none
  | (k, v) :: rest => if k = key then some v else find? key rest

end Toml
end PanelQuery
