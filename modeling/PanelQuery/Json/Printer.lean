import PanelQuery.Json.Basic

/-!
# Json - text of a value

The compact text of a value, without spaces, and the indented text, two spaces a level.
-/

namespace PanelQuery
namespace Json

/-- A digit in base sixteen, lower case. -/
def hexDigit (n : Nat) : Char :=
  Nat.digitChar (n % 16)

/-- How a character is written inside a string. -/
def escapedChar (c : Char) : List Char :=
  match c with
  | '"' => ['\\', '"']
  | '\\' => ['\\', '\\']
  | '\n' => ['\\', 'n']
  | '\r' => ['\\', 'r']
  | '\t' => ['\\', 't']
  | '\x08' => ['\\', 'b']
  | '\x0C' => ['\\', 'f']
  | c =>
    if c.toNat < 0x20 then ['\\', 'u', '0', '0', hexDigit (c.toNat / 16), hexDigit c.toNat] else [c]

/-- The text of a string value. -/
def writeString (s : String) : List Char :=
  ['"'] ++ s.toList.flatMap escapedChar ++ ['"']

mutual

/-- The compact text of a value. -/
def writeChars : Json → List Char
  | .null => ['n', 'u', 'l', 'l']
  | .bool true => ['t', 'r', 'u', 'e']
  | .bool false => ['f', 'a', 'l', 's', 'e']
  | .number n => n.write.toList
  | .string s => writeString s
  | .array items => ['['] ++ writeItems items ++ [']']
  | .object members => ['{'] ++ writeMembers members ++ ['}']

/-- The compact text of array items, separated by commas. -/
def writeItems : List Json → List Char
  | [] => []
  | [v] => writeChars v
  | v :: rest => writeChars v ++ [','] ++ writeItems rest

/-- The compact text of object members, separated by commas. -/
def writeMembers : List (String × Json) → List Char
  | [] => []
  | [(k, v)] => writeString k ++ [':'] ++ writeChars v
  | (k, v) :: rest => writeString k ++ [':'] ++ writeChars v ++ [','] ++ writeMembers rest

end

/-- The compact text of a value. -/
def write (v : Json) : String :=
  String.ofList v.writeChars

/-- A line break and the indentation of a level. -/
def newline (level : Nat) : List Char :=
  '\n' :: List.replicate (2 * level) ' '

mutual

/-- The indented text of a value that starts at a level. -/
def prettyChars (level : Nat) : Json → List Char
  | .array [] => ['[', ']']
  | .array (v :: rest) =>
    ['['] ++ newline (level + 1) ++ prettyChars (level + 1) v ++ prettyItems (level + 1) rest ++
      newline level ++ [']']
  | .object [] => ['{', '}']
  | .object ((k, v) :: rest) =>
    ['{'] ++ newline (level + 1) ++ writeString k ++ [':', ' '] ++ prettyChars (level + 1) v ++
      prettyMembers (level + 1) rest ++ newline level ++ ['}']
  | .null => writeChars .null
  | .bool b => writeChars (.bool b)
  | .number n => writeChars (.number n)
  | .string s => writeString s

/-- The indented text of the items after the first. -/
def prettyItems (level : Nat) : List Json → List Char
  | [] => []
  | v :: rest => [','] ++ newline level ++ prettyChars level v ++ prettyItems level rest

/-- The indented text of the members after the first. -/
def prettyMembers (level : Nat) : List (String × Json) → List Char
  | [] => []
  | (k, v) :: rest =>
    [','] ++ newline level ++ writeString k ++ [':', ' '] ++ prettyChars level v ++
      prettyMembers level rest

end

/-- The indented text of a value. -/
def pretty (v : Json) : String :=
  String.ofList (v.prettyChars 0)

end Json
end PanelQuery
