import PanelQuery.Text.Unprintable

/-!
# Text - quoted form

The form in which an error message shows a piece of text: between double quotes, with the quote and
the backslash escaped, the usual short escapes, and unprintable characters by code point.
-/

namespace PanelQuery
namespace Text

/-- The digits of a number in base sixteen, lower case, without leading zeros. -/
def hexDigits (n : Nat) : List Char :=
  Nat.toDigits 16 n

/-- How one character is shown between the quotes. -/
def quotedChar (c : Char) : List Char :=
  match c with
  | '"' => ['\\', '"']
  | '\\' => ['\\', '\\']
  | '\n' => ['\\', 'n']
  | '\r' => ['\\', 'r']
  | '\t' => ['\\', 't']
  | '\x00' => ['\\', '0']
  | c =>
    if isUnprintable c then ['\\', 'u', '{'] ++ hexDigits c.toNat ++ ['}'] else [c]

/-- A text between quotes, as error messages show it. -/
def quoted (s : String) : String :=
  String.ofList (['"'] ++ s.toList.flatMap quotedChar ++ ['"'])

end Text
end PanelQuery
