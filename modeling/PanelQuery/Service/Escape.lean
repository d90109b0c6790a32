/-!
# The service - escapes in addresses

Characters that may not stand in an address as they are: each byte of theirs is written as a percent
sign and two digits in base sixteen.

Main results:

- `escape_append`: escapes are written one character at a time.
- `escape_of_plain`: a text of plain characters has no escapes.
-/

namespace PanelQuery
namespace Service

/-- The bytes of a character. -/
def bytesOf (c : Char) : List Nat :=
  (String.singleton c).toUTF8.toList.map UInt8.toNat

/-- A digit in base sixteen, upper case. -/
def hexDigit (n : Nat) : Char :=
  (Nat.digitChar (n % 16)).toUpper

/-- A byte as an escape. -/
def escapeByte (n : Nat) : List Char :=
  ['%', hexDigit (n / 16), hexDigit n]

/-- Whether a character is written as it is, among those of a set that is escaped. -/
def isPlain (isEscaped : Char → Bool) (c : Char) : Bool :=
  0x20 ≤ c.toNat && c.toNat ≤ 0x7E && !isEscaped c

/-- A text with some of its characters, and all outside ASCII, as escapes. -/
def escape (isEscaped : Char → Bool) (cs : List Char) : List Char :=
  cs.flatMap fun c => if isPlain isEscaped c then [c] else (bytesOf c).flatMap escapeByte

/-- Escapes are written one character at a time. -/
theorem escape_append (isEscaped : Char → Bool) (cs ds : List Char) :
    escape isEscaped (cs ++ ds) = escape isEscaped cs ++ escape isEscaped ds := by
  simp [escape]

/-- A text of plain characters has no escapes. -/
theorem escape_of_plain {isEscaped : Char → Bool} {cs : List Char}
    (h : ∀ c ∈ cs, isPlain isEscaped c = true) : escape isEscaped cs = cs := by
  induction cs with
  | nil => rfl
  | cons c rest ih =>
    have hrest := ih fun d hd => h d (List.mem_cons_of_mem c hd)
    unfold escape at hrest ⊢
    rw [List.flatMap_cons, hrest, if_pos (h c List.mem_cons_self)]
    rfl

/-- The number that a hexadecimal digit stands for. -/
def hexValue? (c : Char) : Option Nat :=
  if c.isDigit then some (c.toNat - '0'.toNat)
  else if 'a' ≤ c.toLower && c.toLower ≤ 'f' then some (c.toLower.toNat - 'a'.toNat + 10)
  else none

/-- The bytes of a text whose escapes are taken back. -/
def unescape : List Char → List Nat
  | [] => []
  | '%' :: a :: b :: rest =>
    match hexValue? a, hexValue? b with
    | some x, some y => (x * 16 + y) :: unescape rest
    | _, _ => '%'.toNat :: unescape (a :: b :: rest)
  | c :: rest => bytesOf c ++ unescape rest

/-- The number that digits stand for in a base. -/
def number? (base : Nat) (digits : List Char) : Option Nat :=
  digits.foldl (fun total c =>
    match total, hexValue? c with
    | some n, some d => if d < base then some (n * base + d) else none
    | _, _ => none) (some 0)

end Service
end PanelQuery
