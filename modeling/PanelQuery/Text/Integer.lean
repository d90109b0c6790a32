/-!
# Text - integers

Integers of 64 bits: their products, and reading them.  The digits are taken from left to right, and
the first thing that is wrong is reported: a character that is no digit, or a digit that makes the
number too large.

Main results:

- `readDigits_le`: what is read of a number with a sign lies within its bounds.
-/

namespace PanelQuery
namespace Text

/-- Why a text is no integer of 64 bits. -/
inductive IntegerFault where
  | empty
  | notDigit
  | tooLarge
  | tooSmall
deriving DecidableEq, Repr

/-- The text of a fault. -/
def IntegerFault.message : IntegerFault → String
  | .empty => "cannot parse integer from empty string"
  | .notDigit => "invalid digit found in string"
  | .tooLarge => "number too large to fit in target type"
  | .tooSmall => "number too small to fit in target type"

/-- The magnitude of the least integer of 64 bits. -/
def leastMagnitude : Nat := Nat.pow 2 63

/-- The greatest integer of 64 bits. -/
def greatestInteger : Nat := Nat.pow 2 63 - 1

/-- Whether a whole number is an integer of 64 bits. -/
def isInteger64 (n : Int) : Bool :=
  -(leastMagnitude : Int) ≤ n && n ≤ (greatestInteger : Int)

/-- The product of two numbers, if it is an integer of 64 bits. -/
def product? (m n : Int) : Option Int :=
  if isInteger64 (m * n) then some (m * n) else none

/-- Take digits into a number while it stays within a bound. -/
def readDigits (bound : Nat) (fault : IntegerFault) (n : Nat) :
    List Char → Except IntegerFault Nat
  | [] => .ok n
  | c :: rest =>
    if !c.isDigit then .error .notDigit
    else
      let next := n * 10 + (c.toNat - '0'.toNat)
      if bound < next then .error fault else readDigits bound fault next rest

/-- What is read lies within the bound. -/
theorem readDigits_le {bound n m : Nat} {fault : IntegerFault} {cs : List Char} (hn : n ≤ bound)
    (h : readDigits bound fault n cs = .ok m) : m ≤ bound := by
  induction cs generalizing n with
  | nil =>
    simp only [readDigits, Except.ok.injEq] at h
    omega
  | cons c rest ih =>
    simp only [readDigits] at h
    split at h
    · simp at h
    · split at h
      · simp at h
      · rename_i hle
        exact ih (by omega) h

/-- Read an integer of 64 bits: digits, after one sign at most. -/
def readInteger (text : String) : Except IntegerFault Int :=
  match text.toList with
  | [] => .error .empty
  | ['+'] => .error .notDigit
  | ['-'] => .error .notDigit
  | '+' :: digits => (readDigits greatestInteger .tooLarge 0 digits).map fun (n : Nat) => (n : Int)
  | '-' :: digits => (readDigits leastMagnitude .tooSmall 0 digits).map fun (n : Nat) => -(n : Int)
  | digits => (readDigits greatestInteger .tooLarge 0 digits).map fun (n : Nat) => (n : Int)

/-- Read a count up to a bound, written like an integer of 64 bits. -/
def readCount? (bound : Nat) (text : String) : Option Nat :=
  match readInteger text with
  | .ok (.ofNat n) => if n ≤ bound then some n else none
  | _ => none

/-- The greatest index. -/
def greatestIndex : Nat := Nat.pow 2 64 - 1

/-- Read an index: digits, after a plus sign at most. -/
def readIndex? (text : String) : Option Nat :=
  let digits :=
    match text.toList with
    | '+' :: rest => rest
    | cs => cs
  if digits.isEmpty then none else (readDigits greatestIndex .tooLarge 0 digits).toOption

end Text
end PanelQuery
