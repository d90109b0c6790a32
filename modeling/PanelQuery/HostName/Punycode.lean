import PanelQuery.Text.Reader

/-!
# Host names - codes of ASCII letters and digits

A text beyond ASCII has a code in ASCII letters, digits and hyphens, known as Punycode: first its
ASCII characters and a hyphen, and then a number for each of the others, in the order of their code
points.  A number says how many steps to go, where a step leads to the next place in the text, and
from the last place to the first one for the next code point.

Numbers are written in base 36, the lowest digit first.  A digit below a threshold ends the number;
the thresholds follow a bias that adapts to the numbers written so far.

Main results:

- `digitValue?_digitOf`: a digit is read as the number that it is written for.
- `threshold_pos`, `threshold_le`: every place has digits that end a number and digits that do not.
-/

namespace PanelQuery
namespace HostName
namespace Punycode

open Text (Rest Reader)

/-! ## Digits and thresholds -/

/-- How many digits there are. -/
def base : Nat := 36

/-- The least threshold. -/
def leastThreshold : Nat := 1

/-- The greatest threshold. -/
def greatestThreshold : Nat := 26

/-- The bias to begin with. -/
def firstBias : Nat := 72

/-- The code point to begin with: the first one beyond ASCII. -/
def firstCode : Nat := 128

/-- The digit for a number: letters, and then decimal digits. -/
def digitOf (n : Nat) : Char :=
  if n < 26 then Char.ofNat ('a'.toNat + n) else Char.ofNat ('0'.toNat + (n - 26))

/-- The number that a digit is written for. -/
def digitValue? (c : Char) : Option Nat :=
  if 'a' ≤ c && c ≤ 'z' then some (c.toNat - 'a'.toNat)
  else if 'A' ≤ c && c ≤ 'Z' then some (c.toNat - 'A'.toNat)
  else if '0' ≤ c && c ≤ '9' then some (c.toNat - '0'.toNat + 26)
  else none

/-- A digit is read as the number that it is written for. -/
theorem digitValue?_digitOf {n : Nat} (h : n < base) : digitValue? (digitOf n) = some n := by
  have all : ∀ m ∈ List.range 36, digitValue? (digitOf m) = some m := by decide
  exact all n (List.mem_range.mpr h)

/-- The threshold at a place, where places are multiples of the base. -/
def threshold (bias place : Nat) : Nat :=
  if place ≤ bias then leastThreshold
  else if bias + greatestThreshold ≤ place then greatestThreshold
  else place - bias

theorem threshold_pos (bias place : Nat) : 0 < threshold bias place := by
  unfold threshold leastThreshold greatestThreshold
  split
  · omega
  · split <;> omega

theorem threshold_le (bias place : Nat) : threshold bias place ≤ greatestThreshold := by
  unfold threshold leastThreshold greatestThreshold
  split
  · omega
  · split <;> omega

/-- The bias that suits a number, given how often the base has been taken out of it. -/
def biasFor (place n : Nat) : Nat :=
  if (base - leastThreshold) * greatestThreshold / 2 < n then
    biasFor (place + base) (n / (base - leastThreshold))
  else place + (base - leastThreshold + 1) * n / (n + 38)
termination_by n
decreasing_by
  rename_i h
  exact Nat.div_lt_self (Nat.lt_of_le_of_lt (Nat.zero_le _) h) (Nat.le_of_ble_eq_true rfl)

/-- The bias after a number, in a text that has come to a length; the first number is far greater
than those that follow it. -/
def adapted (isFirst : Bool) (n length : Nat) : Nat :=
  let damped := if isFirst then n / 700 else n / 2
  biasFor 0 (damped + damped / length)

/-! ## Reading -/

/-- The greatest number that can be read. -/
def greatestNumber : Nat := 4294967295

/-- Read a number, given the place and the weight of its next digit and the sum of those before. -/
def readNumber (bias : Nat) : (place weight sum : Nat) → Reader Nat
  | _, _, _, [] => none
  | place, weight, sum, c :: cs =>
    match digitValue? c with
    | none => none
    | some d =>
      let sum := sum + d * weight
      let limit := threshold bias place
      let weight := weight * (base - limit)
      if greatestNumber < sum then none
      else if d < limit then some (sum, Rest.tail)
      else if greatestNumber < weight then none
      else
        match readNumber bias (place + base) weight sum cs with
        | some (n, rest) => some (n, rest.behind)
        | none => none

/-- Whether a number is the code point of a character. -/
def isCodePoint (n : Nat) : Bool :=
  n < 0xD800 || (0xDFFF < n && n < 0x110000)

/-- Put the characters that numbers stand for into a text, from a place and a code point on. -/
def placeAll (bias code place : Nat) (placed cs : List Char) : Option (List Char) :=
  if cs.isEmpty then some placed
  else
    match readNumber bias base 1 place cs with
    | none => none
    | some (n, rest) =>
      let length := placed.length + 1
      let next := code + n / length
      let spot := n % length
      if isCodePoint next then
        placeAll (adapted (place == 0) (n - place) length) next (spot + 1)
          (placed.take spot ++ Char.ofNat next :: placed.drop spot) rest.chars
      else none
termination_by cs.length
decreasing_by exact rest.shorter

/-- The ASCII characters before the last hyphen of a code, and the numbers behind it. -/
def splitCode (code : List Char) : List Char × List Char :=
  match code.reverse.dropWhile (· != '-') with
  | _ :: c :: plain =>
    ((c :: plain).reverse, (code.reverse.takeWhile (· != '-')).reverse)
  | _ => ([], code)

/-- The text that has a code, if there is one. -/
def decode? (code : List Char) : Option (List Char) :=
  let (plain, numbers) := splitCode code
  placeAll firstBias firstCode 0 plain numbers

/-! ## Writing -/

theorem quotient_lt {bias place n : Nat} (h : ¬n < threshold bias place) :
    (n - threshold bias place) / (base - threshold bias place) < n := by
  have hpos := threshold_pos bias place
  have hle := Nat.div_le_self (n - threshold bias place) (base - threshold bias place)
  omega

/-- A number from its lowest digit on. -/
def writeNumber (bias place n : Nat) : List Char :=
  if n < threshold bias place then [digitOf n]
  else
    digitOf (threshold bias place +
        (n - threshold bias place) % (base - threshold bias place)) ::
      writeNumber bias (place + base)
        ((n - threshold bias place) / (base - threshold bias place))
termination_by n
decreasing_by
  rename_i h
  exact quotient_lt h

/-- What has been written of a text: the code so far, the steps since the last number, the bias, and
how many characters it stands for. -/
structure Progress where
  code : List Char
  steps : Nat
  bias : Nat
  placed : Nat

/-- Pass a character of the text, in the round for a code point. -/
def Progress.pass (plain code : Nat) (p : Progress) (c : Char) : Progress :=
  if c.toNat < code then { p with steps := p.steps + 1 }
  else if c.toNat == code then
    { code := p.code ++ writeNumber p.bias base p.steps
      steps := 0
      bias := adapted (p.placed == plain) p.steps (p.placed + 1)
      placed := p.placed + 1 }
  else p

/-- The rounds for code points in ascending order, from a code point on. -/
def Progress.rounds (text : List Char) (plain : Nat) : (code : Nat) → Progress → List Nat → Progress
  | _, p, [] => p
  | code, p, next :: rest =>
    let before := { p with steps := p.steps + (next - code) * (p.placed + 1) }
    let after := text.foldl (Progress.pass plain next) before
    Progress.rounds text plain (next + 1) { after with steps := after.steps + 1 } rest

/-- Insert a number into ascending numbers, once. -/
def insertOnce (n : Nat) : List Nat → List Nat
  | [] => [n]
  | m :: rest => if n < m then n :: m :: rest else if n == m then m :: rest
    else m :: insertOnce n rest

/-- The code of a text. -/
def encode (text : List Char) : List Char :=
  let plain := text.filter fun c => c.toNat < firstCode
  let codes := ((text.map Char.toNat).filter (firstCode ≤ ·)).foldr insertOnce []
  let start : Progress := ⟨[], 0, firstBias, plain.length⟩
  plain ++ (if plain.isEmpty then [] else ['-']) ++
    (Progress.rounds text plain.length firstCode start codes).code

end Punycode
end HostName
end PanelQuery
