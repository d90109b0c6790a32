import PanelQuery.Decimal.Binary64

/-!
# Decimal - shortest digits

The digits that stand for a floating point number: as few as read back to the same number, and of
those the nearest to it.  Every real between the midpoints to the two neighbours reads back; the
midpoints themselves do when the significand is even.
-/

namespace PanelQuery
namespace Decimal

/-- The number `digits * 10 ^ power`. -/
structure Digits where
  digits : Nat
  power : Int
deriving DecidableEq, Repr

/-- The reals that read back to a positive number, as numerators over one denominator. -/
structure Basin where
  low : Nat
  value : Nat
  high : Nat
  denominator : Nat
  closed : Bool

/-- The basin of a nonzero number.  Below a power of two the neighbour is at half the distance. -/
def Basin.of (x : Binary64) : Basin :=
  let below := if x.significand == Nat.pow 2 52 && Binary64.leastExponent < x.exponent then 1 else 2
  let quarter := x.exponent - 2
  let scale := Nat.pow 2 quarter.toNat
  { low := (4 * x.significand - below) * scale
    value := 4 * x.significand * scale
    high := (4 * x.significand + 2) * scale
    denominator := Nat.pow 2 (-quarter).toNat
    closed := x.significand % 2 == 0 }

/-- Whether `digits * 10 ^ power` lies in a basin. -/
def Basin.contains (b : Basin) (d : Digits) : Bool :=
  let point := d.digits * Nat.pow 10 d.power.toNat * b.denominator
  let unit := Nat.pow 10 (-d.power).toNat
  if b.closed then b.low * unit ≤ point && point ≤ b.high * unit
  else b.low * unit < point && point < b.high * unit

/-- How many zeros follow the point of `value / denominator`, given that it is less than one. -/
def leadingZeros (value denominator : Nat) : Nat → Nat
  | 0 => 0
  | bound + 1 =>
    if denominator ≤ value * 10 then 0 else leadingZeros (value * 10) denominator bound + 1

/-- The place of the first digit: the least `p` with `value < denominator * 10 ^ p`. -/
def Basin.place (b : Basin) : Int :=
  let whole := b.value / b.denominator
  if whole == 0 then -(leadingZeros b.value b.denominator 400 : Int)
  else (Nat.toDigits 10 whole).length

/-- The two neighbours of the value on the grid of `10 ^ power`, and whether the upper is the
nearer, given what a tie decides. -/
def Basin.neighbours (b : Basin) (power : Int) (tieUp : Bool) : Digits × Digits × Bool :=
  let n := b.value * Nat.pow 10 (-power).toNat
  let d := b.denominator * Nat.pow 10 power.toNat
  let lower := n / d
  let twice := 2 * (n % d)
  let upperNearer := d < twice || (twice == d && (tieUp || lower % 2 == 1))
  (⟨lower, power⟩, ⟨lower + 1, power⟩, upperNearer)

/-- The neighbour to print on the grid of `10 ^ power`, if one reads back. -/
def Basin.hit? (b : Basin) (power : Int) (tieUp : Bool) : Option Digits :=
  let (lower, upper, upperNearer) := b.neighbours power tieUp
  match b.contains lower, b.contains upper with
  | true, true => some (if upperNearer then upper else lower)
  | true, false => some lower
  | false, true => some upper
  | false, false => none

/-- Drop zeros at the end of the digits, at most `bound` of them. -/
def Digits.stripZeros (d : Digits) : Nat → Digits
  | 0 => d
  | bound + 1 =>
    if d.digits != 0 && d.digits % 10 == 0 then
      Digits.stripZeros ⟨d.digits / 10, d.power + 1⟩ bound
    else d

/-- The shortest digits of the size of a number; of two equally near ones the even one, or with
`tieUp` the upper one. -/
def shortest (x : Binary64) (tieUp : Bool) : Digits :=
  if x.isZero then ⟨0, 0⟩
  else
    let b := Basin.of x
    let place := b.place
    let found := (List.range 17).findSome? fun (n : Nat) => b.hit? (place - (n + 1)) tieUp
    (found.getD (b.neighbours (place - 17) tieUp).1).stripZeros 17

end Decimal
end PanelQuery
