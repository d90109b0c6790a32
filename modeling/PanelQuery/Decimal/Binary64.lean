/-!
# Decimal - binary floating point numbers

The finite numbers of the 64-bit binary format, kept as exact integers: a sign, a significand and a
power of two.  Rounding goes to the nearest number, a tie to the even significand.

A decimal numeral is read in two roundings: its digits become a number first, and the power of ten
then multiplies or divides that number.  Reading fails only when the result is too large.
-/

namespace PanelQuery

/-- A finite 64-bit floating point number: `significand * 2 ^ exponent`, negated if `negative`.  The
rounding function makes the significand at least `2 ^ 52` unless the exponent is the least one. -/
structure Binary64 where
  negative : Bool
  significand : Nat
  exponent : Int
deriving DecidableEq, Repr, Inhabited

namespace Binary64

/-- The exponent of the subnormal numbers. -/
def leastExponent : Int := -1074

/-- The exponent of the largest numbers. -/
def greatestExponent : Int := 971

/-- The number zero, with a sign. -/
def zero (negative : Bool) : Binary64 :=
  ⟨negative, 0, leastExponent⟩

/-- Whether a number is zero, of either sign. -/
def isZero (x : Binary64) : Bool :=
  x.significand == 0

/-- The size of a number as a fraction of natural numbers. -/
def toRatio (x : Binary64) : Nat × Nat :=
  if 0 ≤ x.exponent then (x.significand * Nat.pow 2 x.exponent.toNat, 1)
  else (x.significand, Nat.pow 2 (-x.exponent).toNat)

/-- The quotient of `num / den` by `2 ^ exponent`, rounded to the nearest integer, a tie to even. -/
def roundedQuotient (num den : Nat) (exponent : Int) : Nat :=
  let (n, d) :=
    if 0 ≤ exponent then (num, den * Nat.pow 2 exponent.toNat)
    else (num * Nat.pow 2 (-exponent).toNat, den)
  let quotient := n / d
  let twice := 2 * (n % d)
  if d < twice || (twice == d && quotient % 2 == 1) then quotient + 1 else quotient

/-- The exponent at which `num / den` has a significand of 53 bits, or the least exponent. -/
def exponentOf (num den : Nat) : Int :=
  let guess : Int := (Nat.log2 num : Int) - (Nat.log2 den : Int) - 53
  let tooSmall :=
    if 0 ≤ guess then Nat.pow 2 53 * (den * Nat.pow 2 guess.toNat) ≤ num
    else Nat.pow 2 53 * den ≤ num * Nat.pow 2 (-guess).toNat
  max leastExponent (if tooSmall then guess + 1 else guess)

/-- The nearest number to `num / den`, or nothing if it is too large. -/
def ofRatio? (negative : Bool) (num den : Nat) : Option Binary64 :=
  if num == 0 then some (zero negative)
  else
    let exponent := exponentOf num den
    let rounded := roundedQuotient num den exponent
    let (significand, exponent) :=
      if rounded == Nat.pow 2 53 then (Nat.pow 2 52, exponent + 1) else (rounded, exponent)
    if greatestExponent < exponent then none else some ⟨negative, significand, exponent⟩

/-- The product of a number and the nearest number to `10 ^ power`. -/
def timesPowerOfTen? (x : Binary64) (power : Nat) : Option Binary64 := do
  let scale ← ofRatio? false (Nat.pow 10 power) 1
  let (n, d) := x.toRatio
  let (m, e) := scale.toRatio
  ofRatio? x.negative (n * m) (d * e)

/-- The quotient of a number by the nearest number to `10 ^ power`. -/
def overPowerOfTen? (x : Binary64) (power : Nat) : Option Binary64 := do
  let scale ← ofRatio? false (Nat.pow 10 power) 1
  let (n, d) := x.toRatio
  let (m, e) := scale.toRatio
  ofRatio? x.negative (n * e) (d * m)

/-- The largest power of ten that is applied in one step. -/
def greatestPower : Nat := 308

/-- Divide a number by `10 ^ power`, in steps that the format can express. -/
def shrink? (x : Binary64) (power : Nat) : Option Binary64 :=
  if power ≤ greatestPower then x.overPowerOfTen? power
  else if x.isZero then some x
  else do
    let y ← x.overPowerOfTen? greatestPower
    y.shrink? (power - greatestPower)
termination_by power
decreasing_by simp [greatestPower] at *; omega

/-- Read `digits * 10 ^ power`. -/
def ofDecimal? (negative : Bool) (digits : Nat) (power : Int) : Option Binary64 := do
  let x ← ofRatio? negative digits 1
  if 0 ≤ power then
    if power.toNat ≤ greatestPower then x.timesPowerOfTen? power.toNat
    else if x.isZero then some x
    else none
  else x.shrink? (-power).toNat

/-- The nearest number to an integer. -/
def ofInt? (i : Int) : Option Binary64 :=
  ofRatio? (i < 0) i.natAbs 1

end Binary64
end PanelQuery
