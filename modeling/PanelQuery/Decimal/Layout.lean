import PanelQuery.Decimal.Shortest

/-!
# Decimal - layouts

How shortest digits are laid out as text.  A layout says which numbers are written positionally, and
whether a whole number shows its point.
-/

namespace PanelQuery
namespace Decimal

/-- The decisions of a number format.  `place` is the number of digits before the point, negative
for zeros after it. -/
structure Layout where
  isPositional : Int → Bool
  showsPoint : Bool
  tieUp : Bool

/-- The layout of JSON text: positional from `1e-5` up to `1e16`, always with a point or an
exponent. -/
def Layout.json : Layout where
  isPositional place := -5 < place && place ≤ 16
  showsPoint := true
  tieUp := false

/-- The plain layout: positional at every size, whole numbers without a point. -/
def Layout.plain : Layout where
  isPositional _ := true
  showsPoint := false
  tieUp := true

/-- Digits with the point after `place` of them, filled up with zeros on either side. -/
def positional (digits : List Char) (place : Int) (showsPoint : Bool) : List Char :=
  if place ≤ 0 then
    ['0', '.'] ++ List.replicate (-place).toNat '0' ++ digits
  else
    let whole := place.toNat
    if digits.length ≤ whole then
      digits ++ List.replicate (whole - digits.length) '0' ++
        (if showsPoint then ['.', '0'] else [])
    else digits.take whole ++ ['.'] ++ digits.drop whole

/-- Digits with the point after the first, and the power of ten that puts it back. -/
def scientific (digits : List Char) (place : Int) : List Char :=
  let mantissa := match digits with
    | first :: second :: rest => first :: '.' :: second :: rest
    | short => short
  let power := place - 1
  let sign := if power < 0 then '-' else '+'
  mantissa ++ ['e', sign] ++ Nat.toDigits 10 power.natAbs

/-- The text of a number in a layout. -/
def Layout.write (layout : Layout) (x : Binary64) : String :=
  let d := shortest x layout.tieUp
  let digits := Nat.toDigits 10 d.digits
  let place := if x.isZero then 1 else (digits.length : Int) + d.power
  let body :=
    if layout.isPositional place then positional digits place layout.showsPoint
    else scientific digits place
  String.ofList ((if x.negative then ['-'] else []) ++ body)

end Decimal
end PanelQuery
