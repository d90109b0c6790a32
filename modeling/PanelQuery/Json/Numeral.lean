import PanelQuery.Json.Basic
import PanelQuery.Text.Reader

/-!
# Json - numerals

Numbers in JSON text.  An integer that fits in 64 bits is exact.  Of any other numeral the leading
digits count, as many as fit in an unsigned 64-bit integer; the power of ten makes up for the rest.

Main results:

- `length_readNumeral`: a numeral is never empty, so what is left of a text is shorter.
-/

namespace PanelQuery
namespace Json

open Text

/-- The largest unsigned 64-bit integer. -/
def greatestWord : Nat := Nat.pow 2 64 - 1

/-- The value of a decimal digit. -/
def digitValue (c : Char) : Nat :=
  c.toNat - '0'.toNat

/-- A numeral by its parts: sign, digits before the point, digits after it, and the power of ten. -/
structure Numeral where
  negative : Bool
  whole : List Char
  fraction : List Char
  power : Option Int
deriving Repr

/-- Take leading digits into a number while it fits in 64 bits; count how many were taken. -/
def absorb (n : Nat) : List Char → Nat × Nat
  | [] => (n, 0)
  | c :: rest =>
    let next := n * 10 + digitValue c
    if greatestWord < next then (n, 0)
    else
      let (m, taken) := absorb next rest
      (m, taken + 1)

/-- The largest power of ten that a numeral may state. -/
def greatestPower : Int := 2147483647

/-- The floating point number of a numeral, or nothing if it is too large. -/
def Numeral.toFloat? (n : Numeral) : Option Binary64 :=
  let (head, taken) := absorb 0 n.whole
  let (digits, takenAfter) := absorb head n.fraction
  let power := n.power.getD 0
  if greatestPower < power then if digits == 0 then some (.zero n.negative) else none
  else if power < -greatestPower then some (.zero n.negative)
  else
    Binary64.ofDecimal? n.negative digits
      (((n.whole.length - taken : Nat) : Int) - (takenAfter : Int) + power)

/-- The number of a numeral, or nothing if it is too large. -/
def Numeral.toNumber? (n : Numeral) : Option Number :=
  let value := n.whole.foldl (fun v c => v * 10 + digitValue c) 0
  if n.fraction.isEmpty && n.power.isNone && value ≤ greatestWord then
    if !n.negative then some (.integer value)
    else if 0 < value && value ≤ Nat.pow 2 63 then some (.integer (-(value : Int)))
    else n.toFloat?.map .float
  else n.toFloat?.map .float

/-- Split a text after its leading decimal digits. -/
def spanDigits (cs : List Char) : List Char × List Char :=
  (cs.takeWhile Char.isDigit, cs.dropWhile Char.isDigit)

/-- Read the digits before the point: no leading zero, and at least one digit. -/
def readWhole (cs : List Char) : Option (List Char × List Char) :=
  match spanDigits cs with
  | ([], _) => none
  | ('0' :: _ :: _, _) => none
  | parts => some parts

/-- Read a point and the digits after it, if there is a point. -/
def readFraction (cs : List Char) : Option (List Char × List Char) :=
  match cs with
  | '.' :: rest =>
    match spanDigits rest with
    | ([], _) => none
    | parts => some parts
  | _ => some ([], cs)

/-- The sign of a power of ten, and the text after it. -/
def spanSign : List Char → Bool × List Char
  | '+' :: rest => (false, rest)
  | '-' :: rest => (true, rest)
  | cs => (false, cs)

/-- Read a power of ten, if there is one. -/
def readPower (cs : List Char) : Option (Option Int × List Char) :=
  match cs with
  | c :: rest =>
    if c == 'e' || c == 'E' then
      let (negative, rest) := spanSign rest
      match spanDigits rest with
      | ([], _) => none
      | (digits, rest) =>
        let value : Nat := digits.foldl (fun v d => v * 10 + digitValue d) 0
        some (some (if negative then -(value : Int) else value), rest)
    else some (none, cs)
  | [] => some (none, cs)

/-- The sign of a numeral, and the text after it. -/
def spanMinus : List Char → Bool × List Char
  | '-' :: rest => (true, rest)
  | cs => (false, cs)

/-- Read a numeral off the front of a text. -/
def readNumeral (cs : List Char) : Option (Numeral × List Char) := do
  let (whole, rest) ← readWhole (spanMinus cs).2
  let (fraction, rest) ← readFraction rest
  let (power, rest) ← readPower rest
  return (⟨(spanMinus cs).1, whole, fraction, power⟩, rest)

/-! ## What is left -/

theorem length_spanDigits (cs : List Char) :
    (spanDigits cs).1.length + (spanDigits cs).2.length = cs.length := by
  simp only [spanDigits]
  rw [← List.length_append, List.takeWhile_append_dropWhile]

theorem length_spanSign (cs : List Char) : (spanSign cs).2.length ≤ cs.length := by
  unfold spanSign
  split <;> simp

theorem length_readWhole {cs digits rest : List Char} (h : readWhole cs = some (digits, rest)) :
    rest.length < cs.length := by
  have hlen := length_spanDigits cs
  unfold readWhole at h
  split at h
  · simp at h
  · simp at h
  · rename_i hnil _
    simp only [Option.some.injEq] at h
    simp only [h] at hlen
    have : 0 < digits.length := List.length_pos_iff.2 fun hd => hnil rest (by rw [h, hd])
    omega

theorem length_readFraction {cs digits rest : List Char}
    (h : readFraction cs = some (digits, rest)) : rest.length ≤ cs.length := by
  unfold readFraction at h
  split at h
  · rename_i more
    have hlen := length_spanDigits more
    split at h
    · simp at h
    · simp only [Option.some.injEq] at h
      simp only [h] at hlen
      rw [List.length_cons]
      omega
  · simp only [Option.some.injEq, Prod.mk.injEq] at h
    exact Nat.le_of_eq (congrArg List.length h.2.symm)

theorem length_readPower {cs rest : List Char} {power : Option Int}
    (h : readPower cs = some (power, rest)) : rest.length ≤ cs.length := by
  unfold readPower at h
  split at h
  · rename_i c more
    split at h
    · have hsign := length_spanSign more
      have hlen := length_spanDigits (spanSign more).2
      simp only at h
      split at h
      · simp at h
      · rename_i digits after _ hspan
        simp only [Option.some.injEq, Prod.mk.injEq] at h
        rw [hspan] at hlen
        rw [← h.2, List.length_cons]
        simp only at hlen
        omega
    · simp only [Option.some.injEq, Prod.mk.injEq] at h
      exact Nat.le_of_eq (congrArg List.length h.2.symm)
  · simp only [Option.some.injEq, Prod.mk.injEq] at h
    exact Nat.le_of_eq (congrArg List.length h.2.symm)

/-- A numeral is never empty. -/
theorem length_readNumeral {cs rest : List Char} {n : Numeral}
    (h : readNumeral cs = some (n, rest)) : rest.length < cs.length := by
  have hminus : (spanMinus cs).2.length ≤ cs.length := by
    unfold spanMinus
    split <;> simp
  simp only [readNumeral, bind, pure, Option.bind_eq_some_iff, Option.some.injEq,
    Prod.mk.injEq] at h
  obtain ⟨w, hw, f, hf, p, hp, -, hrest⟩ := h
  have h1 := length_readWhole hw
  have h2 := length_readFraction hf
  have h3 := length_readPower hp
  rw [← hrest]
  omega

end Json
end PanelQuery
