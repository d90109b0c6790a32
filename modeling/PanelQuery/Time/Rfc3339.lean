import PanelQuery.Text.Blank
import PanelQuery.Time.Instant

/-!
# Time - written instants

Instants in the form of RFC 3339.  They are written in UTC, with as many groups of three fraction
digits as needed, and a sign before years outside 0 to 9999.  Reading is more lenient: any offset is
accepted, fields may have fewer digits and blanks around them, and a space may stand for the `T`.
-/

namespace PanelQuery
namespace Time

open Text

/-! ## Writing -/

/-- A number with zeros before it up to a width. -/
def padded (width n : Nat) : List Char :=
  let digits := Nat.toDigits 10 n
  List.replicate (width - digits.length) '0' ++ digits

/-- A year: four digits, with a sign when it is outside 0 to 9999. -/
def writeYear (year : Int) : List Char :=
  if 0 ≤ year && year ≤ 9999 then padded 4 year.toNat
  else (if year < 0 then '-' else '+') :: padded 4 year.natAbs

/-- A fraction of a second: nothing, or three, six or nine digits after a point. -/
def writeFraction (nano : Nat) : List Char :=
  if nano == 0 then []
  else if nano % 1000000 == 0 then '.' :: padded 3 (nano / 1000000)
  else if nano % 1000 == 0 then '.' :: padded 6 (nano / 1000)
  else '.' :: padded 9 nano

/-- An instant as text, in UTC. -/
def Instant.write (t : Instant) : String :=
  let date := Date.ofDayNumber (t.second / secondsInDay)
  let secondOfDay := (t.second % secondsInDay).toNat
  let isLeap := 1000000000 ≤ t.nano
  let second := secondOfDay % 60 + (if isLeap then 1 else 0)
  let nano := if isLeap then t.nano - 1000000000 else t.nano
  String.ofList (
    writeYear date.year ++ ['-'] ++ padded 2 date.month ++ ['-'] ++ padded 2 date.day ++ ['T'] ++
    padded 2 (secondOfDay / 3600) ++ [':'] ++ padded 2 (secondOfDay / 60 % 60) ++ [':'] ++
    padded 2 second ++ writeFraction nano ++ ['Z'])

/-! ## Reading -/

/-- The number that some digits stand for. -/
def digitsValue (digits : List Char) : Nat :=
  digits.foldl (fun n c => n * 10 + (c.toNat - '0'.toNat)) 0

/-- Read one digit or more, up to a number of them. -/
def takeNumber (most : Nat) (cs : List Char) : Option (Nat × List Char) :=
  let digits := (cs.take most).takeWhile Char.isDigit
  if digits.isEmpty then none else some (digitsValue digits, cs.drop digits.length)

/-- Read a number of one or two digits after blanks. -/
def takeField (cs : List Char) : Option (Nat × List Char) :=
  takeNumber 2 (cs.dropWhile isBlank)

/-- Read a year after blanks: up to four digits, or a sign and any number of digits. -/
def takeYear (cs : List Char) : Option (Int × List Char) :=
  match cs.dropWhile isBlank with
  | '-' :: rest => (takeNumber rest.length rest).map fun (n, r) => (-(n : Int), r)
  | '+' :: rest => (takeNumber rest.length rest).map fun (n, r) => ((n : Int), r)
  | rest => (takeNumber 4 rest).map fun (n, r) => ((n : Int), r)

/-- Read a mark after blanks. -/
def takeMark (mark : Char) (cs : List Char) : Option (List Char) :=
  match cs.dropWhile isBlank with
  | c :: rest => if c == mark then some rest else none
  | [] => none

/-- Read a fraction of a second in nanoseconds, if there is one; digits after the ninth do not
count. -/
def takeFraction (cs : List Char) : Option (Nat × List Char) :=
  match cs with
  | '.' :: rest =>
    let digits := (rest.take 9).takeWhile Char.isDigit
    if digits.isEmpty then none
    else some (digitsValue digits * Nat.pow 10 (9 - digits.length), rest.dropWhile Char.isDigit)
  | _ => some (0, cs)

/-- Whether a character separates the hours and the minutes of an offset. -/
def isOffsetGap (c : Char) : Bool :=
  c == ':' || isBlank c

/-- The sign of an offset: whether it is negative, and what follows it. -/
def takeOffsetSign : List Char → Option (Bool × List Char)
  | '+' :: rest => some (false, rest)
  | '-' :: rest => some (true, rest)
  | '−' :: rest => some (true, rest)
  | _ => none

/-- Read two digits of an offset, of which the first is at most a given one. -/
def takeTwoDigits (greatest : Char) (cs : List Char) : Option (Nat × List Char) :=
  match cs with
  | a :: b :: rest =>
    if a.isDigit && b.isDigit && a ≤ greatest then some (digitsValue [a, b], rest) else none
  | _ => none

/-- Read an offset from UTC in seconds: `Z`, `UTC`, or hours and minutes with a sign. -/
def takeOffset (cs : List Char) : Option (Int × List Char) :=
  match cs.dropWhile isBlank with
  | [] => none
  | c :: rest =>
    if c.toLower == 'u' && (rest.take 2).map Char.toLower == ['t', 'c'] then some (0, rest.drop 2)
    else if c.toLower == 'z' then some (0, rest)
    else do
      let (negative, rest) ← takeOffsetSign (c :: rest)
      let (hours, rest) ← takeTwoDigits '9' rest
      let (minutes, rest) ← takeTwoDigits '5' (rest.dropWhile isOffsetGap)
      let seconds : Int := hours * 3600 + minutes * 60
      return (if negative then -seconds else seconds, rest)

/-- Read a date. -/
def takeDate (cs : List Char) : Option (Date × List Char) := do
  let (year, rest) ← takeYear cs
  let rest ← takeMark '-' rest
  let (month, rest) ← takeField rest
  let rest ← takeMark '-' rest
  let (day, rest) ← takeField rest
  return (⟨year, month, day⟩, rest)

/-- Read a time of day: the second of the day and the nanoseconds.  A second 60 is a leap second. -/
def takeTime (cs : List Char) : Option ((Nat × Nat) × List Char) := do
  let (hour, rest) ← takeField cs
  let rest ← takeMark ':' rest
  let (minute, rest) ← takeField rest
  let rest ← takeMark ':' rest
  let (second, rest) ← takeField rest
  let (nano, rest) ← takeFraction rest
  if 23 < hour || 59 < minute || 60 < second then none
  else if second == 60 then some ((hour * 3600 + minute * 60 + 59, 1000000000 + nano), rest)
  else some ((hour * 3600 + minute * 60 + second, nano), rest)

/-- Read the mark between a date and a time. -/
def takeSeparator : List Char → Option (List Char)
  | c :: rest => if c == 'T' || c == 't' || c == ' ' then some rest else none
  | [] => none

/-- The instant that a text stands for, if it is one. -/
def Instant.parse? (text : String) : Option Instant := do
  let (date, rest) ← takeDate text.toList
  let rest ← takeSeparator rest
  let ((second, nano), rest) ← takeTime rest
  let (offset, rest) ← takeOffset rest
  if !rest.all isBlank || !date.isValid || 86400 ≤ offset.natAbs then none
  else
    let localSecond := date.toDayNumber * secondsInDay + second
    if inReach localSecond then ofUnix? (localSecond - offset) nano else none

end Time
end PanelQuery
