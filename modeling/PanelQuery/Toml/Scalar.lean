import PanelQuery.Time.Calendar
import PanelQuery.Toml.Value

/-!
# TOML - keys and scalars

Reading quoted text, numbers, dates and times off the front of a text.  A reader gives the value and
what it leaves, or nothing when the text is malformed.
-/

namespace PanelQuery
namespace Toml

/-! ## Characters -/

/-- Whether a character is a blank within a line. -/
def isBlank (c : Char) : Bool :=
  c == ' ' || c == '\t'

/-- Whether a character may stand in a comment, or in text that is quoted within a line. -/
def isPlain (c : Char) : Bool :=
  c == '\t' || (0x20 ≤ c.toNat && c.toNat != 0x7F)

/-- What follows a line break. -/
def afterNewline? : List Char → Option (List Char)
  | '\n' :: rest => some rest
  | '\r' :: '\n' :: rest => some rest
  | _ => none

/-- The number that a hexadecimal digit stands for. -/
def digitValue? (c : Char) : Option Nat :=
  if c.isDigit then some (c.toNat - '0'.toNat)
  else if 'a' ≤ c.toLower && c.toLower ≤ 'f' then some (c.toLower.toNat - 'a'.toNat + 10)
  else none

/-- Whether a character is a digit of a base. -/
def isDigitOf (base : Nat) (c : Char) : Bool :=
  match digitValue? c with
  | some d => d < base
  | none => false

/-- The number that digits stand for in a base. -/
def digitsValue (base : Nat) (digits : List Char) : Nat :=
  digits.foldl (fun n c => n * base + (digitValue? c).getD 0) 0

/-! ## Quoted text -/

/-- The character of a code point that is one. -/
def codePoint? (digits : List Char) : Option Char :=
  let n := digitsValue 16 digits
  if digits.all (isDigitOf 16) && (n < 0xD800 || (0xDFFF < n && n ≤ 0x10FFFF)) then
    some (Char.ofNat n)
  else none

/-- Read an escape after its backslash. -/
def readEscape : List Char → Option (Char × List Char)
  | 'b' :: rest => some ('\x08', rest)
  | 't' :: rest => some ('\t', rest)
  | 'n' :: rest => some ('\n', rest)
  | 'f' :: rest => some ('\x0C', rest)
  | 'r' :: rest => some ('\r', rest)
  | '"' :: rest => some ('"', rest)
  | '\\' :: rest => some ('\\', rest)
  | 'u' :: rest =>
    if rest.length < 4 then none else (codePoint? (rest.take 4)).map fun c => (c, rest.drop 4)
  | 'U' :: rest =>
    if rest.length < 8 then none else (codePoint? (rest.take 8)).map fun c => (c, rest.drop 8)
  | _ => none

/-- Apply a reader to a text that must be shorter than another one. -/
def further {α : Type} (before rest : List Char)
    (read : (cs : List Char) → cs.length < before.length → Option α) : Option α :=
  if h : rest.length < before.length then read rest h else none

/-- Read text with escapes, up to the quote that ends it. -/
def readBasic (cs : List Char) : Option (List Char × List Char) :=
  match cs with
  | [] => none
  | '"' :: rest => some ([], rest)
  | '\\' :: rest =>
    match readEscape rest with
    | none => none
    | some (c, more) =>
      further ('\\' :: rest) more fun more _ =>
        (readBasic more).map fun (text, left) => (c :: text, left)
  | c :: rest =>
    if isPlain c then
      further (c :: rest) rest fun rest _ =>
        (readBasic rest).map fun (text, left) => (c :: text, left)
    else none
termination_by cs.length
decreasing_by all_goals assumption

/-- Read text without escapes, up to the apostrophe that ends it. -/
def readLiteral : List Char → Option (List Char × List Char)
  | [] => none
  | c :: rest =>
    if c == '\x27' then some ([], rest)
    else if isPlain c then (readLiteral rest).map fun (text, left) => (c :: text, left)
    else none

/-- A text without the blanks and line breaks that it begins with. -/
def dropBlankLines : List Char → List Char
  | '\r' :: '\n' :: rest => dropBlankLines rest
  | c :: rest => if isBlank c || c == '\n' then dropBlankLines rest else c :: rest
  | [] => []

/-- What follows a backslash at the end of a line: the text after all blanks and line breaks. -/
def afterContinuation? (cs : List Char) : Option (List Char) :=
  (afterNewline? (cs.dropWhile isBlank)).map dropBlankLines

/-- Read text of several lines, up to three quotes in a row; one or two more belong to the text. -/
def readLines (quote : Char) (escapes : Bool) (cs : List Char) : Option (List Char × List Char) :=
  match cs with
  | [] => none
  | c :: rest =>
    if c == quote then
      let run := ((c :: rest).takeWhile (· == quote)).length
      if 3 ≤ run then
        let extra := min (run - 3) 2
        some (List.replicate extra quote, (c :: rest).drop (extra + 3))
      else
        further (c :: rest) ((c :: rest).drop run) fun more _ =>
          (readLines quote escapes more).map fun (text, left) =>
            (List.replicate run quote ++ text, left)
    else if c == '\\' && escapes then
      match afterContinuation? rest with
      | some more => further (c :: rest) more fun more _ => readLines quote escapes more
      | none =>
        match readEscape rest with
        | none => none
        | some (x, more) =>
          further (c :: rest) more fun more _ =>
            (readLines quote escapes more).map fun (text, left) => (x :: text, left)
    else
      match afterNewline? (c :: rest) with
      | some more =>
        further (c :: rest) more fun more _ =>
          (readLines quote escapes more).map fun (text, left) => ('\n' :: text, left)
      | none =>
        if isPlain c then
          further (c :: rest) rest fun more _ =>
            (readLines quote escapes more).map fun (text, left) => (c :: text, left)
        else none
termination_by cs.length
decreasing_by all_goals assumption

/-- A text without the line break that it may begin with. -/
def dropNewline (cs : List Char) : List Char :=
  (afterNewline? cs).getD cs

/-- Read quoted text of any kind. -/
def readQuoted : List Char → Option (String × List Char)
  | '"' :: '"' :: '"' :: rest => asString (readLines '"' true (dropNewline rest))
  | '"' :: rest => asString (readBasic rest)
  | '\x27' :: '\x27' :: '\x27' :: rest => asString (readLines '\x27' false (dropNewline rest))
  | '\x27' :: rest => asString (readLiteral rest)
  | _ => none
where
  asString (r : Option (List Char × List Char)) : Option (String × List Char) :=
    r.map fun (text, left) => (String.ofList text, left)

/-! ## Keys -/

/-- Whether a character may stand in a key without quotes. -/
def isKeyChar (c : Char) : Bool :=
  c.isAlphanum || c == '_' || c == '-'

/-- Read one part of a key. -/
def readKeyPart (cs : List Char) : Option (String × List Char) :=
  match cs with
  | '"' :: rest => readQuoted.asString (readBasic rest)
  | '\x27' :: rest => readQuoted.asString (readLiteral rest)
  | _ =>
    if (cs.takeWhile isKeyChar).isEmpty then none
    else some (String.ofList (cs.takeWhile isKeyChar), cs.dropWhile isKeyChar)

/-- Read a key: parts with points between them. -/
def readKeyParts (cs : List Char) : Option (List String × List Char) :=
  match readKeyPart (cs.dropWhile isBlank) with
  | none => none
  | some (part, rest) =>
    match rest.dropWhile isBlank with
    | '.' :: more =>
      further cs more fun more _ =>
        (readKeyParts more).map fun (parts, left) => (part :: parts, left)
    | rest => some ([part], rest)
termination_by cs.length
decreasing_by all_goals assumption

/-- How deep values may be nested, and how many parts a key may have. -/
def greatestDepth : Nat := 79

/-- Read a key: the path to its table, and its last part. -/
def readKey (cs : List Char) : Option ((List String × String) × List Char) := do
  let (parts, rest) ← readKeyParts cs
  let last ← parts.getLast?
  if greatestDepth < parts.length then none else some ((parts.dropLast, last), rest)

/-! ## Numbers -/

/-- Read the digits after the first one; an underscore stands between two digits. -/
def readMoreDigits (base : Nat) : List Char → Option (List Char × List Char)
  | [] => some ([], [])
  | '_' :: d :: rest =>
    if isDigitOf base d then
      (readMoreDigits base rest).map fun (digits, left) => (d :: digits, left)
    else none
  | ['_'] => none
  | c :: rest =>
    if isDigitOf base c then
      (readMoreDigits base rest).map fun (digits, left) => (c :: digits, left)
    else some ([], c :: rest)

/-- Read digits, at least one. -/
def readDigits (base : Nat) : List Char → Option (List Char × List Char)
  | c :: rest =>
    if isDigitOf base c then
      (readMoreDigits base rest).map fun (digits, left) => (c :: digits, left)
    else none
  | [] => none

/-- Read the digits of a whole number: one digit, or several without a leading zero. -/
def readWhole : List Char → Option (List Char × List Char)
  | '0' :: rest => some (['0'], rest)
  | cs => readDigits 10 cs

/-- Read a point and digits, if there is a point. -/
def readFraction : List Char → Option (List Char × List Char)
  | '.' :: rest => readDigits 10 rest
  | cs => some ([], cs)

/-- Read a power of ten, if there is one. -/
def readPower : List Char → Option (Option Int × List Char)
  | c :: rest =>
    if c == 'e' || c == 'E' then
      let (negative, digits) :=
        match rest with
        | '-' :: more => (true, more)
        | '+' :: more => (false, more)
        | more => (false, more)
      (readDigits 10 digits).map fun (digits, left) =>
        let n : Int := digitsValue 10 digits
        (some (if negative then -n else n), left)
    else some (none, c :: rest)
  | [] => some (none, [])

/-- The least number that is too large for 64-bit floating point. -/
def leastOverflow : Nat := Nat.pow 2 1024 - Nat.pow 2 970

/-- The number of decimal digits of the largest numbers of 64-bit floating point. -/
def greatestPlace : Int := 309

/-- Whether a whole number times a power of ten is too large for 64-bit floating point. -/
def overflows (n : Nat) (power : Int) : Bool :=
  if n == 0 then false
  else
    let place : Int := (Nat.toDigits 10 n).length + power
    if greatestPlace < place then true
    else if place < greatestPlace then false
    else if 0 ≤ power then leastOverflow ≤ n * Nat.pow 10 power.toNat
    else leastOverflow * Nat.pow 10 power.natAbs ≤ n

/-- Split the sign from a number: whether there is one, and whether it is negative. -/
def spanSign : List Char → (Bool × Bool) × List Char
  | '+' :: rest => ((true, false), rest)
  | '-' :: rest => ((true, true), rest)
  | cs => ((false, false), cs)

/-- The integer of a sign and a magnitude, if it fits in 64 bits. -/
def integer? (negative : Bool) (magnitude : Nat) : Option Value :=
  if negative then if magnitude ≤ Nat.pow 2 63 then some (.integer (-(magnitude : Int))) else none
  else if magnitude < Nat.pow 2 63 then some (.integer magnitude)
  else none

/-- Read an integer in a base other than ten. -/
def readBased (base : Nat) (cs : List Char) : Option (Value × List Char) := do
  let (digits, left) ← readDigits base cs
  let value ← integer? false (digitsValue base digits)
  return (value, left)

/-- Read a number in base ten. -/
def readDecimal (negative : Bool) (cs : List Char) : Option (Value × List Char) := do
  let (whole, rest) ← readWhole cs
  let (fraction, rest) ← readFraction rest
  let (power, rest) ← readPower rest
  if fraction.isEmpty && power.isNone then
    let value ← integer? negative (digitsValue 10 whole)
    return (value, rest)
  else if !negative &&
      overflows (digitsValue 10 (whole ++ fraction)) (power.getD 0 - fraction.length) then none
  else return (.fraction, rest)

/-- Read a number. -/
def readNumber (cs : List Char) : Option (Value × List Char) :=
  match spanSign cs with
  | (_, 'i' :: 'n' :: 'f' :: rest) => some (.fraction, rest)
  | (_, 'n' :: 'a' :: 'n' :: rest) => some (.fraction, rest)
  | ((false, _), '0' :: 'x' :: rest) => readBased 16 rest
  | ((false, _), '0' :: 'o' :: rest) => readBased 8 rest
  | ((false, _), '0' :: 'b' :: rest) => readBased 2 rest
  | ((_, negative), rest) => readDecimal negative rest

/-! ## Dates and times -/

/-- Read a number of a fixed width up to a greatest one. -/
def readField (width greatest : Nat) (cs : List Char) : Option (Nat × List Char) :=
  let digits := cs.take width
  if digits.length == width && digits.all Char.isDigit && digitsValue 10 digits ≤ greatest then
    some (digitsValue 10 digits, cs.drop width)
  else none

/-- Read a fixed character. -/
def readChar (c : Char) : List Char → Option (List Char)
  | d :: rest => if c == d then some rest else none
  | [] => none

/-- Whether a text begins with a number of a width and then a character. -/
def beginsWith (width : Nat) (mark : Char) (cs : List Char) : Bool :=
  (cs.take width).length == width && (cs.take width).all Char.isDigit &&
    (cs.drop width).head? == some mark

/-- Read a fraction of a second, if there is one. -/
def dropFraction : List Char → List Char
  | '.' :: d :: rest => if d.isDigit then rest.dropWhile Char.isDigit else '.' :: d :: rest
  | cs => cs

/-- Read a time of day. -/
def readTime (cs : List Char) : Option (List Char) := do
  let (_, rest) ← readField 2 23 cs
  let rest ← readChar ':' rest
  let (_, rest) ← readField 2 59 rest
  let rest ← readChar ':' rest
  let (_, rest) ← readField 2 60 rest
  return dropFraction rest

/-- Read an offset from UTC, if there is one. -/
def readOffset : List Char → Option (List Char)
  | c :: rest =>
    if c == 'Z' || c == 'z' then some rest
    else if c == '+' || c == '-' then do
      let (_, rest) ← readField 2 23 rest
      let rest ← readChar ':' rest
      let (_, rest) ← readField 2 59 rest
      return rest
    else some (c :: rest)
  | [] => some []

/-- Read a date, and the time after it if there is one. -/
def readDate (cs : List Char) : Option (List Char) := do
  let (year, rest) ← readField 4 9999 cs
  let rest ← readChar '-' rest
  let (month, rest) ← readField 2 12 rest
  let rest ← readChar '-' rest
  let (day, rest) ← readField 2 31 rest
  if !(Time.Date.mk year month day).isValid then none
  else
    match rest with
    | c :: more =>
      if (c == 'T' || c == 't' || c == ' ') && beginsWith 2 ':' more then
        readTime more >>= readOffset
      else some rest
    | [] => some []

/-- Read a number, a date or a time. -/
def readNumeric (cs : List Char) : Option (Value × List Char) :=
  if beginsWith 4 '-' cs then (readDate cs).map fun rest => (.moment, rest)
  else if beginsWith 2 ':' cs then (readTime cs).map fun rest => (.moment, rest)
  else readNumber cs

end Toml
end PanelQuery
