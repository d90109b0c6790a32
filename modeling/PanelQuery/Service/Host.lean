import PanelQuery.HostName.Basic
import PanelQuery.Service.Escape
import PanelQuery.Service.Scheme

/-!
# The service - hosts

The host of an address in its usual form.  Under the schemes of the web and of files a host is a
name, or numbers when its last part is one; under other schemes it is any text without separators,
and is kept as it is.  A host in brackets is eight groups of digits under all schemes.  The host of
a file is not the local one.

Main results:

- `plainHost?_eq_none_iff`: any text without separators is a host outside the web, unless it is
  empty.
-/

namespace PanelQuery
namespace Service

open Text (splitAt)

/-! ## Hosts of numbers -/

/-- The number that a part of a host stands for: decimal, or octal after `0`, or hexadecimal after
`0x`. -/
def hostNumber? : List Char → Option Nat
  | [] => none
  | '0' :: 'x' :: digits => number? 16 digits
  | '0' :: digits => number? 8 digits
  | digits => number? 10 digits

/-- The parts of a host between points; a point at the end does not count. -/
def hostParts (host : List Char) : List (List Char) :=
  let parts := splitAt (· == '.') host
  if parts.getLast? = some [] && 1 < parts.length then parts.dropLast else parts

/-- Whether a host has to be read as numbers: its last part is one. -/
def endsInNumber (host : List Char) : Bool :=
  match (hostParts host).getLast? with
  | some ('0' :: 'x' :: digits) => (number? 16 digits).isSome
  | some (c :: digits) => (c :: digits).all Char.isDigit
  | _ => false

/-- The value of a host of numbers: all but the last are bytes, and the last fills what is left of
four. -/
def hostValue? : List Nat → Nat → Option Nat
  | [], _ => none
  | [last], room => if last < Nat.pow 256 room then some last else none
  | n :: rest, room + 1 =>
    if n < 256 then (hostValue? rest room).map (n * Nat.pow 256 room + ·) else none
  | _, 0 => none

/-- A host of numbers in its usual form. -/
def writeHostValue (n : Nat) : List Char :=
  (".".intercalate ([24, 16, 8, 0].map fun shift => toString (n >>> shift % 256))).toList

/-- A host of numbers, if it is one. -/
def numericHost? (host : List Char) : Option (List Char) := do
  let numbers ← (hostParts host).mapM hostNumber?
  let value ← hostValue? numbers 4
  return writeHostValue value

/-! ## Hosts in brackets -/

/-- Whether a group of a bracketed host is well formed. -/
def isGroup (group : List Char) : Bool :=
  1 ≤ group.length && group.length ≤ 4 && group.all fun c => (hexValue? c).isSome

/-- Whether a text is four bytes in decimal between points. -/
def isDottedQuad (cs : List Char) : Bool :=
  let parts := splitAt (· == '.') cs
  parts.length == 4 && parts.all fun p =>
    p.all Char.isDigit && (p.length == 1 || p.head? != some '0') &&
      match number? 10 p with
      | some n => p != [] && n < 256
      | none => false

/-- How many groups a part of a bracketed host has, if all are well formed; four bytes at its end
are two. -/
def groupCount? (mayEndDotted : Bool) (cs : List Char) : Option Nat :=
  if cs.isEmpty then some 0
  else
    let groups := splitAt (· == ':') cs
    match groups.getLast? with
    | none => none
    | some last =>
      if mayEndDotted && last.contains '.' then
        if groups.dropLast.all isGroup && isDottedQuad last then some (groups.length + 1) else none
      else if groups.all isGroup then some groups.length else none

/-- Split a text at the first two colons in a row. -/
def splitDoubleColon : List Char → Option (List Char × List Char)
  | ':' :: ':' :: rest => some ([], rest)
  | c :: rest => (splitDoubleColon rest).map fun (a, b) => (c :: a, b)
  | [] => none

/-- Whether the inside of a bracketed host is eight groups, of which a run may be left out. -/
def isBracketed (cs : List Char) : Bool :=
  match splitDoubleColon cs with
  | none => groupCount? true cs == some 8
  | some (front, back) =>
    match groupCount? false front, groupCount? true back with
    | some m, some n => m + n ≤ 7
    | _, _ => false

/-! ## All hosts -/

/-- The host of a name, in which escapes stand for bytes. -/
def namedHost? (host : List Char) : Option (List Char) := do
  let text ← String.fromUTF8? (ByteArray.mk ((unescape host).map UInt8.ofNat).toArray)
  let name ← HostName.read? text.toList
  let written := name.write
  if written.isEmpty then none
  else if endsInNumber written then numericHost? written
  else some written

/-- Whether a character cannot be part of a host under any scheme. -/
def isSeparator (c : Char) : Bool :=
  c.toNat == 0 || ['\t', '\n', '\r', ' ', '#', '/', ':', '<', '>', '?', '@', '[', '\\', ']', '^',
    '|'].contains c

/-- A host that is any text without separators. -/
def plainHost? (host : List Char) : Option (List Char) :=
  if host.isEmpty || host.any isSeparator then none else some (escape (fun _ => false) host)

/-- Any text without separators is a host outside the web, unless it is empty. -/
theorem plainHost?_eq_none_iff {host : List Char} :
    plainHost? host = none ↔ host = [] ∨ ∃ c ∈ host, isSeparator c = true := by
  rw [plainHost?, ← List.any_eq_true, ← List.isEmpty_iff, ← Bool.or_eq_true]
  split <;> simp_all

/-- The name of the host that a program runs on. -/
def localHost : List Char :=
  "localhost".toList

/-- A host in its usual form, if it is one. -/
def host? (scheme : Scheme) (host : List Char) : Option (List Char) :=
  match host with
  | '[' :: inner =>
    if inner.getLast? = some ']' && isBracketed inner.dropLast then some (host.map Char.toLower)
    else none
  | _ =>
    match scheme with
    | .web _ => namedHost? host
    | .file => (namedHost? host).filter (· != localHost)
    | .other _ => plainHost? host

end Service
end PanelQuery
