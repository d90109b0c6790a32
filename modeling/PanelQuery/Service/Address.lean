import PanelQuery.Service.Host
import PanelQuery.Service.Resource

/-!
# The service - addresses

The address that a request is sent to, read from a URL: the host to connect to, and the path with
its query in the encoded form that goes on the wire.  An address without a host is none.

A user name, a password and a fragment are left out; the address of a file has no user and no port.

Main results:

- `splitPort_of_plain`: without a colon there is no port.
-/

namespace PanelQuery
namespace Service

/-- An address: scheme, host, port, and the path with its query. -/
structure Address where
  scheme : Scheme
  host : String
  port : Option Nat
  resource : String
deriving DecidableEq, Repr

namespace Address

/-- Split the host from the port, at the first colon that is not in brackets. -/
def splitPort (inBrackets : Bool) : List Char → List Char × Option (List Char)
  | [] => ([], none)
  | c :: rest =>
    if c == ':' && !inBrackets then ([], some rest)
    else
      let (host, port) :=
        splitPort (if c == '[' then true else if c == ']' then false else inBrackets) rest
      (c :: host, port)

/-- Without a colon there is no port. -/
theorem splitPort_of_plain {cs : List Char} (inBrackets : Bool) (h : ∀ c ∈ cs, c ≠ ':') :
    splitPort inBrackets cs = (cs, none) := by
  induction cs generalizing inBrackets with
  | nil => rfl
  | cons c rest ih =>
    have hc : (c == ':') = false := by simpa using h c List.mem_cons_self
    simp [splitPort, hc, ih _ fun d hd => h d (List.mem_cons_of_mem c hd)]

/-- The greatest port. -/
def greatestPort : Nat := 65535

/-- Read a port: digits, or nothing. -/
def port? (digits : List Char) : Option (Option Nat) :=
  if digits.isEmpty then some none
  else if !digits.all Char.isDigit then none
  else
    match number? 10 digits with
    | some n => if n ≤ greatestPort then some (some n) else none
    | none => none

/-- What follows the last sign that ends a user name and password. -/
def afterUser (authority : List Char) : List Char :=
  (authority.reverse.takeWhile (· != '@')).reverse

/-- The texts of the host and of the port in what stands between the slashes and the path, and what
follows the port; a backslash ends a port under every scheme. -/
def splitAuthority (scheme : Scheme) (authority : List Char) :
    List Char × List Char × List Char :=
  if scheme == .file then (authority, [], [])
  else
    let (host, port) := splitPort false (afterUser authority)
    let port := port.getD []
    (host, port.takeWhile (· != '\\'), port.dropWhile (· != '\\'))

/-- A text without control characters and spaces around it, and without tabs and line breaks. -/
def cleaned (cs : List Char) : List Char :=
  let isOuter := fun (c : Char) => c.toNat ≤ 0x20
  (((cs.dropWhile isOuter).reverse.dropWhile isOuter).reverse).filter fun c =>
    !(c == '\t' || c == '\n' || c == '\r')

/-- The address of a URL, if it has one. -/
def parse? (url : String) : Option Address := do
  let (scheme, rest) ← Scheme.read? (cleaned url.toList)
  let rest ← scheme.dropSlashes? rest
  let ends := fun (c : Char) => scheme.isSlash c || c == '?' || c == '#'
  let (hostText, portText, afterPort) :=
    splitAuthority scheme (rest.takeWhile fun c => !ends c)
  let host ← host? scheme hostText
  let port ← port? portText
  let resource ← writeResource scheme (afterPort ++ rest.dropWhile fun c => !ends c)
  return { scheme, port, host := String.ofList host, resource := String.ofList resource }

end Address
end Service
end PanelQuery
