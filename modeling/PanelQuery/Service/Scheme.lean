/-!
# The service - schemes

What stands before the first colon of a URL, and how the rest is read after it.  For the schemes of
the web and for files a backslash counts as a slash.

Main results:

- `Scheme.isSlash_slash`: a slash is a slash under every scheme.
-/

namespace PanelQuery
namespace Service

/-- The scheme of a URL: one of the web, that of files, or another. -/
inductive Scheme where
  | web (name : String)
  | file
  | other (name : String)
deriving DecidableEq, Repr

namespace Scheme

/-- The schemes of the web. -/
def webNames : List String :=
  ["http", "https", "ws", "wss", "ftp"]

/-- The scheme with a name. -/
def ofName (name : String) : Scheme :=
  if webNames.contains name then .web name else if name == "file" then .file else .other name

/-- The name of a scheme. -/
def name : Scheme → String
  | .web name => name
  | .file => "file"
  | .other name => name

/-- Whether the rest of a URL is read in the special way of the web and of files. -/
def isSpecial : Scheme → Bool
  | .other _ => false
  | _ => true

/-- Whether a character separates the segments of a path. -/
def isSlash (s : Scheme) (c : Char) : Bool :=
  c == '/' || (s.isSpecial && c == '\\')

/-- A slash is a slash under every scheme. -/
theorem isSlash_slash (s : Scheme) : s.isSlash '/' = true :=
  rfl

/-- Whether a character may stand in the name of a scheme. -/
def isNameChar (c : Char) : Bool :=
  c.isAlphanum || c == '+' || c == '-' || c == '.'

/-- Read a scheme and the colon after it. -/
def read? (cs : List Char) : Option (Scheme × List Char) :=
  match cs.takeWhile isNameChar, cs.dropWhile isNameChar with
  | c :: name, ':' :: rest =>
    if c.isAlpha then some (ofName (String.ofList ((c :: name).map Char.toLower)), rest) else none
  | _, _ => none

/-- What follows the slashes before the host: any number of them on the web, and else two. -/
def dropSlashes? (s : Scheme) (cs : List Char) : Option (List Char) :=
  match s, cs with
  | .web _, cs => some (cs.dropWhile s.isSlash)
  | _, a :: b :: rest => if s.isSlash a && s.isSlash b then some rest else none
  | _, _ => none

end Scheme
end Service
end PanelQuery
