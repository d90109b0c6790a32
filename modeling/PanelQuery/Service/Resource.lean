import PanelQuery.Service.Escape
import PanelQuery.Service.Scheme
import PanelQuery.Text.Split

/-!
# The service - resources

The path of an address with its query, in the encoded form that goes on the wire.  Segments of dots
are followed up to the root or to the letter of a drive.  A file whose path begins with the letter
of a drive is on no other host.

Main results:

- `settle_nil`: a path ends when its segments do.
- `above_drive`: no segment leads out of a drive.
-/

namespace PanelQuery
namespace Service

open Text (splitAt)

/-- Whether a segment stands for the folder itself. -/
def isSingleDot (segment : List Char) : Bool :=
  [['.'], ['%', '2', 'e']].contains (segment.map Char.toLower)

/-- Whether a segment stands for the folder above. -/
def isDoubleDot (segment : List Char) : Bool :=
  [['.', '.'], ['.', '%', '2', 'e'], ['%', '2', 'e', '.'], ['%', '2', 'e', '%', '2', 'e']].contains
    (segment.map Char.toLower)

/-- Whether a segment begins with the letter of a drive: a letter and a colon or bar, and then a
backslash or nothing. -/
def isDrive : List Char → Bool
  | letter :: mark :: rest =>
    letter.isAlpha && (mark == ':' || mark == '|') && rest.head?.all (· == '\\')
  | _ => false

/-- The segments above the last one, given in reverse; a drive has none above it. -/
def above : List (List Char) → List (List Char)
  | [] => []
  | segment :: before => if isDrive segment then segment :: before else before

/-- No segment leads out of a drive. -/
theorem above_drive {segment : List Char} (before : List (List Char))
    (h : isDrive segment = true) : above (segment :: before) = segment :: before := by
  simp [above, h]

/-- The segments of a path without dots, given those before in reverse.  The path of a file has no
drive for its first segment. -/
def settle (isFile : Bool) (before : List (List Char)) :
    List (List Char) → Option (List (List Char))
  | [] => some before.reverse
  | segment :: rest =>
    let ending := if rest.isEmpty then [[]] else []
    if isDoubleDot segment then settle isFile (ending ++ above before) rest
    else if isSingleDot segment then settle isFile (ending ++ before) rest
    else if isFile && before.isEmpty && isDrive segment then none
    else settle isFile (segment :: before) rest

/-- A path ends when its segments do. -/
theorem settle_nil (isFile : Bool) (before : List (List Char)) :
    settle isFile before [] = some before.reverse :=
  rfl

/-- The characters of a path that are escaped. -/
def isEscapedInPath (c : Char) : Bool :=
  [' ', '"', '#', '<', '>', '?', '\x60', '{', '}'].contains c

/-- The characters of a query that are escaped. -/
def isEscapedInQuery (scheme : Scheme) (c : Char) : Bool :=
  [' ', '"', '#', '<', '>'].contains c || (scheme.isSpecial && c == '\x27')

/-- The segments of what follows the slash before a path. -/
def segments (scheme : Scheme) (path : List Char) : List (List Char) :=
  match path with
  | c :: rest => splitAt scheme.isSlash (if scheme.isSlash c then rest else path)
  | [] => [[]]

/-- A path in the form that goes on the wire.  A path of files does not begin with empty segments.
-/
def writePath (scheme : Scheme) (path : List Char) : Option (List Char) :=
  if path.isEmpty && !scheme.isSpecial then some []
  else
    let isFile := scheme == .file
    (settle isFile [] (segments scheme path)).map fun settled =>
      let written := settled.flatMap fun segment => '/' :: escape isEscapedInPath segment
      if isFile then '/' :: written.dropWhile (· == '/') else written

/-- The path and the query of what follows the host. -/
def writeResource (scheme : Scheme) (cs : List Char) : Option (List Char) :=
  let cs := cs.takeWhile (· != '#')
  (writePath scheme (cs.takeWhile (· != '?'))).map fun path =>
    match cs.dropWhile (· != '?') with
    | [] => path
    | _ :: query => path ++ ['?'] ++ escape (isEscapedInQuery scheme) query

end Service
end PanelQuery
