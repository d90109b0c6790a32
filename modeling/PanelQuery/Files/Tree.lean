import PanelQuery.Text.Split

/-!
# Files - trees

A tree of folders and files, as far as a program reads and writes it.  Paths are walked name by
name, so that a name can only be looked up in a folder that is there.  A folder is there when it was
made, or when something lies in it.

Main results:

- `FileTree.node?_place`: what is put at a location is found there.
- `FileTree.read_of_locate`: what reading gives depends only on what lies where the path leads.
-/

namespace PanelQuery

/-- Why an operation on a file failed. -/
inductive FileFault where
  | notFound
  | isFolder
  | notFolder
  | alreadyThere
  | nameTooLong
  /-- The bytes of a file are no text. -/
  | notText
  /-- Any other reason, in the words of the system. -/
  | refused (reason : String)
deriving DecidableEq, Repr

/-- The text of a fault. -/
def FileFault.message : FileFault → String
  | .notFound => "No such file or directory (os error 2)"
  | .isFolder => "Is a directory (os error 21)"
  | .notFolder => "Not a directory (os error 20)"
  | .alreadyThere => "File exists (os error 17)"
  | .nameTooLong => "File name too long (os error 36)"
  | .notText => "stream did not contain valid UTF-8"
  | .refused reason => reason

/-- What lies at a location. -/
inductive FileNode where
  | folder
  | text (content : String)
  /-- A file whose bytes are no text. -/
  | binary
  /-- Something that the system keeps to itself. -/
  | closed (reason : String)
deriving DecidableEq, Repr

/-- A location: the names from the root on. -/
abbrev Location := List String

/-- A tree of folders and files, and the folder that relative paths start from. -/
structure FileTree where
  nodes : List (Location × FileNode) := []
  workingFolder : Location := []
deriving Repr

/-- The names of a path, and whether it starts at the root and ends in a slash. -/
structure FilePath where
  isAbsolute : Bool
  names : List String
  endsInSlash : Bool
deriving Repr

namespace FilePath

/-- The parts of a path. -/
def ofString (path : String) : FilePath where
  isAbsolute := path.toList.head? = some '/'
  names :=
    ((Text.splitAt (· == '/') path.toList).filter fun part => !part.isEmpty).map String.ofList
  endsInSlash := path.toList.getLast? = some '/'

/-- The names that lead to the folder around a path. -/
def aroundNames (p : FilePath) : List String :=
  (p.names.filter (· != ".")).dropLast

end FilePath

namespace FileTree

/-- What lies at a location, if anything does. -/
def node? (t : FileTree) (l : Location) : Option FileNode :=
  if l = [] then some .folder
  else
    match t.nodes.lookup l with
    | some n => some n
    | none => if t.nodes.any fun n => l.isPrefixOf n.1 then some .folder else none

/-- Put something at a location. -/
def place (t : FileTree) (l : Location) (n : FileNode) : FileTree :=
  { t with nodes := (l, n) :: t.nodes.filter fun m => m.1 != l }

/-- What is put at a location is found there. -/
@[simp]
theorem node?_place (t : FileTree) {l : Location} (n : FileNode) (h : l ≠ []) :
    (t.place l n).node? l = some n := by
  simp [node?, place, h]

/-- The greatest number of bytes of a name. -/
def greatestNameSize : Nat := 255

/-- Walk names from a location on. -/
def walk (t : FileTree) (here : Location) : List String → Except FileFault Location
  | [] => .ok here
  | name :: rest =>
    match t.node? here with
    | none => .error .notFound
    | some .folder =>
      if greatestNameSize < name.utf8ByteSize then .error .nameTooLong
      else if name = "." then walk t here rest
      else if name = ".." then walk t here.dropLast rest
      else walk t (here ++ [name]) rest
    | some _ => .error .notFolder

/-- Where a path starts. -/
def origin (t : FileTree) (p : FilePath) : Location :=
  if p.isAbsolute then [] else t.workingFolder

/-- Where a path leads.  A slash at its end asks for a folder. -/
def locate (t : FileTree) (path : String) : Except FileFault Location :=
  let p := FilePath.ofString path
  if path = "" then .error .notFound
  else t.walk (t.origin p) (p.names ++ if p.endsInSlash then ["."] else [])

/-- The text of a file. -/
def read (t : FileTree) (path : String) : Except FileFault String :=
  match t.locate path with
  | .error fault => .error fault
  | .ok l =>
    match t.node? l with
    | none => .error .notFound
    | some .folder => .error .isFolder
    | some (.text content) => .ok content
    | some .binary => .error .notText
    | some (.closed reason) => .error (.refused reason)

/-- What reading gives depends only on what lies where the path leads. -/
theorem read_of_locate {t u : FileTree} {path : String} (hl : t.locate path = u.locate path)
    (hn : ∀ l, t.locate path = .ok l → t.node? l = u.node? l) : t.read path = u.read path := by
  unfold read
  rw [← hl]
  cases hloc : t.locate path with
  | error fault => rfl
  | ok l => simp only [hn l hloc]

/-- Where a path leads when a file is to be written there. -/
def locateForWriting (t : FileTree) (path : String) : Except FileFault Location :=
  let p := FilePath.ofString path
  if path = "" then .error .notFound
  else if p.endsInSlash then
    match t.walk (t.origin p) p.names with
    | .error fault => .error fault
    | .ok _ => .error .isFolder
  else t.walk (t.origin p) p.names

/-- Change the file at a path, or make it if there is none; its folder has to be there. -/
def change (t : FileTree) (path : String) (update : Option FileNode → FileNode) :
    Except FileFault FileTree :=
  match t.locateForWriting path with
  | .error fault => .error fault
  | .ok l =>
    match t.node? l with
    | some .folder => .error .isFolder
    | some (.closed reason) => .error (.refused reason)
    | node => .ok (t.place l (update node))

/-- Write a text to a file. -/
def save (t : FileTree) (path content : String) : Except FileFault FileTree :=
  t.change path fun _ => .text content

/-- Open a file to write at its end. -/
def openAtEnd (t : FileTree) (path : String) : Except FileFault FileTree :=
  t.change path fun node => node.getD (.text "")

/-- Make the folders on a way. -/
def makeFolders (t : FileTree) (here : Location) : List String → Except FileFault FileTree
  | [] => .ok t
  | name :: rest =>
    if name = "." then makeFolders t here rest
    else if name = ".." then makeFolders t here.dropLast rest
    else if greatestNameSize < name.utf8ByteSize then .error .nameTooLong
    else
      match t.node? (here ++ [name]) with
      | some .folder => makeFolders t (here ++ [name]) rest
      | none => makeFolders (t.place (here ++ [name]) .folder) (here ++ [name]) rest
      | some _ => .error (if rest.isEmpty then .alreadyThere else .notFolder)

/-- Write a text to a file, and make the folders around it first. -/
def saveDeep (t : FileTree) (path content : String) : Except FileFault FileTree :=
  let p := FilePath.ofString path
  match t.makeFolders (t.origin p) p.aroundNames with
  | .error fault => .error fault
  | .ok u => u.save path content

/-- What lies in a tree that does not lie in another. -/
def changesSince (t before : FileTree) : List (Location × FileNode) :=
  t.nodes.filter fun n => before.node? n.1 != some n.2

end FileTree
end PanelQuery
