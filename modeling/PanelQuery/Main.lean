import PanelQuery.Command.Run
import Std.Time.DateTime.Timestamp

/-!
# The program

The layer between the system and `Command.run`.  It looks at the files that a run may read, takes
the environment and the time, and afterwards writes what the run printed and changed.  No wire is
attached here: every message is refused.
-/

open PanelQuery PanelQuery.Command

/-- The current time. -/
def currentTime : IO Time.Instant := do
  let now ← Std.Time.Timestamp.now
  let nanos := now.toNanosecondsSinceUnixEpoch.val
  return ⟨nanos / 1000000000, (nanos % 1000000000).toNat⟩

/-- A network without a wire. -/
def noNetwork : Service.Network := fun _ =>
  .broken ⟨false, true, "no wire is attached"⟩

/-- The path of a location. -/
def pathOf (l : Location) : String :=
  "/" ++ "/".intercalate l

/-- The location that a path names, by its text. -/
def locationOf (workingFolder : Location) (path : String) : Location :=
  let p := FilePath.ofString path
  let step := fun (l : Location) name =>
    if name = "." then l else if name = ".." then l.dropLast else l ++ [name]
  p.names.foldl step (if p.isAbsolute then [] else workingFolder)

/-- Take a location of the file system into a tree. -/
def lookAt (tree : FileTree) (l : Location) : IO FileTree := do
  let path := (← IO.currentDir) / pathOf l
  if ← path.isDir then return tree.place l .folder
  if !(← path.pathExists) then return tree
  try
    let bytes ← IO.FS.readBinFile path
    match String.fromUTF8? bytes with
    | some content => return tree.place l (.text content)
    | none => return tree.place l .binary
  catch fault => return tree.place l (.closed (toString fault))

/-- Take a path of the file system, and the folders that lead to it, into a tree. -/
def lookAlong (tree : FileTree) (path : String) : IO FileTree := do
  let l := locationOf tree.workingFolder path
  ((List.range l.length).map fun n => l.take (n + 1)).foldlM lookAt tree

/-- Bring a change of a tree to the file system. -/
def commit (change : Location × FileNode) : IO Unit := do
  match change.2 with
  | .text content => IO.FS.writeFile (pathOf change.1) content
  | .folder => IO.FS.createDirAll (pathOf change.1)
  | _ => return

/-- The paths that an invocation reads or writes, the log apart. -/
def pathsOf (i : Invocation) (environment : Settings.Environment) : List String :=
  i.common.settingsPath.elim (Settings.places environment) ([·]) ++
    i.common.variablesPath.toList ++ i.task.paths

/-- The path of the log that a run opens. -/
def logPaths (s : Surroundings) (i : Invocation) : List String :=
  match settingsOf s i.common with
  | .ok settings => settings.log.file.toList
  | .error _ => []

/-- What surrounds a run. -/
def surroundings (arguments : List String) : IO Surroundings := do
  let values ← Settings.variableNames.mapM fun name => return (name, ← IO.getEnv name)
  let environment : Settings.Environment := fun name => (values.lookup name).join
  let workingFolder := (FilePath.ofString (← IO.currentDir).toString).names
  let now ← currentTime
  let bare : Surroundings := ⟨{ workingFolder }, environment, now, noNetwork⟩
  match Invocation.parse arguments with
  | .error _ => return bare
  | .ok i =>
    let files ← (pathsOf i environment).foldlM lookAlong bare.files
    let read := { bare with files }
    let files ← (logPaths read i).foldlM lookAlong files
    return { read with files }

/-- Run the program. -/
def main (arguments : List String) : IO UInt32 := do
  let s ← surroundings arguments
  let report := run s arguments
  (report.files.changesSince s.files).reverse.forM commit
  (← IO.getStdout).putStr report.output
  match report.ending.message? with
  | some message => (← IO.getStderr).putStrLn message
  | none => pure ()
  return report.ending.exitCode.toUInt32
