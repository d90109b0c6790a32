import PanelQuery.Command.Arguments
import PanelQuery.Text.Integer

/-!
# Command line - invocations

What a command line asks for: a command with its arguments, and the options that any command takes.
Those options may stand before or after the name of the command; the latter count.

Main results:

- `Common.orElse_none`: options that are not given after the command are those before it.
-/

namespace PanelQuery
namespace Command

/-- Where the targets to compile come from. -/
inductive CompileSource where
  /-- A file of targets. -/
  | file (path : String)
  /-- A text that is a query as it is. -/
  | text (text : String)
deriving DecidableEq, Repr

/-- A command with its arguments. -/
inductive Task where
  /-- Print the query texts of targets. -/
  | compile (source : CompileSource)
  /-- Run the targets of a file as one refresh. -/
  | query (path last : String) (interval : Option String) (maxDataPoints : Option Nat)
  /-- Check that the service works. -/
  | test
  /-- List columns. -/
  | columns
  /-- List the values of a field. -/
  | values (field : String)
  /-- List the values for a condition of a target. -/
  | condition (path : String) (group index : Nat) (like : String)
  /-- List the results of a free search. -/
  | search (text : String) (last : Option String)
  /-- List measurement types. -/
  | tables (name : Option String)
  /-- List comparisons. -/
  | operators
  /-- Write the document of default settings. -/
  | settings (path : Option String)
deriving DecidableEq, Repr

/-- The paths that a task names. -/
def Task.paths : Task → List String
  | .compile (.file path) => [path]
  | .query path _ _ _ => [path]
  | .condition path _ _ _ => [path]
  | .settings path => path.toList
  | _ => []

/-- The options that any command takes. -/
structure Common where
  settingsPath : Option String := none
  url : Option String := none
  variablesPath : Option String := none
  format : Option String := none
deriving DecidableEq, Repr

namespace Common

/-- The options that were given. -/
def ofGiven (g : Given) : Common where
  settingsPath := g.value? "config"
  url := g.value? "url"
  variablesPath := g.value? "vars"
  format := g.value? "format"

/-- Options over others. -/
def orElse (c d : Common) : Common where
  settingsPath := c.settingsPath.or d.settingsPath
  url := c.url.or d.url
  variablesPath := c.variablesPath.or d.variablesPath
  format := c.format.or d.format

/-- Options that are not given leave the others as they are. -/
@[simp]
theorem orElse_none (d : Common) : orElse {} d = d :=
  rfl

/-- Whether results are printed as JSON. -/
def printsJson (c : Common) : Bool :=
  c.format == some "json"

end Common

/-- What a command line asks for. -/
structure Invocation where
  task : Task
  common : Common
deriving DecidableEq, Repr

/-! ## Rules -/

/-- Whether a text can be a path. -/
def isPath (text : String) : Bool :=
  text != ""

/-- Whether a text is an index. -/
def isIndex (text : String) : Bool :=
  (Text.readIndex? text).isSome

/-- The greatest number of data points that can be asked for. -/
def greatestPoints : Nat := Nat.pow 2 32 - 1

/-- Whether a text is a number of data points. -/
def isPointCount (text : String) : Bool :=
  (Text.readCount? greatestPoints text).isSome

/-- The options that any command takes. -/
def commonOptions : List OptionRule := [
  { long := "config", short := some 'c', accepts := isPath },
  { long := "url" },
  { long := "vars", accepts := isPath },
  { long := "format", short := some 'f' }]

/-- Anything. -/
def anything : String → Bool := fun _ => true

/-- The length of the range of a refresh when none is given. -/
def defaultLast : String := "24h"

/-- A form that a command may have: its rules, and the task that it makes of what is given. -/
structure Form where
  options : List OptionRule := []
  operands : List (String → Bool) := []
  task : Given → Option Task

/-- The option for the length of a range. -/
def lastOption : OptionRule :=
  { long := "last", short := some 'l' }

/-- What to compile: a file or a text, but not both. -/
def compileTask (g : Given) : Option Task :=
  match g.value? "target", g.value? "raw" with
  | some path, none => some (.compile (.file path))
  | none, some text => some (.compile (.text text))
  | _, _ => none

/-- The commands by name. -/
def forms : List (String × Form) := [
  ("compile", {
    options := [{ long := "target", short := some 't', accepts := isPath }, { long := "raw" }]
    task := compileTask }),
  ("query", {
    options := [lastOption, { long := "interval" },
      { long := "max-data-points", accepts := isPointCount }]
    operands := [isPath]
    task := fun g => g.operands[0]?.map fun path =>
      .query path ((g.value? "last").getD defaultLast) (g.value? "interval")
        ((g.value? "max-data-points").bind (Text.readCount? greatestPoints)) }),
  ("test", { task := fun _ => some .test }),
  ("columns", { task := fun _ => some .columns }),
  ("values", { operands := [anything], task := fun g => g.operands[0]?.map .values }),
  ("where", {
    options := [
      { long := "group", short := some 'g', accepts := isIndex },
      { long := "condition", short := some 'i', accepts := isIndex },
      { long := "like" }]
    operands := [isPath]
    task := fun g => g.operands[0]?.map fun path =>
      .condition path (((g.value? "group").bind Text.readIndex?).getD 0)
        (((g.value? "condition").bind Text.readIndex?).getD 0) ((g.value? "like").getD "") }),
  ("search", {
    options := [lastOption]
    operands := [anything]
    task := fun g => g.operands[0]?.map fun text => .search text (g.value? "last") }),
  ("tables", { operands := [anything], task := fun g => some (.tables g.operands[0]?) }),
  ("operators", { task := fun _ => some .operators }),
  ("config", {
    options := [{ long := "output", short := some 'o', accepts := isPath }]
    task := fun g => some (.settings (g.value? "output")) })]

/-- The name of the command that shows help. -/
def helpName : String := "help"

/-- What the command for help comes to: it may name one command. -/
def helpStop : List String → Stop
  | [] => .help
  | [name] => if name = helpName || (forms.lookup name).isSome then .help else .misuse
  | _ => .misuse

/-- The invocation that arguments stand for. -/
def Invocation.parse (arguments : List String) : Except Stop Invocation := do
  let (before, name, rest) ← spanCommand { options := commonOptions } {} arguments
  if name = helpName then throw (helpStop rest)
  match forms.lookup name with
  | none => throw .misuse
  | some form =>
    let rules : Rules := { options := form.options ++ commonOptions, operands := form.operands }
    let given ← rules.scan {} rest
    match form.task given with
    | none => throw .misuse
    | some task => return ⟨task, (Common.ofGiven given).orElse (Common.ofGiven before)⟩

end Command
end PanelQuery
