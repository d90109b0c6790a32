import PanelQuery.Command.Invocation
import PanelQuery.Command.Table
import PanelQuery.Datasource
import PanelQuery.Service.Client
import PanelQuery.Settings
import PanelQuery.Target.Document
import PanelQuery.Template.File
import PanelQuery.Time.Duration

/-!
# Command line - runs

Running a command line.  A run is a function of the arguments and of what surrounds the program: the
files, the environment, the time and the network.  It reports what it printed and sent, the files as
it left them, and the fault that ended it, if one did.

Main results:

- `Work.append_fault`: work that failed is not carried on.
- `compileWork_append`: targets are compiled part by part, up to the first that cannot be.
-/

namespace PanelQuery
namespace Command

open Service Template Time

/-- What surrounds a run. -/
structure Surroundings where
  files : FileTree
  environment : Settings.Environment
  now : Instant
  network : Network

/-- Why a run failed. -/
inductive Fault where
  | settings (fault : Settings.Fault)
  /-- The log cannot be written to. -/
  | log (path : String)
  | state (fault : StateFault)
  /-- A file of targets cannot be read. -/
  | unreadableTargets (path : String)
  /-- A file of targets is not JSON. -/
  | malformedTargets (path : String)
  | target (fault : Target.Fault)
  /-- A file of targets has none. -/
  | noTarget (path : String)
  | duration (fault : DurationFault)
  | compile (fault : CompileFault)
  | refresh (fault : RefreshFault)
  | lookup (fault : LookupFault)
  /-- The service does not work. -/
  | notWorking (url : String)
  /-- The document of default settings cannot be written. -/
  | file (fault : FileFault)

/-- The text of a fault. -/
def Fault.message : Fault → String
  | .settings fault => fault.message
  | .log path => "Failed to open log file " ++ path
  | .state fault => fault.message
  | .unreadableTargets path => "Failed to read target file " ++ Text.quoted path
  | .malformedTargets path => "Failed to parse target file " ++ Text.quoted path
  | .target fault => fault.message
  | .noTarget path => "No target in " ++ Text.quoted path
  | .duration fault => fault.message
  | .compile fault => fault.message
  | .refresh fault => fault.message
  | .lookup fault => fault.message
  | .notWorking url => "Data source isn't working (" ++ url ++ ")"
  | .file fault => fault.message

/-! ## Work -/

/-- What a command did: what it printed and sent, and the fault that ended it, if one did. -/
structure Work where
  output : String := ""
  sent : List Request := []
  fault : Option Fault := none

namespace Work

/-- Work that printed a text. -/
def printed (output : String) : Work :=
  { output }

/-- Work that failed before it did anything. -/
def failed (fault : Fault) : Work :=
  { fault := some fault }

/-- Some work, and then more unless it failed. -/
def append (w v : Work) : Work :=
  match w.fault with
  | some _ => w
  | none => ⟨w.output ++ v.output, w.sent ++ v.sent, v.fault⟩

/-- Work that failed is not carried on. -/
theorem append_fault {w v : Work} {fault : Fault} (h : w.fault = some fault) : w.append v = w := by
  simp [append, h]

/-- The work of an exchange: its result is printed, or is a fault. -/
def ofExchange {ε α : Type} (toFault : ε → Fault) (print : α → String)
    (e : Exchange (Except ε α)) : Work :=
  match e.result with
  | .ok a => { output := print a, sent := e.sent }
  | .error fault => { sent := e.sent, fault := some (toFault fault) }

end Work

/-! ## Targets -/

/-- The targets of a document: one target, or a list of them. -/
def targetsOf : Json → Except Target.Fault (List Target)
  | .array documents => Target.decodeAll documents
  | document => Target.decodeAll [document]

/-- The targets of a file. -/
def loadTargets (files : FileTree) (path : String) : Except Fault (List Target) :=
  match files.read path with
  | .error _ => .error (.unreadableTargets path)
  | .ok text =>
    match Json.parse? text with
    | none => .error (.malformedTargets path)
    | some document =>
      match targetsOf document with
      | .ok targets => .ok targets
      | .error fault => .error (.target fault)

/-! ## Commands -/

/-- What a command works with. -/
structure Setup where
  settings : Settings
  files : FileTree
  datasource : Datasource
  transport : Transport
  now : Instant
  asJson : Bool

/-- Compile a target and print the query. -/
def compileOne (s : Setup) (t : Target) : Work :=
  match t.compile s.datasource.dashboard s.datasource.name [] with
  | .ok query => .printed (queryText s.asJson query)
  | .error fault => .failed (.compile fault)

/-- Compile targets in order, up to the first that cannot be compiled. -/
def compileWork (s : Setup) : List Target → Work
  | [] => {}
  | t :: rest => (compileOne s t).append (compileWork s rest)

/-- Targets are compiled part by part. -/
theorem compileWork_append (s : Setup) (ts us : List Target) :
    compileWork s (ts ++ us) = (compileWork s ts).append (compileWork s us) := by
  induction ts with
  | nil => simp [compileWork, Work.append]
  | cons t rest ih =>
    rw [List.cons_append, compileWork, ih, compileWork]
    unfold compileOne
    split
    · simp only [Work.append, Work.printed]
      cases h : (compileWork s rest).fault <;> simp [h, String.append_assoc]
    · simp [Work.append, Work.failed]

/-- The range that ends now, of a written length. -/
def rangeOf (now : Instant) (last : String) : Except Fault TimeRange :=
  match Span.parse last with
  | .ok length => .ok (.last now length)
  | .error fault => .error (.duration fault)

/-- Run the targets of a file as one refresh. -/
def queryWork (s : Setup) (path last : String) (interval : Option String)
    (maxDataPoints : Option Nat) : Work :=
  match rangeOf s.now last with
  | .error fault => .failed fault
  | .ok range =>
    match loadTargets s.files path with
    | .error fault => .failed fault
    | .ok targets =>
      .ofExchange .refresh (answerText s.asJson)
        (s.datasource.refresh s.transport { range, interval, maxDataPoints, targets })

/-- Check that the service works. -/
def testWork (s : Setup) : Work :=
  let e := s.datasource.check s.transport
  let url := s.settings.service.url
  { sent := e.sent
    output :=
      if s.asJson then jsonText e.result.toJson
      else if e.result.isSuccess then line ("Data source is working (" ++ url ++ ")")
      else ""
    fault := if e.result.isSuccess then none else some (.notWorking url) }

/-- Print the suggestions of a lookup. -/
def suggestionWork (s : Setup) (e : Exchange (Except LookupFault (List Suggestion))) : Work :=
  .ofExchange .lookup (suggestionText s.asJson) e

/-- List the values for a condition of the first target of a file. -/
def conditionWork (s : Setup) (path : String) (group index : Nat) (like : String) : Work :=
  match loadTargets s.files path with
  | .error fault => .failed fault
  | .ok [] => .failed (.noTarget path)
  | .ok (t :: _) =>
    .ofExchange .lookup (valueText s.asJson)
      (s.datasource.conditionValues s.transport t group index like)

/-- List the results of a free search. -/
def searchWork (s : Setup) (text : String) : Option String → Work
  | none => suggestionWork s (s.datasource.search s.transport text none)
  | some last =>
    match rangeOf s.now last with
    | .error fault => .failed fault
    | .ok range => suggestionWork s (s.datasource.search s.transport text (some range))

/-- Print the query texts of targets. -/
def compileSourceWork (s : Setup) : CompileSource → Work
  | .text text => compileWork s [Target.ofText text]
  | .file path =>
    match loadTargets s.files path with
    | .error fault => .failed fault
    | .ok targets => compileWork s targets

/-- Carry out a command that works on a data source. -/
def Setup.carryOut (s : Setup) : Task → Work
  | .compile source => compileSourceWork s source
  | .query path last interval maxDataPoints => queryWork s path last interval maxDataPoints
  | .test => testWork s
  | .columns => suggestionWork s (s.datasource.columns s.transport)
  | .values field => suggestionWork s (s.datasource.values s.transport field)
  | .condition path group index like => conditionWork s path group index like
  | .search text last => searchWork s text last
  | .tables name => suggestionWork s (s.datasource.tables s.transport name)
  | .operators => .printed (suggestionText s.asJson Datasource.operators)
  | .settings _ => {}

/-! ## Runs -/

/-- How a run ended. -/
inductive Ending where
  | success
  | failure (fault : Fault)
  /-- The arguments were wrong. -/
  | misuse

/-- The exit code of an ending. -/
def Ending.exitCode : Ending → Nat
  | .success => 0
  | .failure _ => 1
  | .misuse => 2

/-- The error message of an ending. -/
def Ending.message? : Ending → Option String
  | .failure fault => some ("Error: " ++ fault.message)
  | _ => none

/-- What a run did. -/
structure Report where
  ending : Ending
  output : String
  messages : List Message
  files : FileTree

/-- The report of a run that printed a text and did nothing else. -/
def Report.printed (output : String) (files : FileTree) : Report :=
  ⟨.success, output, [], files⟩

/-- The report of a run that failed before it did anything. -/
def Report.failed (fault : Fault) (files : FileTree) : Report :=
  ⟨.failure fault, "", [], files⟩

/-- The name of the program and its version. -/
def versionText : String :=
  line "tsds 0.1.0"

/-- What the program can be asked for. -/
def helpText : String :=
  line "Query builder and metadata browser for the TSDS time-series service" ++ line "" ++
    line "Usage: tsds [OPTIONS] <COMMAND>" ++ line "" ++ line "Commands:" ++
    String.join (forms.map fun f => line ("  " ++ f.1))

/-- Open the log, if there is a file for it. -/
def openLog (files : FileTree) : Option String → Except Fault FileTree
  | none => .ok files
  | some path =>
    match files.openAtEnd path with
    | .ok files => .ok files
    | .error _ => .error (.log path)

/-- The state of the dashboard, if there is a file of it. -/
def loadState (files : FileTree) : Option String → Except Fault Dashboard
  | none => .ok .empty
  | some path =>
    match Dashboard.load path (files.read path) with
    | .ok dashboard => .ok dashboard
    | .error fault => .error (.state fault)

/-- The settings of a run; a URL on the command line goes before all others. -/
def settingsOf (s : Surroundings) (c : Common) : Except Fault Settings :=
  match Settings.resolve s.files.read s.environment c.settingsPath with
  | .error fault => .error (.settings fault)
  | .ok settings =>
    let url := c.url.getD settings.service.url
    .ok { settings with service := { settings.service with url } }

/-- Carry out a task with the settings that count and a log that is open. -/
def Report.ofTask (s : Surroundings) (i : Invocation) (settings : Settings) (files : FileTree) :
    Report :=
  match loadState files i.common.variablesPath with
  | .error fault => .failed fault files
  | .ok dashboard =>
    let client := Client.ofUrl settings.service.url
    let setup : Setup := {
      settings, files
      datasource := {
        name := settings.service.name, dashboard, credentials := settings.service.credentials }
      transport := client.transport s.network
      now := s.now
      asJson := i.common.printsJson }
    let work := setup.carryOut i.task
    { ending :=
        match work.fault with
        | some fault => .failure fault
        | none => .success
      output := work.output
      messages := client.messages work.sent
      files }

/-- Carry out an invocation. -/
def Report.ofInvocation (s : Surroundings) (i : Invocation) : Report :=
  match i.task with
  | .settings none => .printed Settings.defaultDocument s.files
  | .settings (some path) =>
    match s.files.saveDeep path Settings.defaultDocument with
    | .ok files => .printed (line ("Config written to " ++ Text.quoted path)) files
    | .error fault => .failed (.file fault) s.files
  | _ =>
    match settingsOf s i.common with
    | .error fault => .failed fault s.files
    | .ok settings =>
      match openLog s.files settings.log.file with
      | .error fault => .failed fault s.files
      | .ok files => .ofTask s i settings files

/-- Run a command line. -/
def run (s : Surroundings) (arguments : List String) : Report :=
  match Invocation.parse arguments with
  | .ok i => .ofInvocation s i
  | .error .help => .printed helpText s.files
  | .error .version => .printed versionText s.files
  | .error .misuse => ⟨.misuse, "", [], s.files⟩

end Command
end PanelQuery
