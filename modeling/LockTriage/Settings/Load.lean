import LockTriage.Files.Tree
import LockTriage.Settings.Decode
import LockTriage.Toml.Document

/-!
The settings file of a project.
-/

namespace LockTriage

/-- Why a settings file cannot be used. -/
inductive SettingsError
  | unreadable (path : Path) (fault : Fault)
  | malformed (path : Path)
  | invalid (path : Path) (cause : ScanError)
  deriving DecidableEq, Repr

namespace SettingsError

/-- What could not be done. -/
def message : SettingsError → String
  | unreadable path _ => s!"Failed to read config: {path.text}"
  | malformed path => s!"Failed to parse config: {path.text}"
  | invalid path _ => s!"Invalid config: {path.text}"

/-- Why it could not be done. The place of a mistake in the file is not reported. -/
def cause? : SettingsError → Option String
  | unreadable _ fault => some fault.message
  | malformed _ => none
  | invalid _ cause => some cause.message

end SettingsError

namespace Settings

/-- The settings that a text stands for. Their tables are met in the order of the run. -/
def parse [p : Settings.Order] (path : Path) (text : String) : Except SettingsError Settings :=
  match (Toml.parse? text).bind ofEntries? with
  | none => .error (.malformed path)
  | some read =>
      let settings := read.enumerating (p.order read.networks)
      match settings.validate with
      | .error cause => .error (.invalid path cause)
      | .ok _ => .ok settings

/-- The settings in a file, or the standard ones if there is no such file. -/
def load [p : Settings.Order] (files : FileTree) (path : Path) : Except SettingsError Settings :=
  if !files.pathExists path then .ok standard
  else
    match files.readText path with
    | .error fault => .error (.unreadable path fault)
    | .ok text => parse path text

/-- The name of the settings file in the working directory. -/
def fileName : String := ".vyper-guard.toml"

/-- The lines of the settings file that a new project starts with. -/
def templateLines : List String :=
  ["# vyper-guard configuration",
   "# See: https://github.com/safestackai/vyper-guard",
   "",
   "[global]",
   "# One `<network>.csv` of `address,version` rows per network",
   "input_dir = \"etherscan-export\"",
   "# Flagged sources are saved as <output_dir>/<network>/<address>.vy",
   "output_dir = \"contracts\"",
   "cache_dir = \".vyper-guard-cache\"",
   "vulnerable_versions = [\"0.2.15\", \"0.2.16\", \"0.3.0\"]",
   "",
   "# Per-network overrides",
   "# [networks.celo]",
   "# enabled = false",
   "",
   "# [networks.ethereum]",
   "# api_url = \"https://api.etherscan.io/api\"",
   "",
   "[classifier]",
   "# Extra raw_call argument markers treated as safe",
   "extra_safe_calls = []",
   "",
   "[suppressions]",
   "# Glob patterns for addresses to skip entirely",
   "addresses = []"]

/-- The settings file that a new project starts with. -/
def template : String := String.join (templateLines.map (· ++ "\n"))

end Settings

end LockTriage
