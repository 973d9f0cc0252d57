import LockTriage.Settings.Basic
import LockTriage.Toml.Value

/-!
Settings out of TOML values. Everything may be left out, and unknown names are
ignored, but what is there has to be of the right kind.
-/

namespace LockTriage.Settings

open Toml (Value)

/-- The members of a section. A section may also be written as a list, whose
items are the members in the given order, and a date has no members that count. -/
def section? (order : List String) : Value → Option (List (String × Value))
  | .table entries => some entries
  | .array items => some (order.zip items)
  | .dateTime _ => some []
  | _ => none

/-- The value of a member, or the given one if it is missing. -/
def member {α : Type} (decode : Value → Option α) (default : α) (name : String)
    (members : List (String × Value)) : Option α :=
  match members.lookup name with
  | none => some default
  | some v => decode v

def text? : Value → Option String
  | .string t => some t
  | _ => none

def boolean? : Value → Option Bool
  | .boolean b => some b
  | _ => none

def texts? : Value → Option (List String)
  | .array items => items.mapM text?
  | _ => none

/-- The table of a network. -/
def networkTable? (v : Value) : Option NetworkTable := do
  let members ← section? ["enabled", "api_url"] v
  let enabled ← member (fun v => (boolean? v).map some) none "enabled" members
  let apiUrl ← member (fun v => (text? v).map some) none "api_url" members
  some ⟨enabled, apiUrl⟩

/-- The tables of networks. -/
def networkTables? : Value → Option (List (String × NetworkTable))
  | .table entries => entries.mapM fun (name, v) => (networkTable? v).map fun t => (name, t)
  | _ => none

/-- The names of the members of the general section, in order. -/
def generalOrder : List String :=
  ["input_dir", "output_dir", "cache_dir", "vulnerable_versions"]

/-- The general section, read into some settings. -/
def general? (s : Settings) (v : Value) : Option Settings := do
  let members ← section? generalOrder v
  let path := fun v => (text? v).map Path.mk
  let inputDir ← member path s.inputDir "input_dir" members
  let outputDir ← member path s.outputDir "output_dir" members
  let cacheDir ← member path s.cacheDir "cache_dir" members
  let versions ← member texts? s.vulnerableVersions "vulnerable_versions" members
  some { s with
    inputDir := inputDir, outputDir := outputDir, cacheDir := cacheDir,
    vulnerableVersions := versions }

def listSection? (name : String) (v : Value) : Option (List String) :=
  (section? [name] v).bind (member texts? [] name)

/-- The settings that the entries of a document stand for. -/
def ofEntries? (entries : List (String × Value)) : Option Settings := do
  let general ← member (general? standard) standard "global" entries
  let networks ← member networkTables? [] "networks" entries
  let safeCalls ← member (listSection? "extra_safe_calls") [] "classifier" entries
  let suppressions ← member (listSection? "addresses") [] "suppressions" entries
  some { general with
    networks := networks, extraSafeCalls := safeCalls, suppressions := suppressions }

end LockTriage.Settings
