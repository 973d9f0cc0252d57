import LockTriage.Classifier
import LockTriage.Enumeration
import LockTriage.Files.Path
import LockTriage.Glob
import LockTriage.Network
import LockTriage.ScanError
import LockTriage.Shelf

/-!
The settings of a project: where exports, saved sources and cached answers are,
which compiler versions are affected, and what is particular to a network.
-/

namespace LockTriage

/-- What the settings say about one network. -/
structure NetworkTable where
  enabled : Option Bool
  apiUrl : Option String
  deriving DecidableEq, Repr

structure Settings where
  inputDir : Path
  outputDir : Path
  cacheDir : Path
  /-- The affected compiler versions, as they are written. -/
  vulnerableVersions : List String
  /-- The tables of networks, under the names that they have in the file. -/
  networks : List (String × NetworkTable)
  extraSafeCalls : List String
  /-- Patterns of addresses that have been reviewed. -/
  suppressions : List String
  deriving DecidableEq, Repr

namespace Settings

/-- Compiler releases with the broken lock. -/
def affectedReleases : List String := ["0.2.15", "0.2.16", "0.3.0"]

/-- The settings of a project that has no settings file. -/
def standard : Settings where
  inputDir := ⟨"etherscan-export"⟩
  outputDir := ⟨"contracts"⟩
  cacheDir := ⟨".vyper-guard-cache"⟩
  vulnerableVersions := affectedReleases
  networks := []
  extraSafeCalls := []
  suppressions := []

/-- The order in which a run meets the tables of networks. -/
abbrev Order := Enumeration (String × NetworkTable)

/-- The settings with their tables met in another order. -/
def enumerating (s : Settings) (tables : List (String × NetworkTable)) : Settings :=
  { s with networks := tables }

/-- Every table has to name a network. -/
def validate (s : Settings) : Except ScanError Unit :=
  match s.networks.find? fun t => (Network.ofName? t.1).isNone with
  | some (name, _) => .error (.unknownNetwork name)
  | none => .ok ()

/-- The table of a network: the first one whose name names it, in any case. -/
def table? (s : Settings) (network : Network) : Option NetworkTable :=
  (s.networks.find? fun t => Network.ofName? t.1 == some network).map Prod.snd

/-- A network is scanned unless its table says otherwise. -/
def isEnabled (s : Settings) (network : Network) : Bool :=
  ((s.table? network).bind NetworkTable.enabled).getD true

/-- The networks to scan, in scan order. -/
def enabledNetworks (s : Settings) : List Network := Network.all.filter s.isEnabled

/-- The endpoint of a network. -/
def apiUrl (s : Settings) (network : Network) : String :=
  ((s.table? network).bind NetworkTable.apiUrl).getD network.defaultApiUrl

/-- Put a text in its place by byte order, unless it is there already. -/
def insertText (t : String) : List String → List String
  | [] => [t]
  | u :: rest => if t = u then u :: rest else if t < u then t :: u :: rest else u :: insertText t rest

/-- The affected versions without white space around them, each once, in byte order. -/
def versions (s : Settings) : List String :=
  s.vulnerableVersions.foldl (fun sorted v => insertText (Text.trimmed v) sorted) []

def isAffected (s : Settings) (declared : String) : Bool :=
  s.versions.contains (Text.trimmed declared)

/-- An address matches a pattern of those that have been reviewed. -/
def isSuppressed (s : Settings) (address : String) : Bool :=
  s.suppressions.any fun pattern => Glob.covers pattern address

/-- The heuristic with the markers that the settings add. -/
def classifier (s : Settings) : Classifier := Classifier.builtIn.allowing s.extraSafeCalls

def shelf (s : Settings) : Shelf := ⟨s.outputDir⟩

/-- Where the export of a network is. -/
def exportPath (s : Settings) (network : Network) : Path :=
  s.inputDir.join s!"{network.name}.csv"

end Settings

end LockTriage
