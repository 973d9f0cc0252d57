import LockTriage.Explorer.Malformed
import LockTriage.Files.Fault
import LockTriage.Files.Path
import LockTriage.Network

/-!
The errors that end a scan, and how each is worded.
-/

namespace LockTriage

/-- Why a scan cannot go on. -/
inductive ScanError
  | missingKeys (network : Network)
  | unknownNetwork (name : String)
  | badRow (path : Path) (line : Nat) (row : String)
  | request (network : Network) (fault : RequestFault)
  | status (network : Network) (address : String) (code : Nat)
  | malformed (network : Network) (address : String) (what : Malformation)
  | missingInput (path : Path)
  | file (path : Path) (fault : Fault)
  deriving DecidableEq, Repr

namespace ScanError

/-- The words for a missing export. -/
def missingInputText : String := "input file not found"

def message : ScanError → String
  | missingKeys network =>
      s!"missing API keys for {network.name}: set {network.keyVariable} to a comma-separated list"
  | unknownNetwork name => s!"unknown network `{name}`"
  | badRow path line row =>
      s!"{path.text}:{line}: expected `address,version` with a plain address, got `{row}`"
  | request network fault => s!"request to {network.name} explorer failed: {fault.message}"
  | status network address code =>
      s!"{network.name} explorer returned HTTP {code} for {address}"
  | malformed network address what =>
      s!"malformed {network.name} explorer response for {address}: {what.reason}"
  | missingInput path => s!"{path.text}: {missingInputText}"
  | file path fault => s!"{path.text}: {fault.message}"

/-- The underlying cause, where the error reports one. -/
def cause? : ScanError → Option String
  | request _ fault => some fault.message
  | missingInput _ => some missingInputText
  | file _ fault => some fault.message
  | _ => none

end ScanError

end LockTriage
