import LockTriage.Files.Tree
import LockTriage.Log.Note
import LockTriage.ScanError

/-!
The shelf of flagged contracts: `<root>/<network>/<address>.vy`. A file is on it
exactly when the latest verdict on its contract was "vulnerable".
-/

namespace LockTriage

/-- The directory below which flagged sources are kept. -/
structure Shelf where
  root : Path
  deriving DecidableEq, Repr

namespace Shelf

/-- The extension of saved sources. -/
def extension : String := "vy"

/-- The directory of a network. -/
def directory (s : Shelf) (network : Network) : Path := s.root.join network.name

def place (s : Shelf) (network : Network) (address : String) : Path :=
  (s.directory network).join s!"{address}.{extension}"

inductive Change
  | written
  | removed
  | unchanged
  deriving DecidableEq, Repr

/-- Make the directory of a network. -/
def prepare (s : Shelf) (files : FileTree) (network : Network) :
    Except ScanError Unit × FileTree :=
  match files.makeDirectories (s.directory network) with
  | (.error fault, files) => (.error (.file (s.directory network) fault), files)
  | (.ok _, files) => (.ok (), files)

/-- Save a source as it is. -/
def save (s : Shelf) (files : FileTree) (network : Network) (address source : String) :
    Except ScanError Unit × FileTree :=
  match s.prepare files network with
  | (.error e, files) => (.error e, files)
  | (.ok _, files) =>
      let path := s.place network address
      match files.write path (Bytes.ofText source) with
      | .error fault => (.error (.file path fault), files)
      | .ok files => (.ok (), files)

/-- Let the shelf follow the latest verdict: save a vulnerable source, and remove
the file of one that is not vulnerable. -/
def update (s : Shelf) (files : FileTree) (network : Network) (address source : String)
    (vulnerable : Bool) : Except ScanError Change × FileTree × List Note :=
  let path := s.place network address
  if vulnerable then
    match s.save files network address source with
    | (.error e, files) => (.error e, files, [])
    | (.ok _, files) => (.ok .written, files, [.sourceSaved path])
  else if files.pathExists path then
    match files.removeFile path with
    | .error fault => (.error (.file path fault), files, [])
    | .ok files => (.ok .removed, files, [.sourceRemoved path])
  else (.ok .unchanged, files, [])

/-- A file name with something before its extension. -/
def isSource (name : String) : Bool :=
  match name.toList.reverse with
  | 'y' :: 'v' :: '.' :: _ :: _ => true
  | _ => false

/-- The saved sources of a network, in byte order of their names. -/
def saved (s : Shelf) (files : FileTree) (network : Network) : List Path :=
  let names := (files.list (s.directory network)).filterMap fun (name, e) =>
    match e with
    | .file _ => if isSource name then some name else none
    | .dir => none
  (names.mergeSort fun a b => !decide (b < a)).map (s.directory network).join

end Shelf

end LockTriage
