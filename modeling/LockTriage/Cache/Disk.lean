import LockTriage.Cache.Artifact
import LockTriage.Cache.Manifest
import LockTriage.Files.Tree
import LockTriage.Log.Note
import LockTriage.ScanError

/-!
A cache that outlives a run. Its directory holds the manifest and, below
`artifacts`, one file for each answer. The manifest is kept in memory and written
after every change, so a run that breaks off keeps what it has fetched.
-/

namespace LockTriage

/-- An open cache directory with the entries of its manifest. -/
structure DiskCache where
  directory : Path
  entries : Manifest.Entries
  deriving DecidableEq, Repr

namespace DiskCache

def artifacts (c : DiskCache) : Path := c.directory.join "artifacts"

def manifest (c : DiskCache) : Path := c.directory.join "manifest.json"

/-- The cache in a directory that is made if it is missing. A manifest that
cannot be understood, or is of another version, counts as empty. -/
def load (files : FileTree) (directory : Path) :
    Except ScanError DiskCache × FileTree × List Note :=
  let fresh : DiskCache := ⟨directory, []⟩
  match files.makeDirectories fresh.artifacts with
  | (.error fault, files) => (.error (.file fresh.artifacts fault), files, [])
  | (.ok _, files) =>
      if !files.pathExists fresh.manifest then (.ok fresh, files, [])
      else
        match files.readText fresh.manifest with
        | .error fault => (.error (.file fresh.manifest fault), files, [])
        | .ok text =>
            match Manifest.read text with
            | .current entries => (.ok ⟨directory, entries⟩, files, [])
            | .otherVersion => (.ok fresh, files, [.otherSchema])
            | .unreadable => (.ok fresh, files, [.unreadableManifest fresh.manifest])

def size (c : DiskCache) : Nat := c.entries.length

/-- The answer of a key. An answer whose file is missing, damaged, or written
for another key counts as not cached. -/
def get? (c : DiskCache) (files : FileTree) (key : CacheKey) : Option Json × List Note :=
  match Assoc.get? key.text c.entries with
  | none => (none, [])
  | some name =>
      match files.read (c.artifacts.join name) with
      | .error _ => (none, [.artifactMissing key])
      | .ok bytes =>
          match Artifact.decode? bytes with
          | none => (none, [.artifactCorrupt key])
          | some artifact =>
              if artifact.key ≠ key.text then (none, [.artifactForeign key artifact.key])
              else
                match Json.parse? artifact.body with
                | none => (none, [.answerCorrupt key])
                | some answer => (some answer, [])

/-- Write the manifest, with its entries in the order of the run. -/
def flush [o : Manifest.Order] (c : DiskCache) (files : FileTree) :
    Except ScanError Unit × FileTree :=
  match files.write c.manifest (Bytes.ofText (Manifest.write (o.order c.entries))) with
  | .error fault => (.error (.file c.manifest fault), files)
  | .ok files => (.ok (), files)

/-- Keep an answer: write its file, enter it in the manifest, and write that. -/
def put [o : Manifest.Order] (c : DiskCache) (files : FileTree) (key : CacheKey) (answer : Json) :
    Except ScanError Unit × DiskCache × FileTree :=
  let path := c.artifacts.join key.artifactName
  match files.write path (Artifact.encode ⟨key.text, answer.render⟩) with
  | .error fault => (.error (.file path fault), c, files)
  | .ok files =>
      let entered : DiskCache :=
        { c with entries := Assoc.set key.text key.artifactName c.entries }
      let (done, files) := entered.flush files
      (done, entered, files)

def clear [o : Manifest.Order] (c : DiskCache) (files : FileTree) :
    Except ScanError Unit × DiskCache × FileTree :=
  let removed :=
    if files.pathExists c.artifacts then files.removeDirectory c.artifacts else .ok files
  match removed with
  | .error fault => (.error (.file c.artifacts fault), c, files)
  | .ok files =>
      match files.makeDirectories c.artifacts with
      | (.error fault, files) => (.error (.file c.artifacts fault), c, files)
      | (.ok _, files) =>
          let emptied : DiskCache := { c with entries := [] }
          let (done, files) := emptied.flush files
          (done, emptied, files)

end DiskCache

end LockTriage
