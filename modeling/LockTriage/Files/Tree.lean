import LockTriage.Assoc
import LockTriage.Files.Fault
import LockTriage.Files.Path
import LockTriage.Text.Bytes

/-!
A file tree as a value. Files and directories stand at locations, and a path is
walked from the root or from the working directory, one name at a time, as a
system without symbolic links does. Every operation says which fault it meets
or what the tree is afterwards.
-/

namespace LockTriage

/-- The names from the root down to a file or directory. -/
abbrev Location := List String

inductive Entry
  | file (content : Bytes)
  | dir
  deriving DecidableEq, Repr

/-- The files and directories of a machine. The root is always a directory. -/
structure FileTree where
  /-- Where the working directory is. -/
  home : Location
  entries : List (Location × Entry)
  deriving DecidableEq, Repr

namespace FileTree

def at? (t : FileTree) (loc : Location) : Option Entry :=
  if loc = [] then some .dir else Assoc.get? loc t.entries

def put (t : FileTree) (loc : Location) (e : Entry) : FileTree :=
  { t with entries := Assoc.set loc e t.entries }

/-- Remove what stands at the locations that `p` accepts. -/
def dropWhere (t : FileTree) (p : Location → Bool) : FileTree :=
  { t with entries := Assoc.eraseWhere p t.entries }

def withHome (home : Location) : FileTree :=
  ⟨home, (Path.beginnings home).reverse.map fun loc => (loc, .dir)⟩

/-- A name longer than this many bytes cannot exist. -/
def nameLimit : Nat := 255

/-- A path of this many bytes or more is refused. -/
def pathLimit : Nat := 4096

/-- Where a path leads: to a directory that it reaches by a dot or by the root
alone, or to a name in a directory, which has to be a directory itself when a
separator follows it. -/
inductive Place
  | directory (loc : Location)
  | entry (parent : Location) (name : String) (asDirectory : Bool)
  deriving DecidableEq, Repr

/-- Go one name down. -/
def enter (t : FileTree) (loc : Location) (name : String) : Except Fault Location :=
  if name = "." then .ok loc
  else if name = ".." then .ok loc.dropLast
  else if nameLimit < name.utf8ByteSize then .error .nameTooLong
  else
    match t.at? (loc ++ [name]) with
    | none => .error .notFound
    | some (.file _) => .error .notADirectory
    | some .dir => .ok (loc ++ [name])

def place (t : FileTree) (p : Path) : Except Fault Place :=
  if p.text.toList.contains '\x00' then .error .nulInName
  else if p.text.isEmpty then .error .notFound
  else if pathLimit ≤ p.text.utf8ByteSize then .error .nameTooLong
  else
    match p.names.getLast? with
    | none => .ok (.directory [])
    | some last => do
        let start := if p.isAbsolute then [] else t.home
        let parent ← p.names.dropLast.foldlM t.enter start
        if last = "." then .ok (.directory parent)
        else if last = ".." then .ok (.directory parent.dropLast)
        else if nameLimit < last.utf8ByteSize then .error .nameTooLong
        else .ok (.entry parent last (p.text.toList.getLast? == some '/'))

def stat (t : FileTree) (p : Path) : Except Fault Entry := do
  match ← t.place p with
  | .directory _ => .ok .dir
  | .entry parent name asDirectory =>
      match t.at? (parent ++ [name]) with
      | none => .error .notFound
      | some (.file content) =>
          if asDirectory then .error .notADirectory else .ok (.file content)
      | some .dir => .ok .dir

/-- Something stands where the path leads. A path that cannot be walked leads nowhere. -/
def pathExists (t : FileTree) (p : Path) : Bool := (t.stat p).isOk

def isFile (t : FileTree) (p : Path) : Bool :=
  match t.stat p with
  | .ok (.file _) => true
  | _ => false

def isDirectory (t : FileTree) (p : Path) : Bool :=
  match t.stat p with
  | .ok .dir => true
  | _ => false

def read (t : FileTree) (p : Path) : Except Fault Bytes := do
  match ← t.stat p with
  | .file content => .ok content
  | .dir => .error .isADirectory

def readText (t : FileTree) (p : Path) : Except Fault String := do
  let content ← t.read p
  match Bytes.text? content with
  | some text => .ok text
  | none => .error .notText

/-- Write a file, in place of what it held. -/
def write (t : FileTree) (p : Path) (content : Bytes) : Except Fault FileTree := do
  match ← t.place p with
  | .directory _ => .error .isADirectory
  | .entry parent name asDirectory =>
      match t.at? (parent ++ [name]) with
      | some .dir => .error .isADirectory
      | some (.file _) =>
          if asDirectory then .error .notADirectory
          else .ok (t.put (parent ++ [name]) (.file content))
      | none =>
          if asDirectory then .error .isADirectory
          else .ok (t.put (parent ++ [name]) (.file content))

def makeDirectory (t : FileTree) (p : Path) : Except Fault FileTree := do
  match ← t.place p with
  | .directory _ => .error .alreadyExists
  | .entry parent name _ =>
      match t.at? (parent ++ [name]) with
      | some _ => .error .alreadyExists
      | none => .ok (t.put (parent ++ [name]) .dir)

/-- Make the first of some directories, after those above it where they are
missing. A directory that is there already is as good as a new one. What was
made before a fault stays. -/
def makeFirst (t : FileTree) : List Path → Except Fault Unit × FileTree
  | [] => (.ok (), t)
  | p :: up =>
      match t.makeDirectory p with
      | .ok made => (.ok (), made)
      | .error .notFound =>
          match t.makeFirst up with
          | (.error fault, below) => (.error fault, below)
          | (.ok _, below) =>
              match below.makeDirectory p with
              | .ok made => (.ok (), made)
              | .error fault =>
                  (if below.isDirectory p then .ok () else .error fault, below)
      | .error fault => (if t.isDirectory p then .ok () else .error fault, t)

/-- Make a directory and those above it that are missing. -/
def makeDirectories (t : FileTree) (p : Path) : Except Fault Unit × FileTree :=
  t.makeFirst p.ancestors

def removeFile (t : FileTree) (p : Path) : Except Fault FileTree := do
  match ← t.place p with
  | .directory _ => .error .isADirectory
  | .entry parent name asDirectory =>
      match t.at? (parent ++ [name]) with
      | none => .error .notFound
      | some .dir => .error .isADirectory
      | some (.file _) =>
          if asDirectory then .error .notADirectory
          else .ok (t.dropWhere (· = parent ++ [name]))

/-- Remove a directory with everything below it. The directory is named, not
reached by a dot. -/
def removeDirectory (t : FileTree) (p : Path) : Except Fault FileTree := do
  match ← t.place p with
  | .directory _ => .error .isADirectory
  | .entry parent name _ =>
      match t.at? (parent ++ [name]) with
      | none => .error .notFound
      | some (.file _) => .error .notADirectory
      | some .dir => .ok (t.dropWhere ((parent ++ [name]).isPrefixOf ·))

/-- The name of an entry that stands directly in a directory. -/
def childName? (dir loc : Location) : Option String :=
  match loc.getLast? with
  | none => none
  | some name => if loc = dir ++ [name] then some name else none

/-- The names and entries directly in a directory. -/
def children (t : FileTree) (dir : Location) : List (String × Entry) :=
  t.entries.filterMap fun (loc, e) => (childName? dir loc).map fun name => (name, e)

/-- The names and entries directly in the directory that a path leads to; none
if it does not lead to one. -/
def list (t : FileTree) (p : Path) : List (String × Entry) :=
  match t.place p with
  | .error _ => []
  | .ok (.directory loc) => t.children loc
  | .ok (.entry parent name _) =>
      match t.at? (parent ++ [name]) with
      | some .dir => t.children (parent ++ [name])
      | _ => []

/-- Everything below the working directory, by the names that lead there. -/
def belowHome (t : FileTree) : List (Location × Entry) :=
  t.entries.filterMap fun (loc, e) =>
    match loc.drop t.home.length with
    | [] => none
    | names => if t.home.isPrefixOf loc then some (names, e) else none

end FileTree

end LockTriage
