import LockTriage.Files.Tree
import LockTriage.ScanError
import LockTriage.Text.Split

/-!
Explorer exports. An export is a text with one row `address,version` a line, in
the order in which a scan visits them. Either field may stand in double quotes,
with white space around it.
-/

namespace LockTriage

/-- A contract of an export, with the compiler version that its row declares. -/
structure Record where
  network : Network
  address : String
  declaredVersion : String
  deriving DecidableEq, Repr

namespace Export

/-- A field without the white space and double quotes around it. -/
def unquote (field : List Char) : List Char :=
  Text.trim (Text.trimWhere (· = '"') (Text.trim field))

/-- An address names a file in the network's directory, so it must be a plain
name: not empty, with no separator, and with no two dots in a row. -/
def isPlainAddress (address : List Char) : Bool :=
  !address.isEmpty && !address.contains '/' && !address.contains '\\' &&
    !Text.occursIn ['.', '.'] address

/-- The address and version of a row, trimmed at both ends, if it has a comma
and a plain address. -/
def fields? (row : List Char) : Option (String × String) :=
  match Text.cutFirst? ',' row with
  | none => none
  | some (address, version) =>
      if isPlainAddress (unquote address) then
        some (String.ofList (unquote address), String.ofList (unquote version))
      else none

/-- The records of some lines, the first of which has number `number`. Blank
lines are skipped, but they are counted. -/
def readLines (network : Network) (path : Path) (number : Nat) :
    List (List Char) → Except ScanError (List Record)
  | [] => .ok []
  | line :: rest =>
      let row := Text.trim line
      if row.isEmpty then readLines network path (number + 1) rest
      else
        match fields? row with
        | none => .error (.badRow path number (String.ofList row))
        | some (address, version) =>
            (readLines network path (number + 1) rest).map (⟨network, address, version⟩ :: ·)

/-- The records of an export, in file order. The path is used for errors only. -/
def parse (network : Network) (path : Path) (text : String) :
    Except ScanError (List Record) :=
  readLines network path 1 (Text.lines text.toList)

/-- Read a network's export from a file. -/
def load (files : FileTree) (network : Network) (path : Path) :
    Except ScanError (List Record) :=
  match files.readText path with
  | .error fault => .error (.file path fault)
  | .ok text => parse network path text

end Export

end LockTriage
