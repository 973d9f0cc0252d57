import LockTriage.Assoc
import LockTriage.Enumeration
import LockTriage.Json.Printer
import LockTriage.Json.Raw

/-!
The manifest of a cache directory: its schema version, and for the text of every
cached key the name of the file that holds its answer.
-/

namespace LockTriage.Manifest

/-- The version of the layout that is written and read. -/
def schemaVersion : Nat := 1

/-- The files of a cache by the texts of their keys. -/
abbrev Entries := List (String × String)

/-- The order in which a run writes the entries of a manifest. -/
abbrev Order := Enumeration (String × String)

inductive Reading
  | current (entries : Entries)
  | otherVersion
  | unreadable
  deriving DecidableEq, Repr

/-- A version number: a whole number of 32 bits. -/
def version? : Json.Raw → Option Nat
  | .number (some (.whole n)) => if 0 ≤ n ∧ n < 4294967296 then some n.toNat else none
  | _ => none

def text? : Json.Raw → Option String
  | .text units => Json.Raw.string? units
  | _ => none

/-- Members that are all texts. Of members with one name the last counts. -/
def textMembers? (before : Entries) :
    List (List Json.StringUnit × Json.Raw) → Option Entries
  | [] => some before
  | (units, item) :: rest =>
      match Json.Raw.string? units, text? item with
      | some name, some text => textMembers? (Assoc.set name text before) rest
      | _, _ => none

def entries? : Json.Raw → Option Entries
  | .object members => textMembers? [] members
  | _ => none

/-- The members of a manifest by their names. The two known ones may not be
repeated, and others are ignored. -/
def members? (version : Option Nat) (entries : Option Entries) :
    List (List Json.StringUnit × Json.Raw) → Option (Nat × Entries)
  | [] => do some (← version, ← entries)
  | (units, item) :: rest =>
      match Json.Raw.string? units with
      | none => none
      | some "schema_version" =>
          if version.isSome then none
          else (version? item).bind fun v => members? (some v) entries rest
      | some "entries" =>
          if entries.isSome then none
          else (entries? item).bind fun es => members? version (some es) rest
      | some _ => members? version entries rest

/-- The version and entries of a manifest: an object with both, or a list of the
one and the other. -/
def content? : Json.Raw → Option (Nat × Entries)
  | .object members => members? none none members
  | .list [v, es] => do some (← version? v, ← entries? es)
  | _ => none

def read (text : String) : Reading :=
  match (Json.Raw.ofText? text.toList).bind content? with
  | none => .unreadable
  | some (version, entries) =>
      if version = schemaVersion then .current entries else .otherVersion

def write (entries : Entries) : String :=
  Json.pretty (.object
    [("schema_version", .nat schemaVersion),
     ("entries", .object (entries.map fun (key, file) => (key, .text file)))])

end LockTriage.Manifest
