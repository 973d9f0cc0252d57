import LockTriage.Files.Tree

/-!
What has to be done to turn one file tree into another.
-/

namespace LockTriage

inductive FileChange
  /-- Remove a file, or a directory with everything below it. -/
  | remove (loc : Location) (entry : Entry)
  | makeDirectory (loc : Location)
  | write (loc : Location) (content : Bytes)
  deriving DecidableEq, Repr

namespace FileTree

/-- The removals, what is deepest first. -/
def removals (before after : FileTree) : List FileChange :=
  before.entries.reverse.filterMap fun (loc, e) =>
    match after.at? loc with
    | none => some (.remove loc e)
    | some _ => none

/-- The additions and rewritten files, directories before what stands in them. -/
def additions (before after : FileTree) : List FileChange :=
  after.entries.filterMap fun (loc, e) =>
    if before.at? loc = some e then none
    else
      match e with
      | .dir => some (.makeDirectory loc)
      | .file content => some (.write loc content)

def changes (before after : FileTree) : List FileChange :=
  removals before after ++ additions before after

end FileTree

end LockTriage
