import LockTriage.Command.Reach
import LockTriage.Command.Run
import LockTriage.Files.Change

/-!
The program on a real machine. The files that a request can touch are read into a
file tree, the run is computed, and then its output is printed and its changes to
the tree are made. No explorer can be reached from here: every request ends as
one that could not be sent.
-/

namespace LockTriage

namespace Machine

def pathOf (loc : Location) : String := "/" ++ "/".intercalate loc

/-- Read what stands at a location into a tree, up to a depth. -/
def survey : Nat → FileTree → Location → IO FileTree
  | depth, tree, loc => do
      let path := (← IO.currentDir) / pathOf loc
      if ← path.isDir then
        let tree := tree.put loc .dir
        match depth with
        | 0 => return tree
        | depth + 1 =>
            (← path.readDir).toList.foldlM
              (fun tree entry => survey depth tree (loc ++ [entry.fileName])) tree
      else if ← path.pathExists then
        return tree.put loc (.file (← IO.FS.readBinFile path).data.toList)
      else return tree

/-- Read what a path leads to into a tree, with the directories above it. -/
def surveyPath (depth : Nat) (tree : FileTree) (p : Path) : IO FileTree := do
  let loc := p.location tree.home
  let tree ← (Path.beginnings loc).reverse.foldlM (survey 0) tree
  survey depth tree loc

def surveyRequest (tree : FileTree) (request : Request) : IO FileTree := do
  let tree ← request.namedFiles.foldlM (surveyPath 0) tree
  match request.settingsFile?.map (Settings.load tree) with
  | some (.ok settings) =>
      let tree ← (request.directories settings).foldlM (surveyPath Request.depth) tree
      match request.cacheDirectory? settings with
      | some directory => (Request.manifestFiles tree directory).foldlM (surveyPath 0) tree
      | none => return tree
  | _ => return tree

def variableNames : List String :=
  Network.all.map Network.keyVariable ++ ["RUST_LOG", "CLICOLOR", "CLICOLOR_FORCE", "NO_COLOR"]

/-- The part of the environment that a run may look at. -/
def environment : IO (List (String × String)) :=
  variableNames.filterMapM fun name => do
    return (← IO.getEnv name).map fun value => (name, value)

/-- A tree that holds nothing but the working directory. -/
def emptyTree : IO FileTree := do
  return FileTree.withHome (Path.mk (← IO.currentDir).toString).names

def apply : FileChange → IO Unit
  | .remove loc .dir => IO.FS.removeDirAll (pathOf loc)
  | .remove loc (.file _) => IO.FS.removeFile (pathOf loc)
  | .makeDirectory loc => IO.FS.createDirAll (pathOf loc)
  | .write loc content => IO.FS.writeBinFile (pathOf loc) ⟨content.toArray⟩

def print : Printed → IO Unit
  | .out text => IO.print text
  | .err text => IO.eprint text

end Machine

end LockTriage

open LockTriage in
def main (arguments : List String) : IO UInt32 := do
  let start ← Machine.emptyTree
  let before ←
    match Request.parse arguments with
    | .ok (request, _) => Machine.surveyRequest start request
    | .error _ => pure start
  let found ← Machine.environment
  let terminal ← (← IO.getStdout).isTty
  let finish := Program.run Web.unreachable ⟨arguments, fun name => found.lookup name, terminal⟩
    before ()
  (before.changes finish.files).forM Machine.apply
  finish.printed.forM Machine.print
  return finish.exit.toUInt32
