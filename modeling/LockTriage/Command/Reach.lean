import LockTriage.Cache.Manifest
import LockTriage.Command.Request
import LockTriage.Settings.Load

/-!
Which files a request can touch. They are known in three steps: the files that
the command line names, the directories that the settings name, and the files
that the manifest of a cache names.
-/

namespace LockTriage

namespace Path

/-- The names from the root down to where a path leads, if every directory on the
way is there. -/
def location (home : Location) (p : Path) : Location :=
  p.names.foldl (fun loc name =>
    if name = "." then loc else if name = ".." then loc.dropLast else loc ++ [name])
    (if p.isAbsolute then [] else home)

end Path

namespace Request

def settingsFile? : Request → Option Path
  | .scan options => some (options.settings.getD ⟨Settings.fileName⟩)
  | .classify _ _ settings _ => some (settings.getD ⟨Settings.fileName⟩)
  | .list _ _ settings => some (settings.getD ⟨Settings.fileName⟩)
  | .networks => none
  | .init => some ⟨Settings.fileName⟩
  | .clearCache _ settings => some (settings.getD ⟨Settings.fileName⟩)

def namedFiles (r : Request) : List Path :=
  r.settingsFile?.toList ++
    match r with
    | .classify file _ _ _ => [file]
    | _ => []

/-- The cache directory of a request that uses one. -/
def cacheDirectory? (settings : Settings) : Request → Option Path
  | .scan options => some (options.cacheDir.getD settings.cacheDir)
  | .clearCache cacheDir _ => some (cacheDir.getD settings.cacheDir)
  | _ => none

def directories (settings : Settings) (r : Request) : List Path :=
  (r.cacheDirectory? settings).toList ++
    match r with
    | .scan options =>
        [options.inputDir.getD settings.inputDir, options.outputDir.getD settings.outputDir]
    | .list _ outputDir _ => [outputDir.getD settings.outputDir]
    | _ => []

/-- How deep below its directories a request looks for files. -/
def depth : Nat := 3

/-- The files that the manifest of a cache directory names. -/
def manifestFiles (files : FileTree) (directory : Path) : List Path :=
  match (files.readText (directory.join "manifest.json")).toOption.map Manifest.read with
  | some (.current entries) =>
      entries.map fun (_, name) => (directory.join "artifacts").join name
  | _ => []

end Request

end LockTriage
