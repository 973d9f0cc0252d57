import LockTriage.Command.Complaint
import LockTriage.Command.Console
import LockTriage.Command.Request
import LockTriage.Json.Printer
import LockTriage.Log.Filter
import LockTriage.Scan.Document
import LockTriage.Scan.Run
import LockTriage.Settings.Load
import LockTriage.Web.Exchange

/-!
A run of the program as a function: from the arguments, the environment, the
files and the web to the exit code, what is printed, and the files and the web
afterwards.
-/

namespace LockTriage

/-- Something printed, on standard output or on standard error. -/
inductive Printed
  | out (text : String)
  | err (text : String)
  deriving DecidableEq, Repr

namespace Printed

def standardOutput (printed : List Printed) : String :=
  String.join (printed.map fun
    | out text => text
    | err _ => "")

def standardError (printed : List Printed) : String :=
  String.join (printed.map fun
    | out _ => ""
    | err text => text)

def outLines (lines : List String) : List Printed := lines.map fun l => out (l ++ "\n")

def errLines (lines : List String) : List Printed := lines.map fun l => err (l ++ "\n")

end Printed

structure Surroundings where
  arguments : List String
  environment : String → Option String
  /-- Standard output is a terminal. -/
  terminal : Bool

structure Finish (ω : Type) where
  exit : Nat
  printed : List Printed
  files : FileTree
  web : ω

namespace Program

def settingsFor [p : Settings.Order] (files : FileTree) (path : Option Path) :
    Except Complaint Settings :=
  (Settings.load files (path.getD ⟨Settings.fileName⟩)).mapError Complaint.ofSettings

/-- The network of a name on the command line. -/
def networkNamed (name : String) : Except Complaint Network :=
  match Network.ofName? name with
  | some network => .ok network
  | none => .error ((Complaint.ofError (.unknownNetwork name)).within s!"--network {name}")

/-- The networks that are named on the command line, sorted and without
repetitions, or those that the settings enable. -/
def selectNetworks (names : Option (List String)) (settings : Settings) :
    Except Complaint (List Network) :=
  match names with
  | none => .ok settings.enabledNetworks
  | some names =>
      (names.mapM networkNamed).map fun chosen => (Network.sorted chosen).eraseReps

/-- Styles are shown, unless the command is asked to do without. -/
def styled (s : Surroundings) (noColor : Bool) : Bool :=
  !noColor && showsStyles s.environment s.terminal

/-- The filter of notes: the one in the environment, if it can be read. -/
def noteFilter (s : Surroundings) (verbose : Bool) : Filter :=
  ((s.environment "RUST_LOG").bind Filter.parse?).getD
    (Filter.upTo (if verbose then .debug else .info))

def printNotes (filter : Filter) (notes : List Note) : List Printed :=
  Printed.errLines ((notes.filter filter.shows).map Note.line)

/-- A run that ends in a complaint, after it has printed something. -/
def failed {ω : Type} (files : FileTree) (web : ω) (printed : List Printed) (c : Complaint) :
    Finish ω :=
  ⟨1, printed ++ [.err c.text], files, web⟩

/-- Show the table of networks. -/
def networks : List Printed := Printed.outLines Console.networkTable

/-- Write a settings file, unless there is one. -/
def init (files : FileTree) : Except Complaint (List Printed × FileTree) :=
  let path : Path := ⟨Settings.fileName⟩
  if files.pathExists path then
    .ok ([.err s!"Config file already exists: {path.text}\n"], files)
  else
    match files.write path (Bytes.ofText Settings.template) with
    | .error fault => .error (Complaint.ofFault fault)
    | .ok files => .ok ([.out s!"Created {path.text}\n"], files)

/-- Judge a file. The flag says whether it is possibly vulnerable. -/
def classify [p : Settings.Order] (s : Surroundings) (files : FileTree) (file : Path)
    (format : Format) (settingsPath : Option Path) (noColor : Bool) :
    Except Complaint (Bool × List Printed) := do
  let settings ← settingsFor files settingsPath
  let source ← (files.readText file).mapError fun fault =>
    (Complaint.ofFault fault).within s!"Failed to read file: {file.text}"
  let assessment := settings.classifier.assess source
  let printed :=
    match format with
    | .json => [Printed.out (assessment.document.pretty ++ "\n")]
    | .text => Printed.outLines (Console.assessment (styled s noColor) file assessment)
  .ok (assessment.vulnerable, printed)

def list [p : Settings.Order] (files : FileTree) (names : Option (List String))
    (outputDir settingsPath : Option Path) : Except Complaint (List Printed) := do
  let settings ← settingsFor files settingsPath
  let chosen ← selectNetworks names settings
  let shelf : Shelf := ⟨outputDir.getD settings.outputDir⟩
  let found := chosen.map fun n => (n, shelf.saved files n)
  let total := found.foldl (fun total f => total + f.2.length) 0
  .ok (Printed.outLines
    (found.flatMap (fun (n, paths) => Console.savedSources n paths) ++
      ["", s!"Total: {total} flagged contracts in {shelf.root.text}"]))

def cacheComplaint (directory : Path) (e : ScanError) : Complaint :=
  (Complaint.ofError e).within s!"Failed to open cache: {directory.text}"

def clearCache [p : Settings.Order] [o : Manifest.Order] (filter : Filter) (files : FileTree)
    (cacheDir settingsPath : Option Path) : Except Complaint Unit × List Printed × FileTree :=
  match settingsFor files settingsPath with
  | .error c => (.error c, [], files)
  | .ok settings =>
      let directory := cacheDir.getD settings.cacheDir
      match DiskCache.load files directory with
      | (.error e, files, notes) =>
          (.error (cacheComplaint directory e), printNotes filter notes, files)
      | (.ok cache, files, notes) =>
          match cache.clear files with
          | (.error e, _, files) =>
              (.error (Complaint.ofError e), printNotes filter notes, files)
          | (.ok _, _, files) =>
              (.ok (), printNotes filter notes ++
                [.out s!"Cleared {cache.size} cached responses from {directory.text}\n"], files)

/-- Where the lines of a scan go: nowhere if it is quiet, and to standard error
if standard output carries a document. -/
def progress (options : ScanRequest) (lines : List String) : List Printed :=
  if options.quiet then []
  else
    match options.format with
    | .json => Printed.errLines lines
    | .text => Printed.outLines lines

def printEvent (filter : Filter) (styled : Bool) (options : ScanRequest) :
    Event → List Printed
  | .noted note => printNotes filter [note]
  | .asked _ => []
  | .judged record outcome => progress options (Console.outcome? styled record outcome).toList

def printReport (styled : Bool) (options : ScanRequest) (report : Report) : List Printed :=
  match options.format with
  | .json => [.out (report.document.pretty ++ "\n")]
  | .text => progress options (Console.summary styled report)

/-- The settings of a scan: those of the file, with the directories that the
command line names. -/
def scanSettings [p : Settings.Order] (files : FileTree) (options : ScanRequest) :
    Except Complaint Settings :=
  (settingsFor files options.settings).map fun settings =>
    { settings with
      inputDir := options.inputDir.getD settings.inputDir
      outputDir := options.outputDir.getD settings.outputDir
      cacheDir := options.cacheDir.getD settings.cacheDir }

/-- Everything that has to be right before a scan starts. -/
def prepare [p : Settings.Order] (s : Surroundings) (files : FileTree) (options : ScanRequest) :
    Except Complaint (Settings × List Network × KeyRing) := do
  let settings ← scanSettings files options
  let chosen ← selectNetworks options.networks settings
  let keys ← (KeyRing.ofVariables s.environment chosen).mapError Complaint.ofError
  (Scan.checkInputs settings files chosen).mapError Complaint.ofError
  .ok (settings, chosen, keys)

def openCache (options : ScanRequest) (settings : Settings) (files : FileTree) :
    Except Complaint Cache × FileTree × List Note :=
  if options.noCache then (.ok Cache.empty, files, [])
  else
    let (opened, files, notes) := DiskCache.load files settings.cacheDir
    ((opened.map Cache.disk).mapError (cacheComplaint settings.cacheDir), files, notes)

def scan [p : Settings.Order] [o : Manifest.Order] {ω : Type} (web : Web ω) (s : Surroundings)
    (filter : Filter) (files : FileTree) (state : ω) (options : ScanRequest) : Finish ω :=
  match prepare s files options with
  | .error c => failed files state [] c
  | .ok (settings, chosen, keys) =>
      let styled := styled s options.noColor
      let banner := progress options (Console.banner styled chosen settings)
      match openCache options settings files with
      | (.error c, files, notes) =>
          failed files state (banner ++ printNotes filter notes) c
      | (.ok cache, files, notes) =>
          let (done, desk) := Scan.run settings (web.explorer settings.apiUrl)
            ⟨files, cache, keys, state, []⟩ chosen
          let before := banner ++ printNotes filter notes ++
            desk.trace.flatMap (printEvent filter styled options)
          match done with
          | .error e => failed desk.files desk.explorer before (Complaint.ofError e)
          | .ok report =>
              ⟨0, before ++ printReport styled options report, desk.files, desk.explorer⟩

def perform [p : Settings.Order] [o : Manifest.Order] {ω : Type} (web : Web ω) (s : Surroundings)
    (filter : Filter) (files : FileTree) (state : ω) : Request → Finish ω
  | .scan options => scan web s filter files state options
  | .classify file format settingsPath noColor =>
      match classify s files file format settingsPath noColor with
      | .error c => failed files state [] c
      | .ok (vulnerable, printed) => ⟨if vulnerable then 1 else 0, printed, files, state⟩
  | .list names outputDir settingsPath =>
      match list files names outputDir settingsPath with
      | .error c => failed files state [] c
      | .ok printed => ⟨0, printed, files, state⟩
  | .networks => ⟨0, networks, files, state⟩
  | .init =>
      match init files with
      | .error c => failed files state [] c
      | .ok (printed, files) => ⟨0, printed, files, state⟩
  | .clearCache cacheDir settingsPath =>
      match clearCache filter files cacheDir settingsPath with
      | (.error c, printed, files) => failed files state printed c
      | (.ok _, printed, files) => ⟨0, printed, files, state⟩

def version : String := "vyper-guard 0.1.0"

def usage : List String :=
  ["Find verified Vyper contracts exposed to the nonreentrant lock bug",
   "",
   "Usage: vyper-guard [OPTIONS] <COMMAND>",
   "",
   "Commands:",
   "  scan         Fetch, classify and save contracts listed in the explorer exports",
   "  classify     Classify a local source file without touching the network",
   "  list         List contracts currently flagged in the output directory",
   "  networks     List supported networks with their explorer endpoints",
   "  init         Generate a default .vyper-guard.toml config file",
   "  cache clear  Drop every cached response",
   "",
   "Options:",
   "  -v, --verbose  Debug logging (overridden by RUST_LOG)",
   "  -h, --help     Print help",
   "  -V, --version  Print version"]

/-- A run of the program, which meets the entries of tables in orders of its own. -/
def run [p : Settings.Order] [o : Manifest.Order] {ω : Type} (web : Web ω) (s : Surroundings)
    (files : FileTree) (state : ω) : Finish ω :=
  match Request.parse s.arguments with
  | .ok (request, verbose) => perform web s (noteFilter s verbose) files state request
  | .error .help => ⟨0, Printed.outLines usage, files, state⟩
  | .error .version => ⟨0, Printed.outLines [version], files, state⟩
  | .error .misuse => ⟨2, Printed.errLines usage, files, state⟩

end Program

end LockTriage
