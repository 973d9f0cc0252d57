import LockTriage.Command.Arguments
import LockTriage.Files.Path

/-!
What a command line asks for.
-/

namespace LockTriage

open Arguments (Given Kind Grammar Rule Stop)

inductive Format
  | text
  | json
  deriving DecidableEq, Repr

structure ScanRequest where
  /-- The networks to scan, as they are named; the enabled ones if none are. -/
  networks : Option (List String)
  settings : Option Path
  inputDir : Option Path
  outputDir : Option Path
  cacheDir : Option Path
  noCache : Bool
  format : Format
  quiet : Bool
  noColor : Bool
  deriving DecidableEq, Repr

inductive Request
  | scan (options : ScanRequest)
  | classify (file : Path) (format : Format) (settings : Option Path) (noColor : Bool)
  | list (networks : Option (List String)) (outputDir settings : Option Path)
  | networks
  | init
  | clearCache (cacheDir settings : Option Path)
  deriving DecidableEq, Repr

namespace Request

def general : List Rule :=
  [⟨"verbose", some 'v', .flag⟩, ⟨"help", some 'h', .help⟩]

/-- The option that names networks. -/
def networkRule : Rule := ⟨"network", some 'n', .list⟩

def settingsRule : Rule := ⟨"config", some 'c', .path⟩

/-- The option that names the directory of saved sources. -/
def outputRule : Rule := ⟨"output-dir", some 'o', .path⟩

/-- The option that names the directory of cached answers. -/
def cacheRule : Rule := ⟨"cache-dir", none, .path⟩

def formatRule : Rule := ⟨"format", some 'f', .word ["text", "json"]⟩

/-- The option against colours. -/
def colorRule : Rule := ⟨"no-color", none, .flag⟩

def commands : List String :=
  ["scan", "classify", "list", "networks", "init", "cache", "help"]

def topGrammar : Grammar :=
  ⟨general ++ [⟨"version", some 'V', .version⟩], 0, commands⟩

def scanGrammar : Grammar :=
  ⟨general ++
    [networkRule, settingsRule, ⟨"input-dir", none, .path⟩, outputRule, cacheRule,
     ⟨"no-cache", none, .flag⟩, formatRule, ⟨"quiet", some 'q', .flag⟩, colorRule], 0, []⟩

def classifyGrammar : Grammar :=
  ⟨general ++ [formatRule, settingsRule, colorRule], 1, []⟩

def listGrammar : Grammar :=
  ⟨general ++ [networkRule, outputRule, settingsRule], 0, []⟩

/-- What follows a command without options of its own. -/
def plainGrammar : Grammar := ⟨general, 0, []⟩

def cacheGrammar : Grammar := ⟨general, 0, ["clear", "help"]⟩

def clearGrammar : Grammar := ⟨general ++ [cacheRule, settingsRule], 0, []⟩

def path? (g : Given) (long : String) : Option Path := (g.value? long).map Path.mk

def formatOf (g : Given) : Format :=
  if g.value? "format" = some "json" then .json else .text

/-- The commands under which a help text is asked for have to exist. -/
def helpFor (known : List String) : List String → Stop
  | [] => .help
  | name :: rest =>
      if !known.contains name then .misuse
      else helpFor (if name = "cache" then cacheGrammar.subcommands else []) rest

/-- Read the arguments of a level without subcommands. -/
def last (grammar : Grammar) (arguments : List String) : Except Stop Given :=
  (Arguments.read grammar Given.nothing none false arguments).map Prod.fst

def ofCache (arguments : List String) : Except Stop (Request × Bool) := do
  let (above, command) ← Arguments.read cacheGrammar Given.nothing none false arguments
  match command with
  | some ("clear", rest) =>
      let g ← last clearGrammar rest
      .ok (.clearCache (path? g "cache-dir") (path? g "config"),
        above.has "verbose" || g.has "verbose")
  | some (_, rest) => .error (helpFor cacheGrammar.subcommands rest)
  | none => .error .misuse

def ofCommand (name : String) (arguments : List String) : Except Stop (Request × Bool) :=
  match name with
  | "scan" => do
      let g ← last scanGrammar arguments
      .ok (.scan
        { networks := g.values? "network"
          settings := path? g "config"
          inputDir := path? g "input-dir"
          outputDir := path? g "output-dir"
          cacheDir := path? g "cache-dir"
          noCache := g.has "no-cache"
          format := formatOf g
          quiet := g.has "quiet"
          noColor := g.has "no-color" }, g.has "verbose")
  | "classify" => do
      let g ← last classifyGrammar arguments
      match g.operands with
      | file :: _ =>
          .ok (.classify ⟨file⟩ (formatOf g) (path? g "config") (g.has "no-color"),
            g.has "verbose")
      | [] => .error .misuse
  | "list" => do
      let g ← last listGrammar arguments
      .ok (.list (g.values? "network") (path? g "output-dir") (path? g "config"),
        g.has "verbose")
  | "networks" => (last plainGrammar arguments).map fun g => (.networks, g.has "verbose")
  | "init" => (last plainGrammar arguments).map fun g => (.init, g.has "verbose")
  | "cache" => ofCache arguments
  | _ => .error (helpFor commands arguments)

/-- What a command line asks for, and whether it is to be noted in detail. -/
def parse (arguments : List String) : Except Stop (Request × Bool) := do
  let (above, command) ← Arguments.read topGrammar Given.nothing none false arguments
  match command with
  | some (name, rest) =>
      let (request, verbose) ← ofCommand name rest
      .ok (request, above.has "verbose" || verbose)
  | none => .error .misuse

end Request

end LockTriage
