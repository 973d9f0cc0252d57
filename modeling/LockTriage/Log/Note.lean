import LockTriage.Cache.Key
import LockTriage.Explorer.Query
import LockTriage.Files.Path
import LockTriage.Scan.Report

/-!
What a run notes down about its progress. A note has a level and names the part
of the program that it comes from, so that a filter can choose among notes.
-/

namespace LockTriage

inductive Level
  | error
  | warn
  | info
  | debug
  | trace
  deriving DecidableEq, Repr

namespace Level

def rank : Level → Nat
  | error => 1
  | warn => 2
  | info => 3
  | debug => 4
  | trace => 5

def name : Level → String
  | error => "ERROR"
  | warn => "WARN"
  | info => "INFO"
  | debug => "DEBUG"
  | trace => "TRACE"

end Level

inductive Note
  /-- The manifest is of another version, and the cache starts empty. -/
  | otherSchema
  /-- The manifest cannot be read, and the cache starts empty. -/
  | unreadableManifest (path : Path)
  | artifactMissing (key : CacheKey)
  | artifactCorrupt (key : CacheKey)
  /-- The artifact of a key was written for another one. -/
  | artifactForeign (key : CacheKey) (held : String)
  | answerCorrupt (key : CacheKey)
  | cacheHit (key : CacheKey)
  | asking (query : Query)
  | sourceSaved (path : Path)
  | sourceRemoved (path : Path)
  | networkScanned (summary : NetworkSummary)
  deriving DecidableEq, Repr

namespace Note

def level : Note → Level
  | otherSchema => .info
  | unreadableManifest _ => .warn
  | artifactMissing _ => .warn
  | artifactCorrupt _ => .warn
  | artifactForeign _ _ => .warn
  | answerCorrupt _ => .warn
  | cacheHit _ => .trace
  | asking _ => .debug
  | sourceSaved _ => .debug
  | sourceRemoved _ => .debug
  | networkScanned _ => .info

/-- The part of the program that a note comes from. -/
def target : Note → String
  | otherSchema => "vyper_guard::cache"
  | unreadableManifest _ => "vyper_guard::cache"
  | artifactMissing _ => "vyper_guard::cache"
  | artifactCorrupt _ => "vyper_guard::cache"
  | artifactForeign _ _ => "vyper_guard::cache"
  | answerCorrupt _ => "vyper_guard::cache"
  | cacheHit _ => "vyper_guard::fetch"
  | asking _ => "vyper_guard::fetch"
  | sourceSaved _ => "vyper_guard::store"
  | sourceRemoved _ => "vyper_guard::store"
  | networkScanned _ => "vyper_guard::scan"

def message : Note → String
  | otherSchema => "cache schema changed, starting empty"
  | unreadableManifest path => s!"unreadable cache manifest {path.text}"
  | artifactMissing key => s!"cache artifact missing for {key.text}"
  | artifactCorrupt key => s!"corrupt cache artifact for {key.text}"
  | artifactForeign key held => s!"cache artifact for {key.text} holds {held}"
  | answerCorrupt key => s!"corrupt cached response for {key.text}"
  | cacheHit _ => "cache hit"
  | asking _ => "requesting verified source"
  | sourceSaved _ => "saved flagged contract"
  | sourceRemoved _ => "removed contract no longer flagged"
  | networkScanned _ => "network scanned"

/-- The values that go with a note, under their names. The key of a request is not
among them. -/
def values : Note → List (String × String)
  | cacheHit key => [("key", key.text)]
  | asking q =>
      [("network", q.network.name), ("address", q.address), ("api_url", q.endpoint)]
  | sourceSaved path => [("path", path.text)]
  | sourceRemoved path => [("path", path.text)]
  | networkScanned s =>
      [("network", s.network.name), ("records", toString s.tally.records),
       ("flagged", toString s.tally.flagged), ("cleared", toString s.tally.cleared)]
  | _ => []

/-- A character as it is written in a message. What could command a terminal is
written as its code in hexadecimal. -/
def shown (c : Char) : List Char :=
  if [0x07, 0x08, 0x0C, 0x1B, 0x7F].contains c.toNat then "\\x".toList ++ codeOf c
  else if 0x80 ≤ c.toNat && c.toNat ≤ 0x9F then "\\u\x7b".toList ++ codeOf c ++ ['\x7d']
  else [c]
where
  codeOf (c : Char) : List Char := [Bytes.hexDigit (c.toNat / 16), Bytes.hexDigit (c.toNat % 16)]

/-- The text of a note. Only its message is rid of commands to a terminal. -/
def text (n : Note) : String :=
  String.ofList (n.message.toList.flatMap shown) ++
    String.join (n.values.map fun (name, value) => s!" {name}={value}")

end Note

end LockTriage
