import LockTriage.Web.Host

/-!
Addresses of web servers, read as browsers read them: white space around them is
dropped, backslashes count as slashes, dots in the path are resolved, and what
may not stand in a path or query is percent-encoded. The part after a number
sign is never sent.
-/

namespace LockTriage

structure WebAddress where
  /-- The connection is encrypted. -/
  secure : Bool
  host : String
  /-- The port, unless it is the usual one. -/
  port : Option Nat
  /-- The path, which starts with a slash. -/
  path : String
  query : Option String
  /-- The part after a number sign. -/
  fragment : Option String
  deriving DecidableEq, Repr

namespace WebAddress

/-- The text without control characters and spaces around it, and without tabs
and line ends inside it. -/
def tidied (s : String) : List Char :=
  (((s.toList.dropWhile fun c => c.toNat ≤ 0x20).reverse.dropWhile fun c => c.toNat ≤ 0x20).reverse).filter
    fun c => c ≠ '\t' && c ≠ '\n' && c ≠ '\r'

/-- A slash of either kind. -/
def isSlash (c : Char) : Bool := c = '/' || c = '\\'

def endsHost (c : Char) : Bool := isSlash c || c = '?' || c = '#'

/-- What follows the scheme, if it is one of the web, and whether it is the one
for encrypted connections. -/
def scheme? (cs : List Char) : Option (Bool × List Char) :=
  match Text.cutFirst? ':' cs with
  | none => none
  | some (name, rest) =>
      let name := String.ofList (name.map Char.toLower)
      if name = "http" then some (false, rest)
      else if name = "https" then some (true, rest)
      else none

/-- The host and what follows it. A colon inside brackets is part of the host. -/
def splitHost (inBrackets : Bool) : List Char → List Char × List Char
  | [] => ([], [])
  | c :: rest =>
      if c = ':' && !inBrackets then ([], c :: rest)
      else
        let (host, after) := splitHost (c = '[' || (inBrackets && c ≠ ']')) rest
        (c :: host, after)

/-- The port after a host. Without digits it is the usual one. -/
def port? (secure : Bool) : List Char → Option (Option Nat)
  | [] => some none
  | ':' :: digits =>
      match Text.number? 10 digits with
      | none => none
      | some n =>
          if 65535 < n then none
          else if digits.isEmpty || n = (if secure then 443 else 80) then some none
          else some (some n)
  | _ => none

def isDot (segment : List Char) : Bool :=
  [".", "%2e"].contains (String.ofList (segment.map Char.toLower))

def isTwoDots (segment : List Char) : Bool :=
  ["..", ".%2e", "%2e.", "%2e%2e"].contains (String.ofList (segment.map Char.toLower))

/-- The segments of a path with dots resolved; the ones passed stand last first.
A path that ends in dots ends in an empty segment. -/
def resolve (passed : List (List Char)) : List (List Char) → List (List Char)
  | [] => passed.reverse
  | [last] =>
      if isTwoDots last then ([] :: passed.drop 1).reverse
      else if isDot last then ([] :: passed).reverse
      else (last :: passed).reverse
  | segment :: rest =>
      if isTwoDots segment then resolve (passed.drop 1) rest
      else if isDot segment then resolve passed rest
      else resolve (segment :: passed) rest

/-- The path in its written form. -/
def writePath (cs : List Char) : String :=
  let slashes := cs.map fun c => if c = '\\' then '/' else c
  let segments :=
    match Text.pieces '/' slashes with
    | [] :: rest => if rest.isEmpty then [[]] else rest
    | all => all
  String.ofList ((resolve [] segments).flatMap fun s => '/' :: Percent.encode Percent.keptInPath s)

/-- The address that a text writes, if it is one of a web server. -/
def parse? (s : String) : Option WebAddress := do
  let (secure, rest) ← scheme? (tidied s)
  let rest := rest.dropWhile isSlash
  let place := rest.takeWhile (!endsHost ·)
  let after := rest.dropWhile (!endsHost ·)
  let server := Text.afterLast '@' place
  let (host, portText) := splitHost false server
  let host ← Host.parse? host
  let port ← port? secure portText
  let withoutFragment := after.takeWhile (· ≠ '#')
  let path := withoutFragment.takeWhile (· ≠ '?')
  let query :=
    match withoutFragment.dropWhile (· ≠ '?') with
    | [] => none
    | _ :: text => some (String.ofList (Percent.encode Percent.keptInQuery text))
  let fragment :=
    match after.dropWhile (· ≠ '#') with
    | [] => none
    | _ :: text => some (String.ofList (Percent.encode Percent.keptInFragment text))
  some ⟨secure, host, port, writePath path, query, fragment⟩

def adding (a : WebAddress) (fields : List (String × String)) : WebAddress :=
  let added := String.ofList (Percent.form fields)
  { a with query := some (match a.query with
      | none | some "" => added
      | some present => s!"{present}&{added}") }

/-- What a request to the server names: the path and the query. -/
def target (a : WebAddress) : String :=
  match a.query with
  | none => a.path
  | some q => s!"{a.path}?{q}"

/-- The address in its written form. -/
def text (a : WebAddress) : String :=
  let scheme := if a.secure then "https" else "http"
  let port := (a.port.map fun n => s!":{n}").getD ""
  let fragment := (a.fragment.map fun f => s!"#{f}").getD ""
  s!"{scheme}://{a.host}{port}{a.target}{fragment}"

/-- The length of the longest address that a request can be made for. -/
def longest : Nat := 65534

end WebAddress

end LockTriage
