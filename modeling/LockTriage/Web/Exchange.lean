import LockTriage.Explorer.Query
import LockTriage.Json.Raw
import LockTriage.Web.Address

/-!
Explorers on the web. A query becomes one request, and an answer counts if its
status is one of success and its body is a JSON document. What is behind the web
is a state machine, as explorers are.
-/

namespace LockTriage

structure WebRequest where
  address : WebAddress
  userAgent : String
  deriving DecidableEq, Repr

/-- The first line of a request, without the version of the protocol. -/
def WebRequest.line (r : WebRequest) : String := s!"GET {r.address.target}"

inductive WebReply
  | unreachable
  | answered (status : Nat) (body : Bytes)
  deriving DecidableEq, Repr

structure Web (ω : Type) where
  send : WebRequest → ω → WebReply × ω

namespace Web

def userAgent : String := "vyper-guard/0.1.0"

/-- The fields of a query, in the order in which they are sent. -/
def fields (q : Query) : List (String × String) :=
  [("module", "contract"), ("action", "getsourcecode"), ("address", q.address),
   ("apikey", q.key)]

/-- The request for a query, if its endpoint is the address of a web server and
does not become too long. -/
def request? (q : Query) : Option WebRequest := do
  let address := (← WebAddress.parse? q.endpoint).adding (fields q)
  if address.text.utf8ByteSize ≤ WebAddress.longest then some ⟨address, userAgent⟩ else none

def documentOf : WebReply → Except QueryFault Json
  | .unreachable => .error (.request .unsent)
  | .answered status body =>
      if 200 ≤ status ∧ status < 300 then
        match (Bytes.text? body).bind Json.parse? with
        | some document => .ok document
        | none => .error (.request .undecodable)
      else .error (.status status)

def explorer {ω : Type} (web : Web ω) (endpoint : Network → String) : Explorer ω where
  endpoint := endpoint
  answer := fun q state =>
    match request? q with
    | none => (.error (.request .badAddress), state)
    | some request =>
        let (reply, state) := web.send request state
        (documentOf reply, state)

/-- A web in which no server can be reached. -/
def unreachable : Web Unit where
  send := fun _ state => (.unreachable, state)

end Web

end LockTriage
