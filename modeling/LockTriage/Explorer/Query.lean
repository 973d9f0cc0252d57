import LockTriage.Explorer.Malformed
import LockTriage.Json.Value
import LockTriage.Network

/-!
Asking an explorer. What answers is a state machine, so an answer may depend on
everything that was asked before.
-/

namespace LockTriage

/-- A request for the verified source of one contract. -/
structure Query where
  network : Network
  /-- The endpoint that is asked. -/
  endpoint : String
  address : String
  key : String
  deriving DecidableEq, Repr

/-- Why a query brought no document. -/
inductive QueryFault
  /-- The server refused with this status. -/
  | status (code : Nat)
  | request (fault : RequestFault)
  deriving DecidableEq, Repr

/-- What answers queries, and the endpoint at which each network is asked. -/
structure Explorer (σ : Type) where
  endpoint : Network → String
  answer : Query → σ → Except QueryFault Json × σ

end LockTriage
