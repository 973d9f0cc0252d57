import LockTriage.Assessment
import LockTriage.Source.Lock

/-!
The lock-reuse heuristic. A source is vulnerable when some lock annotation is
used more than once and the source can be re-entered: it has a payable marker,
or a low-level call whose arguments match no marker on the allowlist. Affected
compilers gave every annotation its own storage slot, so a reused key does not
guard the functions that share it.
-/

namespace LockTriage

/-- The heuristic with its allowlist of argument markers. -/
structure Classifier where
  safeCalls : List String
  deriving DecidableEq, Repr

namespace Classifier

def name : String := "nonreentrant-lock-reuse"

def description : String :=
  "Reused nonreentrant lock combined with a payable entry point or an unvetted raw_call"

def payableMarker : String := "@payable"

/-- Argument fragments known not to trigger the defect: token signatures and
their selectors, vault and pool entry points, and explicitly encoded selectors. -/
def builtInSafeCalls : List String :=
  ["transfer(address,uint256)",
   "transferFrom(address,address,uint256)",
   "approve(address,uint256)",
   "0xa9059cbb",
   "0x23b872dd",
   "0x095ea7b3",
   "deposit(uint256,address)",
   "withdraw(uint256,address,uint256)",
   "exchange(int128,int128,uint256,uint256)",
   "method_id("]

/-- The heuristic with the built-in allowlist. -/
def builtIn : Classifier := ⟨builtInSafeCalls⟩

/-- Extend the allowlist. Blank markers are left out: they would allow every call. -/
def allowing (c : Classifier) (extra : List String) : Classifier :=
  ⟨c.safeCalls ++ extra.filter fun m => !Text.blank m⟩

/-- An argument text contains some marker. -/
def isAllowlisted (markers : List String) (argument : String) : Bool :=
  markers.any fun m => Text.contains argument m

/-- The call sites of a source that the allowlist does not cover. -/
def unvetted (c : Classifier) (source : String) : List RawCall.Site :=
  (RawCall.sites source).filter fun site => !isAllowlisted c.safeCalls site.argument

/-- Judge a source. A payable source with a reused lock is vulnerable whatever
it calls, so its calls are not listed. -/
def assess (c : Classifier) (source : String) : Assessment :=
  let usage := Lock.Usage.ofSource source
  let payable := Text.contains source payableMarker
  if payable && usage.hasReused then ⟨true, payable, usage.reused, []⟩
  else if !Text.contains source RawCall.marker then ⟨false, payable, usage.reused, []⟩
  else
    let calls := c.unvetted source
    ⟨usage.hasReused && !calls.isEmpty, payable, usage.reused, calls⟩

def classify (c : Classifier) (source : String) : Bool := (c.assess source).vulnerable

end Classifier

end LockTriage
