import LockTriage.Source.RawCall

/-!
The verdict on a source together with the signals behind it.
-/

namespace LockTriage

structure Assessment where
  vulnerable : Bool
  payable : Bool
  /-- Lock annotations that occur more than once, with their counts. -/
  reusedLocks : List (String × Nat)
  /-- Calls whose arguments match nothing on the allowlist. -/
  unvettedCalls : List RawCall.Site
  deriving DecidableEq, Repr

namespace Assessment

/-- A lock and how often it is used, as in `nonreentrant("lock") x2`. -/
def lockText (lock : String × Nat) : String := s!"{lock.1} x{lock.2}"

def summary (a : Assessment) : String :=
  if a.vulnerable then
    let locks := ", ".intercalate (a.reusedLocks.map lockText)
    if a.payable && a.unvettedCalls.isEmpty then
      s!"payable entry point with reused lock ({locks})"
    else
      s!"{a.unvettedCalls.length} unsafe raw_call site(s) with reused lock ({locks})"
  else "looks safe"

end Assessment

end LockTriage
