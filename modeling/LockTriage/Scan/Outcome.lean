import LockTriage.Assessment
import LockTriage.Export

/-!
What a scan finds out about one record.
-/

namespace LockTriage

inductive Outcome
  /-- The declared compiler has no defect to look for. -/
  | skipped (declaredVersion : String)
  /-- The address is one that has been reviewed already. -/
  | suppressed
  /-- Possibly vulnerable, and its source has been saved. -/
  | flagged (compilerVersion : String) (assessment : Assessment)
  /-- Saved by an earlier scan, now judged safe and removed. -/
  | cleared (compilerVersion : String)
  | safe (compilerVersion : String)
  deriving DecidableEq, Repr

namespace Outcome

/-- The contract was found to be possibly vulnerable. -/
def isFlagged : Outcome → Bool
  | flagged _ _ => true
  | _ => false

end Outcome

end LockTriage
