import LockTriage.Scan.Outcome

/-!
Counts of outcomes, network by network and in all.
-/

namespace LockTriage

/-- How many records there were, and how many of them had each outcome. -/
structure Tally where
  records : Nat
  skipped : Nat
  suppressed : Nat
  flagged : Nat
  cleared : Nat
  safe : Nat
  deriving DecidableEq, Repr

namespace Tally

/-- No records. -/
def zero : Tally := ⟨0, 0, 0, 0, 0, 0⟩

def count (t : Tally) : Outcome → Tally
  | .skipped _ => { t with records := t.records + 1, skipped := t.skipped + 1 }
  | .suppressed => { t with records := t.records + 1, suppressed := t.suppressed + 1 }
  | .flagged _ _ => { t with records := t.records + 1, flagged := t.flagged + 1 }
  | .cleared _ => { t with records := t.records + 1, cleared := t.cleared + 1 }
  | .safe _ => { t with records := t.records + 1, safe := t.safe + 1 }

def ofOutcomes (outcomes : List Outcome) : Tally := outcomes.foldl count zero

/-- Contracts whose source was judged. -/
def classified (t : Tally) : Nat := t.flagged + t.cleared + t.safe

/-- The counts of two tallies together. -/
def add (t u : Tally) : Tally :=
  ⟨t.records + u.records, t.skipped + u.skipped, t.suppressed + u.suppressed,
    t.flagged + u.flagged, t.cleared + u.cleared, t.safe + u.safe⟩

end Tally

/-- The counts of one network. -/
structure NetworkSummary where
  network : Network
  tally : Tally
  deriving DecidableEq, Repr

/-- The counts of every network that was scanned, in the order of the scan. -/
structure Report where
  summaries : List NetworkSummary
  deriving DecidableEq, Repr

/-- The counts over all networks. -/
def Report.totals (r : Report) : Tally :=
  r.summaries.foldl (fun total s => total.add s.tally) Tally.zero

end LockTriage
