import LockTriage.Json.Value
import LockTriage.Scan.Report

/-!
Assessments, outcomes and reports as JSON documents.
-/

namespace LockTriage

/-- A call site: where it is, and its argument text. -/
def RawCall.Site.document (s : RawCall.Site) : Json :=
  .object [("match_offset", .nat s.offset), ("argument_text", .text s.argument)]

/-- An assessment. A lock is written as a pair of its text and its count. -/
def Assessment.document (a : Assessment) : Json :=
  .object
    [("vulnerable", .bool a.vulnerable),
     ("payable", .bool a.payable),
     ("reused_locks",
       .list (a.reusedLocks.map fun lock => .list [.text lock.1, .nat lock.2])),
     ("unsafe_calls", .list (a.unvettedCalls.map RawCall.Site.document))]

/-- An outcome, with its kind as first member. -/
def Outcome.document : Outcome → Json
  | .skipped declared =>
      .object [("outcome", .text "skipped"), ("declared_version", .text declared)]
  | .suppressed => .object [("outcome", .text "suppressed")]
  | .flagged version assessment =>
      .object [("outcome", .text "flagged"), ("compiler_version", .text version),
        ("assessment", assessment.document)]
  | .cleared version =>
      .object [("outcome", .text "cleared"), ("compiler_version", .text version)]
  | .safe version => .object [("outcome", .text "safe"), ("compiler_version", .text version)]

/-- The counts of a network, or those of all networks if none is given. -/
def Tally.document (network : Option Network) (t : Tally) : Json :=
  .object
    [("network", (network.map fun n => Json.text n.name).getD .null),
     ("records", .nat t.records),
     ("skipped", .nat t.skipped),
     ("suppressed", .nat t.suppressed),
     ("flagged", .nat t.flagged),
     ("cleared", .nat t.cleared),
     ("safe", .nat t.safe)]

/-- The counts of a network. -/
def NetworkSummary.document (s : NetworkSummary) : Json := s.tally.document (some s.network)

/-- A report: the networks in the order of the scan, then the totals. -/
def Report.document (r : Report) : Json :=
  .object
    [("networks", .list (r.summaries.map NetworkSummary.document)),
     ("totals", r.totals.document none)]

end LockTriage
