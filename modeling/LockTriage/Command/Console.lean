import LockTriage.Command.Style
import LockTriage.Scan.Report
import LockTriage.Settings.Basic

/-!
The lines that people read: the progress and summary of a scan, the assessment of
a file, and the table of networks.
-/

namespace LockTriage.Console

def padEnd (width : Nat) (s : String) : String :=
  s ++ String.ofList (List.replicate (width - s.length) ' ')

def padStart (width n : Nat) : String :=
  String.ofList (List.replicate (width - (toString n).length) ' ') ++ toString n

def banner (styled : Bool) (networks : List Network) (settings : Settings) : List String :=
  let names := ", ".intercalate (networks.map Network.name)
  let versions := ", ".intercalate settings.versions
  ["",
   Style.bold.paint styled "  vyper-guard - nonreentrant lock triage",
   s!"  Networks: {names}",
   s!"  Vulnerable compilers: {versions}",
   ""]

/-- The line of an outcome. Skipped records have none. -/
def outcome? (styled : Bool) (record : Record) (outcome : Outcome) : Option String :=
  let contract := s!"  {record.network.name} {record.address}"
  match outcome with
  | .skipped _ => none
  | .suppressed =>
      let verdict := Style.dimmed.paint styled "suppressed"
      some s!"{contract} {verdict}"
  | .flagged version assessment =>
      let verdict := Style.boldRed.paint styled "could be vulnerable, saved"
      let reason := Style.dimmed.paint styled assessment.summary
      some s!"{contract} ({version}) {verdict} {reason}"
  | .cleared version =>
      let verdict := Style.yellow.paint styled "narrowed down to non-vulnerable, removed"
      some s!"{contract} ({version}) {verdict}"
  | .safe version =>
      let verdict := Style.green.paint styled "contract looks safe"
      some s!"{contract} ({version}) {verdict}"

/-- The line of a network in the summary. -/
def summaryLine (s : NetworkSummary) : String :=
  let t := s.tally
  let name := padEnd 10 s.network.name
  s!"    {name} rows {padStart 6 t.records}  classified {padStart 5 t.classified}  " ++
    s!"flagged {padStart 4 t.flagged}  cleared {padStart 4 t.cleared}"

def summary (styled : Bool) (report : Report) : List String :=
  let t := report.totals
  ["", Style.boldUnderlined.paint styled "  Summary"] ++
    report.summaries.map summaryLine ++
    [s!"    Skipped (compiler): {t.skipped}",
     s!"    Suppressed:         {t.suppressed}",
     s!"    Flagged:            {t.flagged}",
     s!"    Cleared:            {t.cleared}",
     ""]

/-- The lines of a call site: where it is, and its argument text. -/
def site (styled : Bool) (s : RawCall.Site) : List String :=
  let arrow := Style.dimmed.paint styled "-->"
  let bar := Style.dimmed.paint styled "|"
  s!"    {arrow} raw_call at byte {s.offset}" ::
    (Text.lines s.argument.toList).map fun line =>
      let shown := String.ofList line
      s!"    {bar} {shown}"

def assessment (styled : Bool) (file : Path) (a : Assessment) : List String :=
  let arrow := Style.dimmed.paint styled "-->"
  let verdict :=
    if a.vulnerable then Style.boldRed.paint styled "POSSIBLY VULNERABLE"
    else Style.boldGreen.paint styled "LOOKS SAFE"
  let payable := if a.payable then "yes" else "no"
  let locks := a.reusedLocks.map fun lock =>
    let shown := Assessment.lockText lock
    s!"    {arrow} reused lock {shown}"
  [s!"  [{verdict}] {file.text}",
   s!"    {a.summary}",
   s!"    {arrow} payable entry point: {payable}"] ++
    locks ++ a.unvettedCalls.flatMap (site styled) ++ [""]

/-- A line of the table of networks. -/
def tableLine (name key url : String) : String := s!"{padEnd 10 name} {padEnd 30 key} {url}"

/-- The table of networks with their endpoints. -/
def networkTable : List String :=
  [tableLine "Network" "Key variable" "Explorer API",
   String.ofList (List.replicate 90 '-')] ++
    Network.all.map (fun n => tableLine n.name n.keyVariable n.defaultApiUrl) ++
    ["", s!"Total: {Network.all.length} networks"]

/-- The lines of the saved sources of a network; none if there are none. -/
def savedSources (network : Network) (files : List Path) : List String :=
  if files.isEmpty then []
  else s!"{network.name} ({files.length})" :: files.map fun f => s!"  {f.text}"

end LockTriage.Console
