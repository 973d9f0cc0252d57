import LockTriage.Scan.Fetch
import LockTriage.Scan.Report
import LockTriage.Settings.Basic

/-!
The scan: read a network's export, judge its records one after another, let the
shelf follow each verdict, and count the outcomes. The first error ends the scan.
-/

namespace LockTriage.Scan

variable {σ : Type}

/-- Judge a fetched source and let the shelf follow the verdict. -/
def judge (settings : Settings) (desk : Desk σ) (record : Record) (found : VerifiedSource) :
    Except ScanError Outcome × Desk σ :=
  let assessment := settings.classifier.assess found.source
  let (change, files, notes) :=
    settings.shelf.update desk.files record.network record.address found.source
      assessment.vulnerable
  (change.map fun
    | .written => .flagged found.compilerVersion assessment
    | .removed => .cleared found.compilerVersion
    | .unchanged => .safe found.compilerVersion,
   { desk with files := files }.noting notes)

/-- The outcome of a record. Nothing is fetched for a version without the defect
or for an address that has been reviewed. -/
def process [o : Manifest.Order] (settings : Settings) (explorer : Explorer σ) (desk : Desk σ)
    (record : Record) : Except ScanError Outcome × Desk σ :=
  if !settings.isAffected record.declaredVersion then
    (.ok (.skipped record.declaredVersion), desk)
  else if settings.isSuppressed record.address then (.ok .suppressed, desk)
  else
    match fetch explorer desk record.network record.address with
    | (.error e, desk) => (.error e, desk)
    | (.ok found, desk) => judge settings desk record found

/-- The outcomes of some records. Each is observed as soon as it is known. -/
def processAll [o : Manifest.Order] (settings : Settings) (explorer : Explorer σ) (desk : Desk σ) :
    List Record → Except ScanError (List Outcome) × Desk σ
  | [] => (.ok [], desk)
  | record :: rest =>
      match process settings explorer desk record with
      | (.error e, desk) => (.error e, desk)
      | (.ok outcome, desk) =>
          let (later, desk) :=
            processAll settings explorer (desk.happened [.judged record outcome]) rest
          (later.map (outcome :: ·), desk)

/-- Scan the records of a network. -/
def scanNetwork [o : Manifest.Order] (settings : Settings) (explorer : Explorer σ) (desk : Desk σ)
    (network : Network) (records : List Record) : Except ScanError NetworkSummary × Desk σ :=
  match settings.shelf.prepare desk.files network with
  | (.error e, files) => (.error e, { desk with files := files })
  | (.ok _, files) =>
      match processAll settings explorer { desk with files := files } records with
      | (.error e, desk) => (.error e, desk)
      | (.ok outcomes, desk) =>
          let summary : NetworkSummary := ⟨network, Tally.ofOutcomes outcomes⟩
          (.ok summary, desk.noting [.networkScanned summary])

/-- Scan the export of a network. -/
def scanExport [o : Manifest.Order] (settings : Settings) (explorer : Explorer σ) (desk : Desk σ)
    (network : Network) : Except ScanError NetworkSummary × Desk σ :=
  match Export.load desk.files network (settings.exportPath network) with
  | .error e => (.error e, desk)
  | .ok records => scanNetwork settings explorer desk network records

/-- Scan the exports of some networks. -/
def scanExports [o : Manifest.Order] (settings : Settings) (explorer : Explorer σ) (desk : Desk σ) :
    List Network → Except ScanError (List NetworkSummary) × Desk σ
  | [] => (.ok [], desk)
  | network :: rest =>
      match scanExport settings explorer desk network with
      | (.error e, desk) => (.error e, desk)
      | (.ok summary, desk) =>
          let (later, desk) := scanExports settings explorer desk rest
          (later.map (summary :: ·), desk)

/-- Every network has to have an export. -/
def checkInputs (settings : Settings) (files : FileTree) (networks : List Network) :
    Except ScanError Unit :=
  match networks.find? fun n => !files.isFile (settings.exportPath n) with
  | some network => .error (.missingInput (settings.exportPath network))
  | none => .ok ()

/-- Scan some networks in the given order. Nothing is done if an export is missing. -/
def run [o : Manifest.Order] (settings : Settings) (explorer : Explorer σ) (desk : Desk σ)
    (networks : List Network) : Except ScanError Report × Desk σ :=
  match checkInputs settings desk.files networks with
  | .error e => (.error e, desk)
  | .ok _ =>
      let (done, desk) := scanExports settings explorer desk networks
      (done.map (⟨·⟩), desk)

end LockTriage.Scan
