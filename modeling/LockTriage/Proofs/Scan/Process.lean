import LockTriage.Proofs.Scan.Fetch
import LockTriage.Proofs.Shelf
import LockTriage.Scan.Run

/-!
What processing a record can come to. A record that is passed over changes
nothing; any other fetches its source, and once there is a source the shelf
follows the verdict on it.
-/

namespace LockTriage

/-- The source that has to be on the shelf after an outcome, or none; nothing if the
record was not judged. -/
def Outcome.ruling? (source : String) : Outcome → Option (Option String)
  | .flagged _ _ => some (some source)
  | .cleared _ => some none
  | .safe _ => some none
  | .skipped _ => none
  | .suppressed => none

namespace Scan

variable {σ : Type} {settings : Settings} {explorer : Explorer σ} {desk desk' : Desk σ}
variable {record : Record} {found : VerifiedSource} {outcome : Outcome}

/-- What a record's answer is cached under. -/
def keyOf (record : Record) : CacheKey := ⟨record.network, record.address⟩

/-- Neither the declared version nor the address keeps the record from being judged. -/
def Wanted (settings : Settings) (record : Record) : Prop :=
  settings.isAffected record.declaredVersion = true ∧ settings.isSuppressed record.address = false

/-- Where the source of a record is kept. -/
def spotOf (settings : Settings) (t : FileTree) (record : Record) : Location :=
  settings.shelf.spot t record.network record.address

/-! ### Judging a source -/

/-- What the classifier says about a source. -/
def assessment (settings : Settings) (found : VerifiedSource) : Assessment :=
  settings.classifier.assess found.source

/-- The outcome of a change to the shelf. -/
def outcomeOf (settings : Settings) (found : VerifiedSource) : Shelf.Change → Outcome
  | .written => .flagged found.compilerVersion (assessment settings found)
  | .removed => .cleared found.compilerVersion
  | .unchanged => .safe found.compilerVersion

/-- What following the verdict on a source does to the shelf. -/
def follow (settings : Settings) (t : FileTree) (record : Record) (found : VerifiedSource) :
    Except ScanError Shelf.Change × FileTree × List Note :=
  settings.shelf.update t record.network record.address found.source
    (assessment settings found).vulnerable

/-- Judging a source follows its verdict on the shelf and notes what was changed. -/
theorem judge_eq (settings : Settings) (desk : Desk σ) (record : Record) (found : VerifiedSource) :
    judge settings desk record found =
      ((follow settings desk.files record found).1.map (outcomeOf settings found),
        { desk with files := (follow settings desk.files record found).2.1 }.noting
          (follow settings desk.files record found).2.2) := by
  unfold judge follow assessment
  dsimp only
  generalize settings.shelf.update desk.files record.network record.address found.source
    (settings.classifier.assess found.source).vulnerable = result
  obtain ⟨change, files, notes⟩ := result
  cases change with
  | error e => rfl
  | ok change => cases change <;> rfl

/-! ### The cases -/

/-- What processing a record can come to. -/
inductive Processed (settings : Settings) (explorer : Explorer σ) (desk : Desk σ)
    (record : Record) : Except ScanError Outcome × Desk σ → Prop where
  | skipped (hOther : settings.isAffected record.declaredVersion = false) :
      Processed settings explorer desk record (.ok (.skipped record.declaredVersion), desk)
  | suppressed (hAffected : settings.isAffected record.declaredVersion = true)
      (hReviewed : settings.isSuppressed record.address = true) :
      Processed settings explorer desk record (.ok .suppressed, desk)
  | unfetched {e : ScanError} {desk' : Desk σ} (hWanted : Wanted settings record)
      (hFetch : fetch explorer desk record.network record.address = (.error e, desk')) :
      Processed settings explorer desk record (.error e, desk')
  | judged {found : VerifiedSource} {desk' : Desk σ} (hWanted : Wanted settings record)
      (hFetch : fetch explorer desk record.network record.address = (.ok found, desk')) :
      Processed settings explorer desk record (judge settings desk' record found)

/-- A record that is to be judged is fetched and then judged. -/
theorem process_of_wanted [o : Manifest.Order] (hWanted : Wanted settings record) :
    process settings explorer desk record =
      match fetch explorer desk record.network record.address with
      | (.error e, desk) => (.error e, desk)
      | (.ok found, desk) => judge settings desk record found := by
  unfold process
  rw [hWanted.1, hWanted.2]
  rfl

/-- Processing a record comes to one of the cases. -/
theorem processed (settings : Settings) (explorer : Explorer σ) (desk : Desk σ)
    (record : Record) :
    Processed settings explorer desk record (process settings explorer desk record) := by
  cases hAffected : settings.isAffected record.declaredVersion with
  | false =>
      simp only [process, hAffected, Bool.not_false, if_true]
      exact .skipped hAffected
  | true =>
      cases hReviewed : settings.isSuppressed record.address with
      | true =>
          simp only [process, hAffected, hReviewed, Bool.not_true, Bool.false_eq_true, if_false,
            if_true]
          exact .suppressed hAffected hReviewed
      | false =>
          have hWanted : Wanted settings record := ⟨hAffected, hReviewed⟩
          rw [process_of_wanted hWanted]
          rcases hFetch : fetch explorer desk record.network record.address with ⟨done, desk'⟩
          cases done with
          | error e => exact .unfetched hWanted hFetch
          | ok found => exact .judged hWanted hFetch

/-! ### What processing a record touches -/

/-- Judging a source only adds notes to the trace. -/
theorem judge_trace (settings : Settings) (desk : Desk σ) (record : Record)
    (found : VerifiedSource) :
    ∃ notes : List Note, (judge settings desk record found).2.trace =
      desk.trace ++ notes.map .noted := by
  rw [judge_eq]
  exact ⟨_, rfl⟩

theorem judge_cache : (judge settings desk record found).2.cache = desk.cache := by
  rw [judge_eq]
  rfl

/-- Judging a source changes the files as following its verdict does. -/
theorem judge_files :
    (judge settings desk record found).2.files = (follow settings desk.files record found).2.1 := by
  rw [judge_eq]
  rfl

theorem judge_keys : (judge settings desk record found).2.keys = desk.keys := by
  rw [judge_eq]
  rfl

/-- A source that is judged gives the outcome of the change to the shelf. -/
theorem judge_eq_ok (h : (judge settings desk record found).1 = .ok outcome) :
    ∃ change t' notes, follow settings desk.files record found = (.ok change, t', notes) ∧
      outcome = outcomeOf settings found change := by
  rw [judge_eq] at h
  rcases hFollow : follow settings desk.files record found with ⟨change, t', notes⟩
  rw [hFollow] at h
  cases change with
  | error e => cases h
  | ok change =>
      cases h
      exact ⟨change, t', notes, rfl, rfl⟩

/-- Processing a record observes no outcome yet, and asks for its contract if for any. -/
theorem process_trace (settings : Settings) (explorer : Explorer σ) (desk : Desk σ)
    (record : Record) :
    ∃ events, (process settings explorer desk record).2.trace = desk.trace ++ events ∧
      Event.outcomes events = [] ∧
      (Event.contracts events = [] ∨ Event.contracts events = [keyOf record]) := by
  have hCases := processed settings explorer desk record
  generalize process settings explorer desk record = result at hCases ⊢
  cases hCases with
  | skipped => exact ⟨[], by simp, rfl, .inl rfl⟩
  | suppressed => exact ⟨[], by simp, rfl, .inl rfl⟩
  | unfetched hWanted hFetch =>
      have hTrace := fetch_trace explorer desk record.network record.address
      rw [hFetch] at hTrace
      exact hTrace
  | @judged found desk' hWanted hFetch =>
      obtain ⟨events, hTrace, hOutcomes, hContracts⟩ :=
        fetch_trace explorer desk record.network record.address
      obtain ⟨notes, hJudge⟩ := judge_trace settings desk' record found
      rw [hFetch] at hTrace
      refine ⟨events ++ notes.map .noted, ?_, by simpa using hOutcomes,
        by simpa [keyOf] using hContracts⟩
      rw [hJudge, hTrace, List.append_assoc]

/-- Processing a record touches what the cache writes for it, and its place on the shelf. -/
theorem process_touches (settings : Settings) (explorer : Explorer σ) (desk : Desk σ)
    {record : Record} (hAddress : '/' ∉ record.address.toList) :
    FileTree.Touches
      (fun loc => desk.cache.Writes desk.files (keyOf record) loc ∨
        loc = spotOf settings desk.files record)
      desk.files (process settings explorer desk record).2.files := by
  have hCases := processed settings explorer desk record
  generalize process settings explorer desk record = result at hCases ⊢
  have hFetch := (fetch_alters explorer desk record.network record.address).touches
  cases hCases with
  | skipped => exact FileTree.Touches.refl _
  | suppressed => exact FileTree.Touches.refl _
  | unfetched hWanted hResult =>
      rw [hResult] at hFetch
      exact hFetch.mono fun _ => .inl
  | @judged found desk' hWanted hResult =>
      rw [hResult] at hFetch
      have hUpdate := Shelf.update_touches settings.shelf desk'.files record.network hAddress
        found.source (assessment settings found).vulnerable
      rw [judge_files]
      refine (hFetch.mono fun _ => .inl).trans (hUpdate.mono fun loc hLoc => .inr ?_)
      rw [hLoc]
      exact Shelf.spot_of_home hFetch.home

/-- However many records are processed, and however far, no directory is lost. -/
theorem processAll_keepsDirectories (settings : Settings) (explorer : Explorer σ) (desk : Desk σ)
    {records : List Record} (hAddresses : ∀ r ∈ records, '/' ∉ r.address.toList) :
    FileTree.KeepsDirectories desk.files (processAll settings explorer desk records).2.files := by
  induction records generalizing desk with
  | nil => exact (FileTree.Alters.refl (S := fun _ => False) desk.files).toKeepsDirectories
  | cons record records ih =>
      simp only [List.mem_cons, forall_eq_or_imp] at hAddresses
      have hFirst := (process_touches settings explorer desk hAddresses.1).toKeepsDirectories
      unfold processAll
      rcases hProcess : process settings explorer desk record with ⟨done, next⟩
      rw [hProcess] at hFirst
      cases done with
      | error e => exact hFirst
      | ok outcome => exact hFirst.trans (ih (next.happened [.judged record outcome]) hAddresses.2)

/-- Following a verdict does not change the working directory. -/
theorem follow_home (settings : Settings) (t : FileTree) (hAddress : '/' ∉ record.address.toList)
    (found : VerifiedSource) : (follow settings t record found).2.1.home = t.home :=
  (Shelf.update_touches settings.shelf t record.network hAddress found.source _).home

/-- What does not depend on files is kept if fetching the source keeps it. -/
theorem process_keeps {P : Cache → FileTree → Prop} (hAddress : '/' ∉ record.address.toList)
    (hHome : ∀ cache t t', t'.home = t.home → P cache t → P cache t')
    (hFetch : Wanted settings record →
      P (fetch explorer desk record.network record.address).2.cache
        (fetch explorer desk record.network record.address).2.files)
    (h : P desk.cache desk.files) :
    P (process settings explorer desk record).2.cache
      (process settings explorer desk record).2.files := by
  have hCases := processed settings explorer desk record
  generalize process settings explorer desk record = result at hCases ⊢
  cases hCases with
  | skipped => exact h
  | suppressed => exact h
  | unfetched hWanted hResult =>
      have hKept := hFetch hWanted
      rw [hResult] at hKept
      exact hKept
  | @judged found desk' hWanted hResult =>
      have hKept := hFetch hWanted
      rw [hResult] at hKept
      rw [judge_cache, judge_files]
      exact hHome _ _ _ (follow_home settings desk'.files hAddress found) hKept

/-! ### What an outcome says about the shelf -/

/-- What processing a record says about the shelf, with the source that is got for
it. There is nothing to say if the record is not judged. -/
def rulingsOf (settings : Settings) (explorer : Explorer σ) (desk : Desk σ) (record : Record) :
    List (CacheKey × Option String) :=
  let got := (fetch explorer desk record.network record.address).1.toOption
  let outcome := (process settings explorer desk record).1.toOption
  let ruling := outcome.bind (Outcome.ruling? ((got.map VerifiedSource.source).getD ""))
  (ruling.map fun held => (keyOf record, held)).toList

/-- The source that has to be on the shelf if the verdict on it is followed. -/
def heldFor (settings : Settings) (found : VerifiedSource) : Option String :=
  if (assessment settings found).vulnerable then some found.source else none

/-- The outcome of a verdict rules that the shelf holds the source exactly if it is vulnerable. -/
theorem ruling?_outcomeOf {t t' : FileTree} {change : Shelf.Change} {notes : List Note}
    (h : follow settings t record found = (.ok change, t', notes)) :
    (outcomeOf settings found change).ruling? found.source = some (heldFor settings found) := by
  have hCases := Shelf.updated settings.shelf t record.network record.address found.source
    (assessment settings found).vulnerable
  rw [follow] at h
  rw [h] at hCases
  unfold heldFor
  generalize (assessment settings found).vulnerable = vulnerable at hCases ⊢
  cases hCases <;> rfl

/-- A record that fails rules nothing. -/
theorem rulingsOf_of_error {e : ScanError}
    (h : (process settings explorer desk record).1 = .error e) :
    rulingsOf settings explorer desk record = [] := by
  unfold rulingsOf
  rw [h]
  rfl

/-- A record that is passed over rules nothing. -/
theorem rulingsOf_of_passed (h : (process settings explorer desk record).1 = .ok outcome)
    (hPassed : ∀ source, outcome.ruling? source = none) :
    rulingsOf settings explorer desk record = [] := by
  unfold rulingsOf
  rw [h]
  simp only [Except.toOption, Option.bind_some, hPassed, Option.map_none, Option.toList_none]

/-- A record that is judged rules what the shelf has to hold for it. -/
theorem rulingsOf_of_judged (hWanted : Wanted settings record)
    (hFetch : fetch explorer desk record.network record.address = (.ok found, desk'))
    (hJudge : (judge settings desk' record found).1 = .ok outcome) :
    rulingsOf settings explorer desk record = [(keyOf record, heldFor settings found)] := by
  obtain ⟨change, t', notes, hFollow, rfl⟩ := judge_eq_ok hJudge
  have hProcess : (process settings explorer desk record).1 =
      .ok (outcomeOf settings found change) := by
    rw [process_of_wanted hWanted, hFetch]
    exact hJudge
  have hRuling := ruling?_outcomeOf hFollow
  unfold rulingsOf
  rw [hProcess, hFetch]
  simp only [Except.toOption, Option.map_some, Option.getD_some, Option.bind_some, hRuling,
    Option.toList_some]

/-! ### Records, networks and exports -/

/-- If all records succeed, the first does and then the others. -/
theorem processAll_cons_eq_ok {rest : List Record} {outcomes : List Outcome} {final : Desk σ}
    (h : processAll settings explorer desk (record :: rest) = (.ok outcomes, final)) :
    ∃ outcome next later, process settings explorer desk record = (.ok outcome, next) ∧
      processAll settings explorer (next.happened [.judged record outcome]) rest = (.ok later, final) ∧
      outcomes = outcome :: later := by
  unfold processAll at h
  rcases hProcess : process settings explorer desk record with ⟨done, next⟩
  rw [hProcess] at h
  cases done with
  | error e => cases h
  | ok outcome =>
      dsimp only at h
      rcases hRest : processAll settings explorer (next.happened [.judged record outcome]) rest with
        ⟨later, last⟩
      rw [hRest] at h
      cases later with
      | error e => cases h
      | ok later =>
          cases h
          exact ⟨outcome, next, later, rfl, hRest, rfl⟩

/-- A network is scanned if its directory can be made and all its records succeed. -/
theorem scanNetwork_eq_ok_iff {network : Network} {records : List Record}
    {summary : NetworkSummary} {final : Desk σ} :
    scanNetwork settings explorer desk network records = (.ok summary, final) ↔
      ∃ files outcomes last, settings.shelf.prepare desk.files network = (.ok (), files) ∧
        processAll settings explorer { desk with files := files } records = (.ok outcomes, last) ∧
        summary = ⟨network, Tally.ofOutcomes outcomes⟩ ∧ final = last.noting [.networkScanned summary] := by
  constructor
  · intro h
    unfold scanNetwork at h
    rcases hPrepare : settings.shelf.prepare desk.files network with ⟨prepared, files⟩
    rw [hPrepare] at h
    cases prepared with
    | error e => cases h
    | ok _ =>
        dsimp only at h
        rcases hAll : processAll settings explorer { desk with files := files } records with ⟨done, last⟩
        rw [hAll] at h
        cases done with
        | error e => cases h
        | ok outcomes =>
            cases h
            exact ⟨files, outcomes, last, rfl, hAll, rfl, rfl⟩
  · rintro ⟨files, outcomes, last, hPrepare, hAll, rfl, rfl⟩
    unfold scanNetwork
    simp only [hPrepare, hAll]

/-- Scanning more networks begins with the first of them. -/
theorem scanExports_cons [o : Manifest.Order] (settings : Settings) (explorer : Explorer σ)
    (desk : Desk σ) (network : Network) (rest : List Network) :
    scanExports settings explorer desk (network :: rest) =
      match scanExport settings explorer desk network with
      | (.error e, desk) => (.error e, desk)
      | (.ok summary, desk) =>
          ((scanExports settings explorer desk rest).1.map (summary :: ·),
            (scanExports settings explorer desk rest).2) := by
  -- Unfolding by the equation of the definition would try to read the export.
  with_unfolding_all rfl

/-- If all networks succeed, the first does and then the others. -/
theorem scanExports_cons_eq_ok {network : Network} {rest : List Network}
    {summaries : List NetworkSummary} {final : Desk σ}
    (h : scanExports settings explorer desk (network :: rest) = (.ok summaries, final)) :
    ∃ summary next later, scanExport settings explorer desk network = (.ok summary, next) ∧
      scanExports settings explorer next rest = (.ok later, final) ∧ summaries = summary :: later := by
  rw [scanExports_cons] at h
  rcases hScan : scanExport settings explorer desk network with ⟨done, next⟩
  rw [hScan] at h
  cases done with
  | error e => cases h
  | ok summary =>
      dsimp only at h
      rcases hRest : scanExports settings explorer next rest with ⟨later, last⟩
      rw [hRest] at h
      cases later with
      | error e => cases h
      | ok later =>
          cases h
          exact ⟨summary, next, later, rfl, hRest, rfl⟩

/-- An export that cannot be read is the error of its network. -/
theorem scanExport_of_error [o : Manifest.Order] {network : Network} {e : ScanError}
    (h : Export.load desk.files network (settings.exportPath network) = .error e) :
    scanExport settings explorer desk network = (.error e, desk) := by
  unfold scanExport
  rw [h]

/-- An export that can be read is scanned record by record. -/
theorem scanExport_of_load [o : Manifest.Order] {network : Network} {records : List Record}
    (h : Export.load desk.files network (settings.exportPath network) = .ok records) :
    scanExport settings explorer desk network =
      scanNetwork settings explorer desk network records := by
  unfold scanExport
  rw [h]

/-! ### Settings that process alike

All that a scan reads of the settings, besides what it processes a record with, is where
the exports are and where the shelf is. -/

section Settings

variable [o : Manifest.Order] {settings' : Settings}
variable (hProcess : ∀ (desk : Desk σ) record,
  process settings' explorer desk record = process settings explorer desk record)
include hProcess

/-- If each record is processed alike, so are all of them. -/
theorem processAll_of_process (desk : Desk σ) (records : List Record) :
    processAll settings' explorer desk records = processAll settings explorer desk records := by
  induction records generalizing desk with
  | nil => rfl
  | cons record records ih => simp only [processAll, hProcess, ih]

variable (hShelf : settings'.shelf = settings.shelf)
include hShelf

/-- A network is scanned alike if its records are processed alike. -/
theorem scanNetwork_of_process (desk : Desk σ) (network : Network) (records : List Record) :
    scanNetwork settings' explorer desk network records =
      scanNetwork settings explorer desk network records := by
  unfold scanNetwork
  simp only [hShelf, processAll_of_process hProcess]

variable (hPath : settings'.exportPath = settings.exportPath)
include hPath

/-- Networks are scanned alike if their exports are the same. -/
theorem scanExports_of_process (desk : Desk σ) (networks : List Network) :
    scanExports settings' explorer desk networks = scanExports settings explorer desk networks := by
  induction networks generalizing desk with
  | nil => rfl
  | cons network networks ih =>
      have hFirst : scanExport settings' explorer desk network =
          scanExport settings explorer desk network := by
        unfold scanExport
        simp only [hPath, scanNetwork_of_process hProcess hShelf]
      simp only [scanExports_cons, hFirst, ih]

/-- Whole scans are alike if records are processed alike, on the same shelf and with the same
exports. -/
theorem run_of_process (desk : Desk σ) (networks : List Network) :
    run settings' explorer desk networks = run settings explorer desk networks := by
  unfold run checkInputs
  simp only [hPath, scanExports_of_process hProcess hShelf hPath]

end Settings

/-! ### Two desks side by side

What is kept between two desks by every fetch, every verdict and every event is kept by
a whole scan, and the scans end alike. The two may write their manifests in different
orders. -/

section Beside

variable {o o' : Manifest.Order} {Failure : ScanError → Prop} {R : Desk σ → Desk σ → Prop}
variable {d d' : Desk σ} {network : Network} {records : List Record} {networks : List Network}

/-- Two desks stay side by side over a record if they do over its fetch and its verdict. -/
theorem process_beside (h : R d d')
    (hFetch : Wanted settings record → AlikeUnless Failure R
      (fetch (o := o) explorer d record.network record.address)
      (fetch (o := o') explorer d' record.network record.address))
    (hJudge : ∀ found {next next' : Desk σ}, R next next' →
      AlikeUnless Failure R (judge settings next record found) (judge settings next' record found)) :
    AlikeUnless Failure R (process (o := o) settings explorer d record)
      (process (o := o') settings explorer d' record) := by
  by_cases hWanted : Wanted settings record
  · have hFetched := hFetch hWanted
    rw [process_of_wanted (o := o) hWanted, process_of_wanted (o := o') hWanted]
    generalize fetch (o := o) explorer d record.network record.address = step at hFetched ⊢
    generalize fetch (o := o') explorer d' record.network record.address = step' at hFetched ⊢
    cases hFetched with
    | failed hFailure => exact .failed hFailure
    | error hNext => exact .error hNext
    | ok hNext => exact hJudge _ hNext
  · unfold process
    split
    · exact .ok h
    · rename_i hAffected
      split
      · exact .ok h
      · rename_i hReviewed
        exact absurd ⟨by simpa using hAffected, by simpa using hReviewed⟩ hWanted

/-- Two desks stay side by side over records if they do over each of them. -/
theorem processAll_beside (h : R d d')
    (hHappened : ∀ events {d d' : Desk σ}, R d d' → R (d.happened events) (d'.happened events))
    (hProcess : ∀ r ∈ records, ∀ {d d' : Desk σ}, R d d' →
      AlikeUnless Failure R (process (o := o) settings explorer d r)
        (process (o := o') settings explorer d' r)) :
    AlikeUnless Failure R (processAll (o := o) settings explorer d records)
      (processAll (o := o') settings explorer d' records) := by
  induction records generalizing d d' with
  | nil => exact .ok h
  | cons record records ih =>
      simp only [List.mem_cons, forall_eq_or_imp] at hProcess
      have hFirst := hProcess.1 h
      unfold processAll
      generalize process (o := o) settings explorer d record = step at hFirst ⊢
      generalize process (o := o') settings explorer d' record = step' at hFirst ⊢
      cases hFirst with
      | failed hFailure => exact .failed hFailure
      | error hNext => exact .error hNext
      | ok hNext => exact (ih (hHappened _ hNext) hProcess.2).map _

/-- Two desks stay side by side over a network if its directory is made alike. -/
theorem scanNetwork_beside
    (hDone : (settings.shelf.prepare d'.files network).1 = (settings.shelf.prepare d.files network).1)
    (hMade : R { d with files := (settings.shelf.prepare d.files network).2 }
      { d' with files := (settings.shelf.prepare d'.files network).2 })
    (hHappened : ∀ events {d d' : Desk σ}, R d d' → R (d.happened events) (d'.happened events))
    (hProcess : ∀ r ∈ records, ∀ {d d' : Desk σ}, R d d' →
      AlikeUnless Failure R (process (o := o) settings explorer d r)
        (process (o := o') settings explorer d' r)) :
    AlikeUnless Failure R (scanNetwork (o := o) settings explorer d network records)
      (scanNetwork (o := o') settings explorer d' network records) := by
  have hAll := processAll_beside hMade hHappened hProcess
  unfold scanNetwork
  generalize settings.shelf.prepare d.files network = made at hDone hMade hAll ⊢
  generalize settings.shelf.prepare d'.files network = made' at hDone hMade hAll ⊢
  obtain ⟨done, files⟩ := made
  obtain ⟨done', files'⟩ := made'
  obtain rfl : done' = done := hDone
  cases done' with
  | error e => exact .error hMade
  | ok _ =>
      dsimp only at hAll ⊢
      generalize processAll (o := o) settings explorer { d with files := files } records = step
        at hAll ⊢
      generalize processAll (o := o') settings explorer { d' with files := files' } records = step'
        at hAll ⊢
      cases hAll with
      | failed hFailure => exact .failed hFailure
      | error hLast => exact .error hLast
      | ok hLast => exact .ok (hHappened _ hLast)

/-- Two desks stay side by side over networks if they do over each of them. -/
theorem scanExports_beside (h : R d d')
    (hScan : ∀ n ∈ networks, ∀ {d d' : Desk σ}, R d d' →
      AlikeUnless Failure R (scanExport (o := o) settings explorer d n)
        (scanExport (o := o') settings explorer d' n)) :
    AlikeUnless Failure R (scanExports (o := o) settings explorer d networks)
      (scanExports (o := o') settings explorer d' networks) := by
  induction networks generalizing d d' with
  | nil => exact .ok h
  | cons network networks ih =>
      simp only [List.mem_cons, forall_eq_or_imp] at hScan
      have hFirst := hScan.1 h
      rw [scanExports_cons (o := o), scanExports_cons (o := o')]
      generalize scanExport (o := o) settings explorer d network = step at hFirst ⊢
      generalize scanExport (o := o') settings explorer d' network = step' at hFirst ⊢
      cases hFirst with
      | failed hFailure => exact .failed hFailure
      | error hNext => exact .error hNext
      | ok hNext => exact (ih hNext hScan.2).map _

end Beside

end Scan

end LockTriage
