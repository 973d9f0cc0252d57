import LockTriage.Proofs.Scan.Again
import LockTriage.Proofs.Scan.Share
import LockTriage.Proofs.Shelf.Apart

/-!
Networks do not interfere. A scan of a network goes by its share in the cache, the keys and
the explorers, and by what stands in its directory. It leaves the shares and directories of
other networks as they are, so the networks can be scanned in any order.
-/

namespace LockTriage.Scan

variable {σ : Type} {settings : Settings} {explorer : Explorer σ} {d d' e e' : Desk σ}
variable {network other : Network} {record : Record} {records : List Record}

/-! ### Scanning the network -/

/-- On two desks the network has the same share, its directory is there, and the same stands
in it. -/
structure SameHand (settings : Settings) (explorer : Explorer σ) (network : Network)
    (d d' : Desk σ) : Prop where
  share : SameShare explorer network d d'
  directory : settings.shelf.SameDirectory network d.files d'.files

/-- Desks that are in the same hand still are when both asked the network the same. -/
theorem SameHand.happened (h : SameHand settings explorer network d d') {events events' : List Event}
    (hEvents : Event.queriesTo network events' = Event.queriesTo network events) :
    SameHand settings explorer network (d.happened events) (d'.happened events') :=
  ⟨h.share.happened hEvents, h.directory⟩

/-- A cache in memory keeps nothing in files. -/
private theorem fetch_files (explorer : Explorer σ) (hMemory : ∃ known, d.cache = .memory known)
    (network : Network) (address : String) :
    (fetch explorer d network address).2.files = d.files := by
  obtain ⟨known, hKnown⟩ := hMemory
  exact (fetch_memory explorer hKnown network address).1

/-- A contract is fetched alike from desks in the same hand. -/
theorem SameHand.fetch (h : SameHand settings explorer network d d') (address : String) :
    EndAlike (SameHand settings explorer network) (fetch explorer d network address)
      (fetch explorer d' network address) := by
  obtain ⟨hResult, hShare⟩ := h.share.fetch address
  refine ⟨hResult, hShare, ?_⟩
  rw [fetch_files explorer h.share.memory, fetch_files explorer h.share.memory']
  exact h.directory

/-- A contract of the network is judged alike on desks in the same hand. -/
theorem SameHand.judge (h : SameHand settings explorer network d d')
    (hRecord : record.Proper network) (found : VerifiedSource) :
    EndAlike (SameHand settings explorer network) (judge settings d record found)
      (judge settings d' record found) := by
  obtain ⟨hChange, hDirectory⟩ := h.directory.update hRecord.noSeparator found.source
    (assessment settings found).vulnerable
  rw [judge_eq, judge_eq, follow, follow, hRecord.network]
  exact ⟨by dsimp only; rw [hChange], (h.share.withFiles _ _).noting _ _, hDirectory⟩

/-- A record of the network is processed alike on desks in the same hand. -/
theorem SameHand.process (h : SameHand settings explorer network d d')
    (hRecord : record.Proper network) :
    EndAlike (SameHand settings explorer network) (process settings explorer d record)
      (process settings explorer d' record) := by
  refine AlikeUnless.endAlike (process_beside h (fun _ => ?_) fun found _ _ hNext => ?_)
  · rw [hRecord.network]
    exact (h.fetch record.address).unless
  · exact (hNext.judge hRecord found).unless

/-- All records of the network are processed alike on desks in the same hand. -/
theorem SameHand.processAll (h : SameHand settings explorer network d d')
    (hRecords : ∀ r ∈ records, r.Proper network) :
    EndAlike (SameHand settings explorer network) (processAll settings explorer d records)
      (processAll settings explorer d' records) :=
  AlikeUnless.endAlike (processAll_beside h (fun _ _ _ hNext => hNext.happened rfl)
    fun r hr _ _ hNext => (hNext.process (hRecords r hr)).unless)

/-! ### Scanning another network -/

/-- Judging a contract on one of the desks leaves a network's share of what was asked. -/
theorem SameShare.judge_other (h : SameShare explorer network d d') (record : Record)
    (found : VerifiedSource) : SameShare explorer network d (judge settings d' record found).2 := by
  rw [judge_eq]
  have hNoted := (h.withFiles d.files (follow settings d'.files record found).2.1).noting []
    (follow settings d'.files record found).2.2
  rwa [Desk.noting_eq { d with files := d.files }, List.map_nil, Desk.happened_nil] at hNoted

/-- Processing a record of another network leaves the share, and alters nothing but the file
of its contract. -/
private theorem SameShare.process_other (h : SameShare explorer network d d')
    (hRecord : record.Proper other) (hOther : other ≠ network)
    (hDir : d'.files.isDirectory (settings.shelf.directory other) = true) {outcome : Outcome}
    (hProcess : process settings explorer d' record = (.ok outcome, e)) :
    SameShare explorer network d e ∧
      FileTree.Alters (settings.shelf.Below d'.files other) d'.files e.files := by
  have hCases := processed settings explorer d' record
  rw [hProcess] at hCases
  generalize hEnded : (Except.ok outcome, e) = ended at hCases
  cases hCases with
  | skipped =>
      cases hEnded
      exact ⟨h, FileTree.Alters.refl _⟩
  | suppressed =>
      cases hEnded
      exact ⟨h, FileTree.Alters.refl _⟩
  | unfetched => cases hEnded
  | @judged found next hWanted hFetch =>
      have hShare := h.fetch_other (hRecord.network ▸ hOther) record.address
      have hFiles := fetch_files explorer h.memory' record.network record.address
      rw [hFetch] at hShare hFiles
      have hJudge : (judge settings next record found).1 = .ok outcome := by rw [← hEnded]
      obtain ⟨change, t', notes, hFollow, _⟩ := judge_eq_ok hJudge
      obtain rfl : e = (judge settings next record found).2 := congrArg Prod.snd hEnded
      refine ⟨hShare.judge_other record found, ?_⟩
      rw [judge_files, hFollow, ← hFiles]
      rw [follow, hRecord.network] at hFollow
      refine (Shelf.update_alters (hFiles ▸ hDir) hRecord.noSeparator hFollow).mono ?_
      rintro loc rfl
      exact Shelf.below_spot _ _ _ _

private theorem SameShare.processAll_other (h : SameShare explorer network d d')
    (hRecords : ∀ r ∈ records, r.Proper other) (hOther : other ≠ network)
    (hDir : d'.files.isDirectory (settings.shelf.directory other) = true) {outcomes : List Outcome}
    (hAll : Scan.processAll settings explorer d' records = (.ok outcomes, e)) :
    SameShare explorer network d e ∧
      FileTree.Alters (settings.shelf.Below d'.files other) d'.files e.files := by
  induction records generalizing d' outcomes with
  | nil =>
      cases hAll
      exact ⟨h, FileTree.Alters.refl _⟩
  | cons record records ih =>
      simp only [List.mem_cons, forall_eq_or_imp] at hRecords
      obtain ⟨outcome, next, later, hProcess, hRest, _⟩ := processAll_cons_eq_ok hAll
      obtain ⟨hShare, hAlters⟩ := h.process_other hRecords.1 hOther hDir hProcess
      have hNoted : SameShare explorer network d (next.happened [.judged record outcome]) :=
        hShare.happened_there rfl
      have hThere := hAlters.toKeepsDirectories.isDirectory (Shelf.plain_network other) hDir
      obtain ⟨hLast, hRestAlters⟩ := ih hNoted hRecords.2 hThere hRest
      refine ⟨hLast, hAlters.trans ?_⟩
      rw [Desk.happened_files, Shelf.below_of_home hAlters.home] at hRestAlters
      exact hRestAlters

/-! ### The part of a network in a scan -/

/-- On two desks the network has the same share, and the same stands in its directory, once
the shelf can be reached. -/
structure SamePart (settings : Settings) (explorer : Explorer σ) (network : Network)
    (d d' : Desk σ) : Prop where
  share : SameShare explorer network d d'
  files : FileTree.Agree (settings.shelf.Below d.files network)
    (d.files.rooted settings.shelf.root) (d'.files.rooted settings.shelf.root)

theorem SamePart.home (h : SamePart settings explorer network d d') : d'.files.home = d.files.home := by
  rw [← FileTree.rooted_home d'.files settings.shelf.root, h.files.home, FileTree.rooted_home]

/-- Having the same part of a network goes both ways. -/
theorem SamePart.symm (h : SamePart settings explorer network d d') :
    SamePart settings explorer network d' d := by
  refine ⟨h.share.symm, ?_⟩
  rw [Shelf.below_of_home h.home]
  exact h.files.symm

/-- Desks in the same hand have the same part of the network. -/
theorem SameHand.samePart (h : SameHand settings explorer network d d') :
    SamePart settings explorer network d d' := by
  refine ⟨h.share, ?_⟩
  rw [FileTree.rooted_of_walks (FileTree.walks_parent (Shelf.plain_network network) h.directory.there),
    FileTree.rooted_of_walks (FileTree.walks_parent (Shelf.plain_network network) h.directory.there')]
  exact h.directory.agree

/-- Scanning the network on both desks comes to the same. -/
theorem SamePart.scanNetwork (h : SamePart settings explorer network d d')
    (hRecords : ∀ r ∈ records, r.Proper network) {summary summary' : NetworkSummary}
    (hScan : scanNetwork settings explorer d network records = (.ok summary, e))
    (hScan' : scanNetwork settings explorer d' network records = (.ok summary', e')) :
    summary' = summary ∧ SamePart settings explorer network e e' := by
  obtain ⟨files, outcomes, last, hMade, hAll, rfl, rfl⟩ := scanNetwork_eq_ok_iff.mp hScan
  obtain ⟨files', outcomes', last', hMade', hAll', rfl, rfl⟩ := scanNetwork_eq_ok_iff.mp hScan'
  have hHand : SameHand settings explorer network { d with files := files }
      { d' with files := files' } :=
    ⟨h.share.withFiles files files', Shelf.sameDirectory_of_prepare h.files hMade hMade'⟩
  obtain ⟨hOutcomes, hLast⟩ := hHand.processAll hRecords
  rw [hAll, hAll'] at hOutcomes hLast
  obtain rfl := Except.ok.inj hOutcomes
  exact ⟨rfl, (hLast.happened rfl).samePart⟩

/-- Scanning another network leaves the part of the network as it is. -/
theorem SamePart.scanNetwork_other (h : SamePart settings explorer network d d')
    (hRecords : ∀ r ∈ records, r.Proper other) (hOther : other ≠ network) {summary : NetworkSummary}
    (hScan : Scan.scanNetwork settings explorer d' other records = (.ok summary, e)) :
    summary.network ≠ network ∧ SamePart settings explorer network d e := by
  obtain ⟨files, outcomes, last, hMade, hAll, rfl, rfl⟩ := scanNetwork_eq_ok_iff.mp hScan
  have hDir := Shelf.prepare_isDirectory hMade
  obtain ⟨hShare, hAlters⟩ :=
    (h.share.withFiles d.files files).processAll_other hRecords hOther hDir hAll
  have hNoted := hShare.noting [] [.networkScanned ⟨other, Tally.ofOutcomes outcomes⟩]
  rw [Desk.noting_eq { d with files := d.files }, List.map_nil, Desk.happened_nil] at hNoted
  have hWalks := hAlters.toKeepsDirectories.walks (FileTree.walks_parent (Shelf.plain_network other) hDir)
  have hPrepared := Shelf.agree_of_prepare_other hOther hMade
  have hHome := (Shelf.prepare_rooted hMade).2.1
  have hProcessed : FileTree.Agree (settings.shelf.Below d'.files network) files last.files := by
    refine ⟨hAlters.home, fun loc hLoc => hAlters.same loc fun hBelow => ?_⟩
    rw [← Shelf.below_of_home hHome] at hLoc
    exact Shelf.not_below_other hOther hBelow hLoc
  refine ⟨hOther, hNoted, ?_⟩
  rw [Desk.noting_files, FileTree.rooted_of_walks hWalks]
  refine h.files.trans ?_
  rw [← Shelf.below_of_home h.home]
  exact hPrepared.trans hProcessed

/-! ### The parts of a scan -/

/-- Scans of other networks leave the part of the network as it is. -/
theorem SamePart.scanExports_other (h : SamePart settings explorer network d d')
    {networks : List Network} (hOther : ∀ n ∈ networks, n ≠ network)
    {summaries : List NetworkSummary}
    (hScan : Scan.scanExports settings explorer d' networks = (.ok summaries, e)) :
    summaries.filter (·.network = network) = [] ∧ SamePart settings explorer network d e ∧
      FileTree.Touches Export.NotExport d'.files e.files := by
  induction networks generalizing d' summaries with
  | nil =>
      cases hScan
      exact ⟨rfl, h, FileTree.Touches.refl _⟩
  | cons other networks ih =>
      simp only [List.mem_cons, forall_eq_or_imp] at hOther
      obtain ⟨summary, next, later, hFirst, hRest, rfl⟩ := scanExports_cons_eq_ok hScan
      obtain ⟨records, _, hRecords, hFirst, hTouches⟩ := scanExport_eq_ok hFirst
      obtain ⟨hSummary, hPart⟩ := h.scanNetwork_other hRecords hOther.1 hFirst
      obtain ⟨hSummaries, hLast, hLater⟩ := ih hPart hOther.2 hRest
      rw [List.filter_cons_of_neg (by simpa using hSummary)]
      exact ⟨hSummaries, hLast, hTouches.trans hLater⟩

/-- Scans one after another go through those before some network, the network, and the rest. -/
private theorem scanExports_append_eq_ok {before after : List Network}
    {summaries : List NetworkSummary}
    (h : scanExports settings explorer d (before ++ after) = (.ok summaries, e)) :
    ∃ earlier next later, scanExports settings explorer d before = (.ok earlier, next) ∧
      scanExports settings explorer next after = (.ok later, e) ∧ summaries = earlier ++ later := by
  induction before generalizing d summaries with
  | nil => exact ⟨[], d, summaries, rfl, h, rfl⟩
  | cons network before ih =>
      rw [List.cons_append] at h
      obtain ⟨summary, next, rest, hFirst, hRest, rfl⟩ := scanExports_cons_eq_ok h
      obtain ⟨earlier, middle, later, hBefore, hAfter, rfl⟩ := ih hRest
      refine ⟨summary :: earlier, middle, later, ?_, hAfter, rfl⟩
      rw [scanExports_cons, hFirst]
      dsimp only
      rw [hBefore]
      rfl

/-- Scans in which a network comes up as often come to the same for the network. -/
theorem SamePart.scanExports {t : FileTree} (h : SamePart settings explorer network d d')
    (hTouches : FileTree.Touches Export.NotExport t d.files)
    (hTouches' : FileTree.Touches Export.NotExport t d'.files) {networks networks' : List Network}
    (hFile : network ∈ networks → t.isFile (settings.exportPath network) = true)
    (hSame : networks'.filter (· = network) = networks.filter (· = network))
    {summaries summaries' : List NetworkSummary}
    (hScan : scanExports settings explorer d networks = (.ok summaries, e))
    (hScan' : scanExports settings explorer d' networks' = (.ok summaries', e')) :
    summaries'.filter (·.network = network) = summaries.filter (·.network = network) ∧
      SamePart settings explorer network e e' := by
  induction networks generalizing d d' networks' summaries summaries' with
  | nil =>
      cases hScan
      have hOther : ∀ n ∈ networks', n ≠ network := by simpa using hSame
      obtain ⟨hSummaries, hLast, _⟩ := h.scanExports_other hOther hScan'
      exact ⟨hSummaries, hLast⟩
  | cons other networks ih =>
      obtain ⟨summary, next, later, hFirst, hRest, rfl⟩ := scanExports_cons_eq_ok hScan
      obtain ⟨records, hLoad, hRecords, hFirst, hNext⟩ := scanExport_eq_ok hFirst
      have hLater : network ∈ networks → t.isFile (settings.exportPath network) = true :=
        fun hMem => hFile (List.mem_cons_of_mem other hMem)
      by_cases hOwn : other = network
      · subst hOwn
        rw [List.filter_cons_of_pos (by simp), List.filter_eq_cons_iff] at hSame
        obtain ⟨before, after, rfl, hBefore, _, hAfter⟩ := hSame
        obtain ⟨earlier, middle, rest', hEarlier, hOnward, rfl⟩ := scanExports_append_eq_ok hScan'
        obtain ⟨hNone, hPart, hMiddle⟩ :=
          h.scanExports_other (fun n hMem => by simpa using hBefore n hMem) hEarlier
        obtain ⟨summary', next', later', hFirst', hRest', rfl⟩ := scanExports_cons_eq_ok hOnward
        obtain ⟨records', hLoad', _, hFirst', hNext'⟩ := scanExport_eq_ok hFirst'
        -- Both read the export as it was at the start.
        have hThere := hFile List.mem_cons_self
        rw [(Settings.load_of_touches hTouches hThere).2] at hLoad
        rw [(Settings.load_of_touches (hTouches'.trans hMiddle) hThere).2, hLoad] at hLoad'
        obtain rfl := Except.ok.inj hLoad'
        obtain ⟨rfl, hScanned⟩ := hPart.scanNetwork hRecords hFirst hFirst'
        obtain ⟨hSummaries, hLast⟩ := ih hScanned (hTouches.trans hNext)
          ((hTouches'.trans hMiddle).trans hNext') hLater hAfter hRest hRest'
        rw [List.filter_append, hNone, List.nil_append, List.filter_cons, List.filter_cons, hSummaries]
        exact ⟨rfl, hLast⟩
      · obtain ⟨hSummary, hPart⟩ := h.symm.scanNetwork_other hRecords hOwn hFirst
        rw [List.filter_cons_of_neg (by simpa using hOwn)] at hSame
        obtain ⟨hSummaries, hLast⟩ :=
          ih hPart.symm (hTouches.trans hNext) hTouches' hLater hSame hRest hScan'
        rw [List.filter_cons_of_neg (a := summary) (by simpa using hSummary)]
        exact ⟨hSummaries, hLast⟩

/-- After a scan of any network the shelf can be reached. -/
private theorem walks_of_scanExports {networks : List Network} (hSome : networks ≠ [])
    {summaries : List NetworkSummary}
    (h : scanExports settings explorer d networks = (.ok summaries, e)) :
    e.files.Walks settings.shelf.root := by
  induction networks generalizing d summaries with
  | nil => exact absurd rfl hSome
  | cons network networks ih =>
      obtain ⟨summary, next, later, hFirst, hRest, _⟩ := scanExports_cons_eq_ok h
      by_cases hMore : networks = []
      · subst hMore
        cases hRest
        obtain ⟨records, _, hRecords, hScan, _⟩ := scanExport_eq_ok hFirst
        obtain ⟨files, outcomes, last, hMade, hAll, _, rfl⟩ := scanNetwork_eq_ok_iff.mp hScan
        have hKeeps := processAll_keepsDirectories settings explorer { d with files := files }
          fun r hr => (hRecords r hr).noSeparator
        rw [hAll] at hKeeps
        exact hKeeps.walks (FileTree.walks_parent (Shelf.plain_network network)
          (Shelf.prepare_isDirectory hMade))
      · exact ih hMore hRest

/-- Where the same network was scanned as often, whatever else was, it stands the same in the
directory of the network. -/
private theorem same_below {networks networks' : List Network} (hPerm : networks.Perm networks')
    {summaries summaries' : List NetworkSummary}
    (hScan : scanExports settings explorer d networks = (.ok summaries, e))
    (hScan' : scanExports settings explorer d networks' = (.ok summaries', e'))
    (hPart : SamePart settings explorer network e e') (loc : Location)
    (hLoc : settings.shelf.Below e.files network loc) : e'.files.at? loc = e.files.at? loc := by
  by_cases hSome : networks = []
  · -- Neither scan has done anything.
    subst hSome
    obtain rfl := hPerm.nil_eq
    cases hScan
    cases hScan'
    rfl
  · have hSome' : networks' ≠ [] := by
      rintro rfl
      exact hSome hPerm.eq_nil
    have hSame := hPart.files.same loc hLoc
    rwa [FileTree.rooted_of_walks (walks_of_scanExports hSome hScan),
      FileTree.rooted_of_walks (walks_of_scanExports hSome' hScan')] at hSame

/-- A network occurs as often in any order of the networks. -/
private theorem filter_eq_of_perm {networks networks' : List Network}
    (hPerm : networks.Perm networks') (network : Network) :
    networks'.filter (· = network) = networks.filter (· = network) := by
  rw [List.filter_eq, List.filter_eq, hPerm.count_eq]

/-! ### Networks do not interfere -/

/-- With a cache in memory, and explorers whose answers about a network depend on the
address and on how many queries about the network came before, networks do not interfere.
However fetches for several networks are mixed, those of one network bring what they bring
alone, ask its explorer the same, and leave the same answers cached. Scans of the networks
in two orders, if they succeed, come to the same for every network: its counts, what its
explorer was asked, the sources that are saved, and all that stands in its directory. -/
theorem networks_do_not_interfere (explorer : Explorer σ) (desk : Desk σ)
    {known : List (CacheKey × Json)} (hMemory : desk.cache = .memory known)
    (hSeparate : explorer.Separate desk.explorer) :
    (∀ (requests : List CacheKey) (network : Network),
      (gains explorer desk requests).filter (·.1.network = network) =
        gains explorer desk (requests.filter (·.network = network)) ∧
      Event.queriesTo network (fetchAll explorer desk requests).trace =
        Event.queriesTo network
          (fetchAll explorer desk (requests.filter (·.network = network))).trace ∧
      ∀ address, (fetchAll explorer desk requests).cached? ⟨network, address⟩ =
        (fetchAll explorer desk (requests.filter (·.network = network))).cached?
          ⟨network, address⟩) ∧
    ∀ (settings : Settings) (networks networks' : List Network) (report report' : Report)
      (final final' : Desk σ), networks.Perm networks' →
      run settings explorer desk networks = (.ok report, final) →
      run settings explorer desk networks' = (.ok report', final') →
      ∀ network,
        report'.summaries.filter (·.network = network) =
          report.summaries.filter (·.network = network) ∧
        Event.queriesTo network final'.trace = Event.queriesTo network final.trace ∧
        (∀ address, settings.shelf.kept? final'.files network address =
          settings.shelf.kept? final.files network address) ∧
        ∀ loc, settings.shelf.Below final.files network loc →
          final'.files.at? loc = final.files.at? loc := by
  have hShare (network : Network) : SameShare explorer network desk desk :=
    ⟨⟨known, hMemory⟩, ⟨known, hMemory⟩, fun _ => rfl, rfl, hSeparate network, rfl⟩
  constructor
  · intro requests network
    obtain ⟨hGains, hLast⟩ := (hShare network).fetchAll requests
    exact ⟨hGains, hLast.queries, hLast.cached⟩
  · intro settings networks networks' report report' final final' hPerm hRun hRun' network
    obtain ⟨hFiles, summaries, hScan, rfl⟩ := run_eq_ok hRun
    obtain ⟨_, summaries', hScan', rfl⟩ := run_eq_ok hRun'
    have hPart : SamePart settings explorer network desk desk :=
      ⟨hShare network, FileTree.Agree.refl _ _⟩
    obtain ⟨hSummaries, hLast⟩ := hPart.scanExports (FileTree.Touches.refl _)
      (FileTree.Touches.refl _) (hFiles network) (filter_eq_of_perm hPerm network) hScan hScan'
    have hSame := same_below hPerm hScan hScan' hLast
    refine ⟨hSummaries, hLast.share.queries, fun address => ?_, hSame⟩
    rw [Shelf.kept?_eq, Shelf.kept?_eq, Shelf.spot_of_home hLast.home, FileTree.content?,
      FileTree.content?, hSame _ (Shelf.below_spot _ _ _ _)]

end LockTriage.Scan

namespace LockTriage.Scan.Mixed

/-- Exports of two networks, with one address in both. -/
def files : FileTree :=
  ⟨["w"], [(["w"], .dir), (["w", "in"], .dir),
    (["w", "in", "poly.csv"], .file (Bytes.ofText "0xA,0.3.0\n0xB,0.3.0\n")),
    (["w", "in", "op.csv"], .file (Bytes.ofText "0xA,0.3.0\n"))]⟩

/-- The source of the contract that a network is asked for first is vulnerable, and no other. -/
def explorer : Explorer (List Network) where
  endpoint := Network.defaultApiUrl
  answer query asked :=
    (.ok (Turns.document (if asked.count query.network = 0 then Turns.vulnerable else "")),
      query.network :: asked)

def keys : KeyRing := ⟨[(.poly, ⟨["first", "second"], 0, by decide⟩), (.op, ⟨["only"], 0, by decide⟩)]⟩

def desk : Desk (List Network) := ⟨files, .memory [], keys, [], []⟩

theorem separate_explorer (state : List Network) : explorer.Separate state := by
  have hCount (network : Network) (asked : List Query) (state : List Network) :
      (explorer.after state asked).count network =
        (asked.filter (·.network = network)).length + state.count network := by
    induction asked generalizing state with
    | nil => simp [Explorer.after]
    | cons query asked ih =>
        rw [Explorer.after_cons, ih]
        by_cases hNetwork : query.network = network
        · simp [explorer, hNetwork, Nat.add_assoc, Nat.add_comm]
        · simp [explorer, hNetwork]
  intro network asked asked' query query' hAsked hQuery hQuery' _
  subst hQuery
  simp only [explorer]
  change Except.ok (Turns.document (if (explorer.after state asked').count query'.network = 0 then _ else _)) =
    Except.ok (Turns.document (if (explorer.after state asked).count query.network = 0 then _ else _))
  rw [hQuery', hCount, hCount, hAsked]

/-- In both orders the first contract of each network is flagged, whichever network comes
first. -/
theorem networks_do_not_interfere_mixed :
    ∃ report report' final final',
      run Turns.settings explorer desk [.poly, .op] = (.ok report, final) ∧
      run Turns.settings explorer desk [.op, .poly] = (.ok report', final') ∧
      report'.summaries.filter (·.network = .poly) = [⟨.poly, ⟨2, 0, 0, 1, 0, 1⟩⟩] ∧
      Event.queriesTo .poly final'.trace = Event.queriesTo .poly final.trace ∧
      (gains explorer desk [⟨.poly, "0xA"⟩, ⟨.op, "0xA"⟩, ⟨.poly, "0xB"⟩]).filter
          (·.1.network = .op) = gains explorer desk [⟨.op, "0xA"⟩] := by
  have hFirst : (run Turns.settings explorer desk [.poly, .op]).1.toOption =
      some ⟨[⟨.poly, ⟨2, 0, 0, 1, 0, 1⟩⟩, ⟨.op, ⟨1, 0, 0, 1, 0, 0⟩⟩]⟩ := by decide +kernel
  have hSecond : (run Turns.settings explorer desk [.op, .poly]).1.isOk = true := by decide +kernel
  rcases hRun : run Turns.settings explorer desk [.poly, .op] with ⟨result, final⟩
  rcases hRun' : run Turns.settings explorer desk [.op, .poly] with ⟨result', final'⟩
  rw [hRun] at hFirst
  rw [hRun'] at hSecond
  cases result with
  | error e => cases hFirst
  | ok report =>
      obtain rfl := Option.some.inj hFirst
      cases result' with
      | error e => cases hSecond
      | ok report' =>
          obtain ⟨hFetches, hRuns⟩ :=
            networks_do_not_interfere explorer desk rfl (separate_explorer [])
          obtain ⟨hSummaries, hQueries, _⟩ :=
            hRuns Turns.settings _ _ _ _ _ _ (.swap _ _ []) hRun hRun' .poly
          refine ⟨_, report', final, final', rfl, rfl, ?_, hQueries, ?_⟩
          · rw [hSummaries]
            rfl
          · exact (hFetches [⟨.poly, "0xA"⟩, ⟨.op, "0xA"⟩, ⟨.poly, "0xB"⟩] .op).1

end LockTriage.Scan.Mixed
