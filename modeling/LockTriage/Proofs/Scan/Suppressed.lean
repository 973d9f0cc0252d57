import LockTriage.Proofs.Scan.Asked
import LockTriage.Proofs.Scan.Demand
import LockTriage.Proofs.Scan.Share
import LockTriage.Proofs.Shelf.Apart

/-!
Suppressing more addresses. Two scans of the same rows, of which the second passes over more
of them, are kept side by side: the caches and the shelves differ for the contracts passed
over and for no others, so all other rows come to the same in both.
-/

namespace LockTriage

namespace Settings

/-- Some pattern matches the address. -/
def covered (patterns : List String) (address : String) : Bool :=
  patterns.any fun pattern => Glob.covers pattern address

/-- The settings with other patterns of addresses that have been reviewed. -/
def reviewing (s : Settings) (patterns : List String) : Settings :=
  { s with suppressions := patterns }

/-- The settings with more patterns of addresses that have been reviewed. -/
def suppressing (s : Settings) (added : List String) : Settings :=
  s.reviewing (s.suppressions ++ added)

/-- An address is suppressed if it was before or if an added pattern covers it. -/
theorem isSuppressed_suppressing (s : Settings) (added : List String) (address : String) :
    (s.suppressing added).isSuppressed address = (s.isSuppressed address || covered added address) :=
  List.any_append

/-- Neither the order of the patterns counts, nor how often they stand there, nor those that
are no patterns. -/
theorem covered_congr {patterns patterns' : List String}
    (h : ∀ written, (Glob.parse? written).isSome → (written ∈ patterns ↔ written ∈ patterns')) :
    covered patterns = covered patterns' := by
  have hValid {written address : String} (hCovers : Glob.covers written address = true) :
      (Glob.parse? written).isSome := by
    rw [Glob.covers, Option.any_eq_true] at hCovers
    obtain ⟨pattern, hParsed, _⟩ := hCovers
    rw [hParsed]
    rfl
  funext address
  rw [Bool.eq_iff_iff, covered, covered, List.any_eq_true, List.any_eq_true]
  constructor
  · rintro ⟨written, hMem, hCovers⟩
    exact ⟨written, (h written (hValid hCovers)).mp hMem, hCovers⟩
  · rintro ⟨written, hMem, hCovers⟩
    exact ⟨written, (h written (hValid hCovers)).mpr hMem, hCovers⟩

end Settings

/-- The location is not that of the saved source of any of some contracts. -/
def Shelf.Outside (s : Shelf) (t : FileTree) (keys : List CacheKey) (loc : Location) : Prop :=
  ∀ key ∈ keys, loc ≠ s.spot t key.network key.address

/-- The directory of a network is no place of a contract. -/
theorem Shelf.outside_directory (s : Shelf) (t : FileTree) (keys : List CacheKey)
    (network : Network) : s.Outside t keys (t.location (s.directory network)) :=
  fun key _ => Ne.symm (spot_ne_directory key.network network key.address)

/-- The place of a contract that is not among the given ones is outside. -/
theorem Shelf.outside_spot (s : Shelf) (t : FileTree) {keys : List CacheKey} {network : Network}
    {address : String} (h : ⟨network, address⟩ ∉ keys) :
    s.Outside t keys (s.spot t network address) := by
  rintro key hMem hSame
  obtain ⟨rfl, rfl⟩ := spot_injective hSame
  exact h hMem

namespace Scan

open Settings (covered)

variable {σ : Type} {settings : Settings} {added : List String} {explorer : Explorer σ}
variable {record : Record} {outcome : Outcome} {keys : List CacheKey} {t : FileTree}
variable {d d' e : Desk σ} {p p' q : Progress σ} {task : Task} {tasks : List Task}
variable {network : Network} {networks : List Network} {address : String}

/-! ### Records passed over by the added patterns -/

/-- The record has to be judged, and an added pattern matches its address. -/
def NewlySuppressed (settings : Settings) (added : List String) (record : Record) : Prop :=
  Eligible settings record ∧ covered added record.address = true

instance (settings : Settings) (added : List String) (record : Record) :
    Decidable (NewlySuppressed settings added record) :=
  inferInstanceAs (Decidable (_ ∧ _))

/-- The contracts of the records that are passed over for an added pattern. -/
def newlySuppressed (settings : Settings) (added : List String) (rows : List Record) :
    List CacheKey :=
  (rows.filter fun record => decide (NewlySuppressed settings added record)).map keyOf

/-- The outcome of a record with the added patterns, by the one that it has without them. -/
def outcomeThen (settings : Settings) (added : List String) (record : Record) (outcome : Outcome) :
    Outcome :=
  if NewlySuppressed settings added record then .suppressed else outcome

/-- The contracts that are newly suppressed are covered by an added pattern. -/
theorem covered_of_mem {rows : List Record} {key : CacheKey}
    (h : key ∈ newlySuppressed settings added rows) : covered added key.address = true := by
  obtain ⟨record, hMem, rfl⟩ := List.mem_map.mp h
  exact (of_decide_eq_true (List.mem_filter.mp hMem).2).2

/-- The classifier, the shelf and the affected versions are those without the added patterns. -/
theorem process_suppressing (settings : Settings) (added : List String) (explorer : Explorer σ)
    (desk : Desk σ) (record : Record) :
    process (settings.suppressing added) explorer desk record =
      if NewlySuppressed settings added record then (.ok .suppressed, desk)
      else process settings explorer desk record := by
  have hAffected : (settings.suppressing added).isAffected = settings.isAffected := rfl
  unfold process
  rw [hAffected, Settings.isSuppressed_suppressing]
  by_cases hNew : NewlySuppressed settings added record
  · obtain ⟨hVersion, hReviewed⟩ := eligible_iff.mp hNew.1
    rw [if_pos hNew, hVersion, hReviewed, hNew.2]
    rfl
  · rw [if_neg hNew]
    cases hVersion : settings.isAffected record.declaredVersion with
    | false => rfl
    | true =>
        cases hReviewed : settings.isSuppressed record.address with
        | true => rfl
        | false =>
            have hOpen : covered added record.address = false := by
              rw [← Bool.not_eq_true]
              exact fun hCovered => hNew ⟨eligible_iff.mpr ⟨hVersion, hReviewed⟩, hCovered⟩
            rw [hOpen]
            rfl

/-! ### What two desks record -/

/-- Of two scans the second has the outcomes of the first but for the records passed over, and
asks for the same contracts but for theirs. -/
structure Thinned (settings : Settings) (added : List String) (events events' : List Event) :
    Prop where
  outcomes : Event.outcomes events' =
    (Event.outcomes events).map fun seen => (seen.1, outcomeThen settings added seen.1 seen.2)
  contracts : Event.contracts events' =
    (Event.contracts events).filter fun key => !covered added key.address

/-- What two runs go through is thinned piece by piece. -/
theorem Thinned.append {events events' more more' : List Event}
    (h : Thinned settings added events events') (hMore : Thinned settings added more more') :
    Thinned settings added (events ++ more) (events' ++ more') := by
  constructor
  · rw [Event.outcomes_append, Event.outcomes_append, h.outcomes, hMore.outcomes, List.map_append]
  · rw [Event.contracts_append, Event.contracts_append, h.contracts, hMore.contracts,
      List.filter_append]

theorem thinned_nil : Thinned settings added [] [] := ⟨rfl, rfl⟩

theorem thinned_judged (record : Record) (outcome : Outcome) :
    Thinned settings added [.judged record outcome]
      [.judged record (outcomeThen settings added record outcome)] :=
  ⟨rfl, rfl⟩

/-- Two desks have come from two others, and recorded the same but for what is passed over. -/
def Thins (settings : Settings) (added : List String) (d e d' e' : Desk σ) : Prop :=
  ∃ events events', e.trace = d.trace ++ events ∧ e'.trace = d'.trace ++ events' ∧
    Thinned settings added events events'

/-- Thinning holds over two stretches of a scan if it holds over each. -/
theorem Thins.trans {d e f d' e' f' : Desk σ} (h : Thins settings added d e d' e')
    (hMore : Thins settings added e f e' f') : Thins settings added d f d' f' := by
  obtain ⟨events, events', hTrace, hTrace', hThinned⟩ := h
  obtain ⟨more, more', hMoreTrace, hMoreTrace', hMoreThinned⟩ := hMore
  refine ⟨events ++ more, events' ++ more', ?_, ?_, hThinned.append hMoreThinned⟩
  · rw [hMoreTrace, hTrace, List.append_assoc]
  · rw [hMoreTrace', hTrace', List.append_assoc]

/-! ### Two desks side by side -/

/-- Two desks, both with a cache in memory, that are the same but for some contracts: their
cached answers, their saved sources, and how often keys were drawn. Either nothing has been
saved yet, or the shelf can be reached. -/
structure Beside (settings : Settings) (keys : List CacheKey) (t : FileTree) (d d' : Desk σ) :
    Prop where
  cached : ∃ known known', d.cache = .memory known ∧ d'.cache = .memory known' ∧
    ∀ key, key ∉ keys → Assoc.get? key known' = Assoc.get? key known
  keyed : ∀ n, d'.keys.contains n = d.keys.contains n
  home : d.files.home = t.home
  files : FileTree.Agree (settings.shelf.Outside t keys) d.files d'.files
  reached : d'.files = d.files ∨
    d.files.Walks settings.shelf.root ∧ d'.files.Walks settings.shelf.root

/-- What both desks put down in their traces leaves them beside each other. -/
theorem Beside.happened (h : Beside settings keys t d d') (events events' : List Event) :
    Beside settings keys t (d.happened events) (d'.happened events') :=
  ⟨h.cached, h.keyed, h.home, h.files, h.reached⟩

theorem Beside.outside_directory (h : Beside settings keys t d d') (network : Network) :
    settings.shelf.Outside t keys (d.files.location (settings.shelf.directory network)) := by
  rw [FileTree.location_of_home h.home]
  exact Shelf.outside_directory settings.shelf t keys network

/-- A network's directory that is there on one desk is there on the other. -/
theorem Beside.isDirectory (h : Beside settings keys t d d')
    (hThere : d.files.isDirectory (settings.shelf.directory network) = true) :
    d'.files.isDirectory (settings.shelf.directory network) = true := by
  rcases h.reached with hSame | ⟨_, hWalks'⟩
  · rwa [hSame]
  · exact Shelf.isDirectory_of_reached h.files hWalks' (h.outside_directory network) hThere

/-- The directory of a network is made on both desks. -/
theorem Beside.prepare {files : FileTree} (h : Beside settings keys t d d')
    (hMade : settings.shelf.prepare d.files network = (.ok (), files)) :
    ∃ files', settings.shelf.prepare d'.files network = (.ok (), files') ∧
      Beside settings keys t { d with files := files } { d' with files := files' } := by
  have hHome := (Shelf.prepare_grown hMade).home.trans h.home
  rcases h.reached with hSame | ⟨hWalks, hWalks'⟩
  · exact ⟨files, by rw [hSame, hMade],
      h.cached, h.keyed, hHome, FileTree.Agree.refl _ files, .inl rfl⟩
  · obtain ⟨files', hMade', hAgree, hReached, hReached'⟩ :=
      Shelf.prepare_of_reached h.files hWalks hWalks' (h.outside_directory network) hMade
    exact ⟨files', hMade', h.cached, h.keyed, hHome, hAgree, .inr ⟨hReached, hReached'⟩⟩

/-! ### Fetches -/

section Answers

variable {answers : CacheKey → Except QueryFault Json} (hAnswers : explorer.Answers answers)

/-- With caches in memory that have the same for a contract, getting its source comes to the
same, and leaves caches that have the same for whatever they had the same for. -/
theorem comesTo_memory {known known' : List (CacheKey × Json)}
    (h : Assoc.get? ⟨network, address⟩ known' = Assoc.get? ⟨network, address⟩ known)
    (t t' : FileTree) (keyed : Bool) (answer : Except QueryFault Json) :
    ∃ result asked last last',
      comesTo (.memory known) t network address keyed answer = (result, .memory last, t, asked) ∧
      comesTo (.memory known') t' network address keyed answer =
        (result, .memory last', t', asked) ∧
      ∀ key, Assoc.get? key known' = Assoc.get? key known →
        Assoc.get? key last' = Assoc.get? key last := by
  unfold comesTo
  simp only [Cache.get?, h]
  cases Assoc.get? ⟨network, address⟩ known with
  | some response => exact ⟨_, _, known, known', rfl, rfl, fun _ hSame => hSame⟩
  | none =>
      cases keyed with
      | false => exact ⟨_, _, known, known', rfl, rfl, fun _ hSame => hSame⟩
      | true =>
          cases answer with
          | error fault => exact ⟨_, _, known, known', rfl, rfl, fun _ hSame => hSame⟩
          | ok response =>
              simp only [if_true]
              cases VerifiedSource.ofResponse response with
              | error what => exact ⟨_, _, known, known', rfl, rfl, fun _ hSame => hSame⟩
              | ok found =>
                  refine ⟨_, _, _, _, rfl, rfl, fun key hSame => ?_⟩
                  rw [Assoc.get?_set, Assoc.get?_set, hSame]

include hAnswers

/-- A source is got on both desks in the same way if nothing is passed over for its contract. -/
theorem Beside.fetch (h : Beside settings keys t d d') (hOther : ⟨network, address⟩ ∉ keys) :
    (fetch explorer d' network address).1 = (fetch explorer d network address).1 ∧
      (fetch explorer d network address).2.files = d.files ∧
      Beside settings keys t (fetch explorer d network address).2
        (fetch explorer d' network address).2 ∧
      ∃ events events', (fetch explorer d network address).2.trace = d.trace ++ events ∧
        (fetch explorer d' network address).2.trace = d'.trace ++ events' ∧
        Event.contracts events' = Event.contracts events := by
  obtain ⟨known, known', hMemory, hMemory', hCached⟩ := h.cached
  obtain ⟨events, hTrace, hComes⟩ := fetch_comesTo hAnswers d network address
  obtain ⟨events', hTrace', hComes'⟩ := fetch_comesTo hAnswers d' network address
  obtain ⟨result, asked, last, last', hFirst, hSecond, hLast⟩ := comesTo_memory (hCached _ hOther)
    d.files d'.files (d.keys.contains network) (answers ⟨network, address⟩)
  rw [hMemory, hFirst] at hComes
  rw [hMemory', h.keyed, hSecond] at hComes'
  simp only [Prod.mk.injEq] at hComes hComes'
  obtain ⟨hResult, hCache, hFiles, hContracts⟩ := hComes
  obtain ⟨hResult', hCache', hFiles', hContracts'⟩ := hComes'
  refine ⟨hResult'.trans hResult.symm, hFiles, ⟨?_, fun n => ?_, ?_, ?_, ?_⟩,
    events, events', hTrace, hTrace', hContracts'.trans hContracts.symm⟩
  · exact ⟨last, last', hCache, hCache', fun key hKey => hLast key (hCached key hKey)⟩
  · rw [fetch_contains, fetch_contains, h.keyed]
  · rw [hFiles, h.home]
  · rw [hFiles, hFiles']
    exact h.files
  · rw [hFiles, hFiles']
    exact h.reached

/-! ### Records -/

omit hAnswers in
/-- A contract that neither run suppresses is judged alike by both. -/
theorem Beside.judge (h : Beside settings keys t d d')
    (hThere : d.files.isDirectory (settings.shelf.directory record.network) = true)
    (hAddress : '/' ∉ record.address.toList) (hOther : keyOf record ∉ keys)
    (found : VerifiedSource) :
    (judge settings d' record found).1 = (judge settings d record found).1 ∧
      Beside settings keys t (judge settings d record found).2
        (judge settings d' record found).2 := by
  have hThere' := h.isDirectory hThere
  have hSpot : settings.shelf.Outside t keys
      (settings.shelf.spot d.files record.network record.address) := by
    rw [Shelf.spot_of_home h.home]
    exact settings.shelf.outside_spot t hOther
  obtain ⟨hChange, hFiles⟩ := Shelf.update_of_there h.files hThere hThere' hAddress hSpot
    found.source (assessment settings found).vulnerable
  have hKeeps := (Shelf.update_touches settings.shelf d.files record.network hAddress found.source
    (assessment settings found).vulnerable).toKeepsDirectories
  have hKeeps' := (Shelf.update_touches settings.shelf d'.files record.network hAddress found.source
    (assessment settings found).vulnerable).toKeepsDirectories
  have hName := Shelf.plain_network record.network
  rw [judge_eq, judge_eq, follow, follow]
  exact ⟨by dsimp only; rw [hChange], h.cached, h.keyed, hKeeps.home.trans h.home, hFiles,
    .inr ⟨hKeeps.walks (FileTree.walks_parent hName hThere),
      hKeeps'.walks (FileTree.walks_parent hName hThere')⟩⟩

omit hAnswers in
/-- A record of one of the contracts can be judged on the first desk alone. -/
theorem Beside.aside (h : Beside settings keys t d d')
    (hThere : d.files.isDirectory (settings.shelf.directory record.network) = true)
    (hAddress : '/' ∉ record.address.toList) (hMem : keyOf record ∈ keys)
    (hWanted : Wanted settings record)
    (hProcess : process settings explorer d record = (.ok outcome, e)) :
    Beside settings keys t e d' := by
  obtain ⟨known, known', hMemory, hMemory', hCached⟩ := h.cached
  obtain ⟨hFiles, last, hLast, hOther⟩ := fetch_memory explorer hMemory record.network record.address
  have hKeys (n : Network) := process_contains settings explorer d record n
  rw [process_of_wanted hWanted] at hProcess
  rcases hFetch : Scan.fetch explorer d record.network record.address with ⟨done, middle⟩
  rw [hFetch] at hProcess hFiles hLast
  cases done with
  | error failure => cases hProcess
  | ok found =>
      obtain ⟨change, files, notes, hFollow, _⟩ := judge_eq_ok (congrArg Prod.fst hProcess)
      have hEnd : (Scan.judge settings middle record found).2 = e := congrArg Prod.snd hProcess
      have hCacheEnd : e.cache = .memory last := by rw [← hEnd, judge_cache, hLast]
      have hFilesEnd : e.files = files := by rw [← hEnd, judge_files, hFollow]
      have hKeysEnd (n : Network) : e.keys.contains n = d.keys.contains n := by
        rw [← hKeys, process_of_wanted hWanted, hFetch, ← hEnd]
      rw [show middle.files = d.files from hFiles, follow] at hFollow
      have hAlters := Shelf.update_alters hThere hAddress hFollow
      have hName := Shelf.plain_network record.network
      refine ⟨⟨last, known', hCacheEnd, hMemory', fun key hKey => ?_⟩, fun n => ?_, ?_, ⟨?_, ?_⟩, ?_⟩
      · have hNe : key ≠ keyOf record := fun hSame => hKey (hSame ▸ hMem)
        exact (hCached key hKey).trans (hOther key hNe).symm
      · rw [h.keyed, hKeysEnd]
      · rw [hFilesEnd, hAlters.home, h.home]
      · rw [hFilesEnd, hAlters.home, h.files.home]
      · intro loc hLoc
        rw [hFilesEnd, h.files.same loc hLoc, hAlters.same loc]
        rw [Shelf.spot_of_home h.home]
        exact hLoc (keyOf record) hMem
      · rw [hFilesEnd]
        exact .inr ⟨hAlters.toKeepsDirectories.walks (FileTree.walks_parent hName hThere),
          FileTree.walks_parent hName (h.isDirectory hThere)⟩

/-- A record of any other contract comes to the same on both desks, and asks for the same. -/
theorem Beside.process_other (h : Beside settings keys t d d')
    (hThere : d.files.isDirectory (settings.shelf.directory record.network) = true)
    (hAddress : '/' ∉ record.address.toList) (hOther : keyOf record ∉ keys)
    (hWanted : Wanted settings record)
    (hProcess : process settings explorer d record = (.ok outcome, e)) :
    ∃ e' events events', process settings explorer d' record = (.ok outcome, e') ∧
      Beside settings keys t e e' ∧ e.trace = d.trace ++ events ∧ e'.trace = d'.trace ++ events' ∧
      Event.contracts events' = Event.contracts events := by
  obtain ⟨hResult, hFiles, hNext, asked, asked', hTrace, hTrace', hContracts⟩ :=
    h.fetch hAnswers hOther
  rw [process_of_wanted hWanted] at hProcess ⊢
  rcases hFetch : Scan.fetch explorer d record.network record.address with ⟨done, middle⟩
  rcases hFetch' : Scan.fetch explorer d' record.network record.address with ⟨done', middle'⟩
  rw [hFetch] at hProcess hResult hFiles hNext hTrace
  rw [hFetch'] at hResult hNext hTrace'
  obtain rfl : done' = done := hResult
  cases done' with
  | error failure => cases hProcess
  | ok found =>
      have hStill : middle.files.isDirectory (settings.shelf.directory record.network) = true := by
        rwa [show middle.files = d.files from hFiles]
      obtain ⟨hSame, hLast⟩ := hNext.judge hStill hAddress hOther found
      obtain ⟨notes, hNotes⟩ := judge_trace settings middle record found
      obtain ⟨notes', hNotes'⟩ := judge_trace settings middle' record found
      have hJudge : Scan.judge settings middle record found = (.ok outcome, e) := hProcess
      rw [hJudge] at hSame hLast hNotes
      refine ⟨(Scan.judge settings middle' record found).2, asked ++ notes.map .noted,
        asked' ++ notes'.map .noted, Prod.ext hSame rfl, hLast, ?_, ?_, ?_⟩
      · rw [hNotes, hTrace, List.append_assoc]
      · rw [hNotes', hTrace', List.append_assoc]
      · rw [Event.contracts_append, Event.contracts_append, Event.contracts_noted,
          Event.contracts_noted, hContracts]

/-- A record is processed on both desks: as before, or passed over on the second. -/
theorem Beside.process (h : Beside settings keys t d d')
    (hCovered : ∀ key ∈ keys, covered added key.address = true)
    (hThere : d.files.isDirectory (settings.shelf.directory record.network) = true)
    (hAddress : '/' ∉ record.address.toList)
    (hMem : NewlySuppressed settings added record → keyOf record ∈ keys)
    (hProcess : process settings explorer d record = (.ok outcome, e)) :
    ∃ e', process (settings.suppressing added) explorer d' record =
        (.ok (outcomeThen settings added record outcome), e') ∧
      Beside settings keys t e e' ∧ Thins settings added d e d' e' := by
  obtain ⟨events, hTrace, hOutcomes, hContracts⟩ := process_trace settings explorer d record
  rw [hProcess] at hTrace
  rw [process_suppressing, outcomeThen]
  by_cases hNew : NewlySuppressed settings added record
  · have hWanted := eligible_iff.mp hNew.1
    rw [if_pos hNew, if_pos hNew]
    refine ⟨d', rfl, h.aside hThere hAddress (hMem hNew) hWanted hProcess, events, [], hTrace,
      (List.append_nil _).symm, by rw [hOutcomes]; rfl, ?_⟩
    rcases hContracts with hNone | hOne
    · rw [hNone]
      rfl
    · rw [hOne, List.filter_cons_of_neg (by simpa [keyOf] using hNew.2)]
      rfl
  · rw [if_neg hNew, if_neg hNew]
    by_cases hEligible : Eligible settings record
    · have hOpen : covered added record.address = false := by
        rw [← Bool.not_eq_true]
        exact fun hMatch => hNew ⟨hEligible, hMatch⟩
      have hOther : keyOf record ∉ keys := fun hIn => by
        rw [show covered added record.address = true from hCovered _ hIn] at hOpen
        cases hOpen
      obtain ⟨e', recorded, events', hProcess', hLast, hRecorded, hTrace', hSame⟩ :=
        h.process_other hAnswers hThere hAddress hOther (eligible_iff.mp hEligible) hProcess
      obtain rfl := List.append_cancel_left (hRecorded.symm.trans hTrace)
      obtain ⟨recorded', hRecorded', hOutcomes', _⟩ := process_trace settings explorer d' record
      rw [hProcess'] at hRecorded'
      obtain rfl := List.append_cancel_left (hRecorded'.symm.trans hTrace')
      refine ⟨e', hProcess', hLast, recorded, recorded', hTrace, hTrace', ?_, ?_⟩
      · rw [hOutcomes, hOutcomes']
        rfl
      · rw [hSame]
        rcases hContracts with hNone | hOne
        · rw [hNone]
          rfl
        · rw [hOne, List.filter_cons_of_pos (by simpa [keyOf] using hOpen)]
          rfl
    · obtain ⟨passed, hPassed⟩ := process_of_not_eligible hEligible
      rw [hPassed explorer d] at hProcess
      cases hProcess
      exact ⟨d', hPassed explorer d', h, [], [], (List.append_nil _).symm,
        (List.append_nil _).symm, thinned_nil⟩

/-! ### Tasks -/

/-- A task that succeeds for the first scan succeeds for the second. -/
theorem Beside.perform {last : Progress σ} (h : Beside settings keys t p.desk q.desk)
    (hCovered : ∀ key ∈ keys, covered added key.address = true)
    (hThere : ∀ record, task = .judge record →
      p.desk.files.isDirectory (settings.shelf.directory record.network) = true)
    (hPlain : task.Plain)
    (hMem : ∀ record, task = .judge record → NewlySuppressed settings added record →
      keyOf record ∈ keys)
    (hTask : perform settings explorer p task = (.ok (), last)) :
    ∃ last', perform (settings.suppressing added) explorer q task = (.ok (), last') ∧
      Beside settings keys t last.desk last'.desk ∧
      Thins settings added p.desk last.desk q.desk last'.desk := by
  cases performed_of_eq hTask with
  | @made network files hMade =>
      obtain ⟨files', hMade', hNext⟩ := h.prepare hMade
      have hTask' : Scan.perform (settings.suppressing added) explorer q (.prepare network) =
          (.ok (), { q with desk := { q.desk with files := files' }, outcomes := [] }) := by
        rw [Scan.perform, show (settings.suppressing added).shelf = settings.shelf from rfl, hMade']
      exact ⟨_, hTask', hNext, [], [], (List.append_nil _).symm, (List.append_nil _).symm, thinned_nil⟩
  | @judged record outcome desk hProcess =>
      obtain ⟨desk', hProcess', hNext, hThins⟩ := h.process hAnswers hCovered
        (hThere record rfl) hPlain (hMem record rfl) hProcess
      refine ⟨_, by rw [Scan.perform, hProcess'], hNext.happened _ _, hThins.trans ?_⟩
      exact ⟨_, _, rfl, rfl, thinned_judged record outcome⟩
  | concluded network =>
      exact ⟨_, rfl, h.happened _ _, _, _, rfl, rfl, rfl, rfl⟩

/-- Tasks that succeed for the first scan succeed for the second. -/
theorem Beside.exec {last : Progress σ} {ready : List Network} (hTasks : Orderly ready tasks)
    (hReady : Ready settings p.desk.files ready)
    (h : Beside settings keys t p.desk q.desk)
    (hCovered : ∀ key ∈ keys, covered added key.address = true)
    (hMem : ∀ record ∈ records tasks, NewlySuppressed settings added record → keyOf record ∈ keys)
    (hExec : exec settings explorer p tasks = (.ok (), last)) :
    ∃ last', exec (settings.suppressing added) explorer q tasks = (.ok (), last') ∧
      Beside settings keys t last.desk last'.desk ∧
      Thins settings added p.desk last.desk q.desk last'.desk := by
  rw [exec_eq_ok_iff] at hExec
  induction hExec generalizing q ready with
  | done p =>
      exact ⟨q, rfl, h, [], [], (List.append_nil _).symm, (List.append_nil _).symm, thinned_nil⟩
  | @step p next last task tasks hTask _ ih =>
      obtain ⟨ready', hRest, hReady'⟩ := hTasks.step hReady hTask
      obtain ⟨next', hTask', hNext, hThins⟩ := h.perform hAnswers hCovered
        (fun record hJudge => hTasks.directory hReady record hJudge) hTasks.head
        (fun record hJudge hNew => hMem record (by subst hJudge; exact List.mem_cons_self) hNew) hTask
      obtain ⟨last', hExec', hLast, hMore⟩ := ih hRest hReady' hNext fun record hIn =>
        hMem record (by
          rw [← List.singleton_append, records_append]
          exact List.mem_append_right _ hIn)
      exact ⟨last', by rw [exec_cons_ok hTask', hExec'], hLast, hThins.trans hMore⟩

end Answers

/-! ### Which patterns count -/

section Reviewing

variable {patterns patterns' : List String} (h : covered patterns = covered patterns')
include h

/-- Patterns that match the same make no difference to a record. -/
theorem process_reviewing (settings : Settings) (explorer : Explorer σ) (desk : Desk σ)
    (record : Record) :
    process (settings.reviewing patterns) explorer desk record =
      process (settings.reviewing patterns') explorer desk record := by
  have hReviewed : (settings.reviewing patterns).isSuppressed record.address =
      (settings.reviewing patterns').isSuppressed record.address := congrFun h record.address
  unfold process
  rw [hReviewed]
  rfl

/-- A scan depends on the patterns only by what they match. -/
theorem run_reviewing (settings : Settings) (explorer : Explorer σ) (desk : Desk σ)
    (networks : List Network) :
    run (settings.reviewing patterns) explorer desk networks =
      run (settings.reviewing patterns') explorer desk networks :=
  run_of_process (process_reviewing h settings explorer) rfl rfl desk networks

end Reviewing

/-! ### The scan -/

/-- Suppressing more contracts leaves the plan of a scan as it is. -/
theorem plan_suppressing (settings : Settings) (added : List String) (t : FileTree)
    (networks : List Network) :
    plan (settings.suppressing added) t networks = plan settings t networks := by
  induction networks with
  | nil => rfl
  | cons network networks ih =>
      rw [plan, plan, ih]
      rfl

/-- Of the contracts that records asked for, those whose addresses are covered are the newly
suppressed ones. -/
theorem not_covered_eq {rows : List Record} {key : CacheKey}
    (hAsked : ∃ record ∈ rows, Wanted settings record ∧ keyOf record = key) :
    (!covered added key.address) = decide (key ∉ newlySuppressed settings added rows) := by
  obtain ⟨record, hMem, hWanted, rfl⟩ := hAsked
  rw [Bool.eq_iff_iff, Bool.not_eq_true', ← Bool.not_eq_true, decide_eq_true_iff]
  refine not_congr ⟨fun hCovered => ?_, covered_of_mem⟩
  refine List.mem_map_of_mem (List.mem_filter.mpr ⟨hMem, decide_eq_true ?_⟩)
  exact ⟨eligible_iff.mpr hWanted, hCovered⟩

/-- Suppressing more addresses makes a difference to these addresses alone. With a cache in
memory and an explorer whose answers depend on the contract alone, a scan that succeeds does so
with more patterns. The outcomes are the same, but that the records which had to be judged and
match an added pattern are suppressed; the contracts asked for are the same without theirs, and
so are the saved sources, whatever else stands among the files, and the cached answers. The
order of the patterns, repeated ones and those that are no patterns do not matter at all. -/
theorem run_suppressing (settings : Settings) (added : List String) (explorer : Explorer σ)
    (desk : Desk σ) (networks : List Network) {answers : CacheKey → Except QueryFault Json}
    (hAnswers : explorer.Answers answers) {known : List (CacheKey × Json)}
    (hMemory : desk.cache = .memory known) :
    (∀ (report : Report) (final : Desk σ), run settings explorer desk networks = (.ok report, final) →
      ∃ report' final' events events',
        run (settings.suppressing added) explorer desk networks = (.ok report', final') ∧
        final.trace = desk.trace ++ events ∧ final'.trace = desk.trace ++ events' ∧
        (Event.outcomes events).map Prod.fst = rows settings desk.files networks ∧
        Event.outcomes events' = (Event.outcomes events).map (fun seen =>
          (seen.1, if NewlySuppressed settings added seen.1 then .suppressed else seen.2)) ∧
        let newly := newlySuppressed settings added (rows settings desk.files networks)
        Event.contracts events' = (Event.contracts events).filter (fun key => decide (key ∉ newly)) ∧
        (∀ key, key ∉ newly → settings.shelf.kept? final'.files key.network key.address =
          settings.shelf.kept? final.files key.network key.address) ∧
        FileTree.Agree (settings.shelf.Outside desk.files newly) final.files final'.files ∧
        ∀ key, key ∉ newly → final'.cached? key = final.cached? key) ∧
    ∀ patterns patterns', (∀ written, (Glob.parse? written).isSome →
        (written ∈ patterns ↔ written ∈ patterns')) →
      run (settings.reviewing patterns) explorer desk networks =
        run (settings.reviewing patterns') explorer desk networks := by
  refine ⟨fun report final hRun => ?_, fun patterns patterns' hSame =>
    run_reviewing (Settings.covered_congr hSame) settings explorer desk networks⟩
  obtain ⟨last, hInputs, hExec, rfl, rfl⟩ := exec_of_run hRun
  obtain ⟨hSeen, hReadable⟩ := exec_seen hExec
  have hRows := ((records_plan settings desk.files networks).2 hReadable).1
  let newly := newlySuppressed settings added (rows settings desk.files networks)
  have hBeside : Beside settings newly desk.files (start desk).desk (start desk).desk :=
    ⟨⟨known, known, hMemory, hMemory, fun _ _ => rfl⟩, fun _ => rfl, rfl,
      FileTree.Agree.refl _ _, .inl rfl⟩
  have hMem : ∀ record ∈ records (plan settings desk.files networks),
      NewlySuppressed settings added record → keyOf record ∈ newly := fun record hIn hNew =>
    List.mem_map_of_mem (List.mem_filter.mpr ⟨hRows ▸ hIn, decide_eq_true hNew⟩)
  obtain ⟨last', hExec', hLast, events, events', hTrace, hTrace', hThinned⟩ :=
    hBeside.exec hAnswers (orderly_plan settings desk.files [] networks) (by simp [Ready])
      (fun _ => covered_of_mem) hMem hExec
  obtain ⟨recorded, hRecorded, hOutcomes⟩ :=
    exec_trace settings explorer (start desk) (plan settings desk.files networks)
  obtain ⟨asked, hAsked, hContracts⟩ := exec_asks_ok hAnswers hExec
  rw [hExec] at hRecorded hOutcomes
  obtain rfl := List.append_cancel_left (hRecorded.symm.trans hTrace)
  obtain rfl := List.append_cancel_left (hAsked.symm.trans hTrace)
  have hSeenAll : last.seen.map Prod.fst = rows settings desk.files networks := hSeen.trans hRows
  have hRun' : run (settings.suppressing added) explorer desk networks =
      (.ok ⟨last'.summaries⟩, last'.desk) := by
    have hInputs' : checkInputs (settings.suppressing added) desk.files networks = .ok () := hInputs
    rw [run_eq hInputs', plan_suppressing, hExec']
    rfl
  refine ⟨_, last'.desk, asked, events', hRun', hTrace, hTrace', ?_, hThinned.outcomes, ?_, ?_,
    hLast.files, ?_⟩
  · rw [← hSeenAll, hOutcomes]
    rfl
  · rw [hThinned.contracts]
    refine List.filter_congr fun key hKey => ?_
    obtain ⟨_, record, outcome, hIn, hWanted, hSame⟩ := hContracts key hKey
    exact not_covered_eq ⟨record, hSeenAll ▸ List.mem_map_of_mem hIn, hWanted, hSame⟩
  · intro key hKey
    have hSpot := settings.shelf.outside_spot desk.files hKey
    rw [Shelf.kept?_eq, Shelf.kept?_eq, Shelf.spot_of_home hLast.files.home, FileTree.content?,
      FileTree.content?, Shelf.spot_of_home hLast.home, hLast.files.same _ hSpot]
  · intro key hKey
    obtain ⟨answered, answered', hCache, hCache', hSame⟩ := hLast.cached
    rw [Desk.cached?, Desk.cached?, hCache, hCache']
    exact hSame key hKey

end Scan

namespace Scan.Turns

open Settings (covered)

theorem newlySuppressed_files :
    newlySuppressed settings ["0x[B", "*B"] (rows settings files [.poly]) = [⟨.poly, "0xB"⟩] := by
  have hRows : rows settings files [.poly] = [⟨.poly, "0xA", "0.3.0"⟩, ⟨.poly, "0xB", "0.3.0"⟩] := by
    decide +kernel
  have hFirst : ¬ NewlySuppressed settings ["0x[B", "*B"] ⟨.poly, "0xA", "0.3.0"⟩ := by
    rintro ⟨_, hCovered⟩
    have hOpen : covered ["0x[B", "*B"] "0xA" = false := by cbv
    rw [hOpen] at hCovered
    cases hCovered
  have hSecond : NewlySuppressed settings ["0x[B", "*B"] ⟨.poly, "0xB", "0.3.0"⟩ :=
    ⟨by decide +kernel, by cbv⟩
  rw [newlySuppressed, hRows]
  simp [hFirst, hSecond, keyOf]

/-- One of the two contracts is suppressed, by a pattern that follows one which is none. -/
theorem run_suppressing_turns :
    ∃ report report' final final',
      run settings thorough ⟨files, .memory [], keys, (), []⟩ [.poly] = (.ok report, final) ∧
      run (settings.suppressing ["0x[B", "*B"]) thorough ⟨files, .memory [], keys, (), []⟩ [.poly] =
        (.ok report', final') ∧
      (Event.contracts final.trace = [⟨.poly, "0xA"⟩, ⟨.poly, "0xB"⟩] ∧
        Event.contracts final'.trace = [⟨.poly, "0xA"⟩]) ∧
      settings.shelf.kept? final'.files .poly "0xA" = settings.shelf.kept? final.files .poly "0xA" ∧
      run (settings.reviewing ["*B", "0xC", "*B"]) thorough ⟨files, .memory [], keys, (), []⟩ [.poly] =
        run (settings.reviewing ["0xC", "0x[B", "*B"]) thorough ⟨files, .memory [], keys, (), []⟩
          [.poly] := by
  have hAnswers : thorough.Answers fun key =>
      .ok (document (if key.address = "0xA" then vulnerable else "")) := fun _ _ => rfl
  have hAsked : Event.contracts (run settings thorough ⟨files, .memory [], keys, (), []⟩ [.poly]).2.trace =
      [⟨.poly, "0xA"⟩, ⟨.poly, "0xB"⟩] := by decide +kernel
  have hReport : (run settings thorough ⟨files, .memory [], keys, (), []⟩ [.poly]).1.isOk = true := by
    decide +kernel
  obtain ⟨hRuns, hPatterns⟩ := run_suppressing settings ["0x[B", "*B"] thorough
    ⟨files, .memory [], keys, (), []⟩ [.poly] hAnswers rfl
  rcases hRun : run settings thorough ⟨files, .memory [], keys, (), []⟩ [.poly] with ⟨result, final⟩
  rw [hRun] at hAsked hReport
  cases result with
  | error e => cases hReport
  | ok report =>
      obtain ⟨report', final', events, events', hRun', hTrace, hTrace', _, _, hContracts, hKept, _⟩ :=
        hRuns report final hRun
      obtain rfl : events = final.trace := hTrace.symm
      obtain rfl : events' = final'.trace := hTrace'.symm
      simp only [newlySuppressed_files] at hContracts hKept
      refine ⟨report, report', final, final', rfl, hRun', ⟨hAsked, ?_⟩, hKept ⟨.poly, "0xA"⟩ (by decide),
        hPatterns _ _ fun written hWritten => ?_⟩
      · rw [hContracts, hAsked]
        decide
      · have hInvalid : (Glob.parse? "0x[B").isSome = false := by decide +kernel
        have hNe : written ≠ "0x[B" := by
          rintro rfl
          rw [hInvalid] at hWritten
          cases hWritten
        simp [hNe, or_comm]

end Scan.Turns

end LockTriage
