import LockTriage.Proofs.Json.RoundTrip
import LockTriage.Proofs.Scan.History
import LockTriage.Proofs.Scan.Settled

/-!
Scanning again. After a scan that succeeds, the same scan succeeds again without a
query, over the same cache or over its directory opened anew; it changes nothing
and has the same outcomes, but for what was removed the first time.
-/

namespace LockTriage

/-- The counts of the same records when they are processed again. -/
def Tally.settled (t : Tally) : Tally := { t with cleared := 0, safe := t.safe + t.cleared }

def NetworkSummary.settled (s : NetworkSummary) : NetworkSummary := { s with tally := s.tally.settled }

/-- The report of the same scan when it is made again. -/
def Report.settled (r : Report) : Report := ⟨r.summaries.map NetworkSummary.settled⟩

private theorem settled_count (t : Tally) (outcome : Outcome) :
    (t.count outcome).settled = t.settled.count outcome.settled := by
  cases outcome <;> simp [Tally.settled, Tally.count, Outcome.settled] <;> omega

/-- Settling a tally is settling each outcome that it counts. -/
theorem Tally.settled_ofOutcomes (outcomes : List Outcome) :
    (ofOutcomes outcomes).settled = ofOutcomes (outcomes.map Outcome.settled) := by
  have hFold (t : Tally) :
      (outcomes.foldl count t).settled = (outcomes.map Outcome.settled).foldl count t.settled := by
    induction outcomes generalizing t with
    | nil => rfl
    | cons outcome outcomes ih => rw [List.foldl_cons, List.map_cons, List.foldl_cons, ih, settled_count]
  exact hFold zero

namespace Scan

variable {σ τ : Type} {settings : Settings} {explorer : Explorer σ} {desk : Desk σ}
variable {keys : List CacheKey} {record : Record} {outcome : Outcome}
variable {p last : Progress σ} {q : Progress τ} {tasks : List Task} {task : Task}
variable {networks : List Network} {ready : List Network}

/-! ### Carrying out tasks again -/

/-- A settled record is processed without a query, and nothing is changed. -/
theorem Settled.process_again (explorer : Explorer σ)
    (h : Settled settings keys desk.cache desk.files record outcome) :
    ∃ notes, Scan.process settings explorer desk record =
      (.ok outcome.settled, desk.noting notes) := by
  have hNoting : desk.noting [] = desk := by simp [Desk.noting_eq]
  cases h with
  | skipped hOther => exact ⟨[], by simp [Scan.process, hOther, hNoting, Outcome.settled]⟩
  | suppressed hAffected hReviewed =>
      exact ⟨[], by simp [Scan.process, hAffected, hReviewed, hNoting, Outcome.settled]⟩
  | judged hWanted hAddress hMem hKnown hHolds hOutcome =>
      obtain ⟨notes, hFetch⟩ := fetch_known hKnown
      obtain ⟨more, hUpdate⟩ := hHolds.update hAddress
      refine ⟨notes ++ more, ?_⟩
      rw [process_of_wanted hWanted, hFetch, hOutcome]
      simp only [judge_eq, follow, Desk.noting_files, hUpdate]
      simp [Except.map, standing, Desk.noting_eq, Desk.happened]

/-- Tasks have come as far as they had come when they were carried out before. -/
structure Again (p : Progress σ) (q : Progress τ) : Prop where
  outcomes : q.outcomes = p.outcomes.map Outcome.settled
  summaries : q.summaries = p.summaries.map NetworkSummary.settled
  seen : q.seen = p.seen.map fun seen => (seen.1, seen.2.settled)

/-- A task that succeeded succeeds again if its record is settled or its directory is
there, without a query, and changes nothing. -/
theorem perform_again (again : Explorer τ) {next : Progress σ}
    (hTask : perform settings explorer p task = (.ok (), next))
    (hSettled : ∀ record outcome, (record, outcome) ∈ next.seen →
      Settled settings keys q.desk.cache q.desk.files record outcome)
    (hMade : ∀ n, task = .prepare n →
      q.desk.files.isDirectory (settings.shelf.directory n) = true) (hAgain : Again p q) :
    ∃ q' events, perform settings again q task = (.ok (), q') ∧ Again next q' ∧
      q'.desk = q.desk.happened events ∧ Event.queries events = [] := by
  cases performed_of_eq hTask with
  | @made n =>
      simp only [perform, Shelf.prepare_of_isDirectory (hMade n rfl)]
      exact ⟨_, [], rfl, ⟨rfl, hAgain.summaries, hAgain.seen⟩, by simp, rfl⟩
  | @judged record outcome =>
      obtain ⟨notes, hProcess⟩ := (hSettled record outcome (by simp)).process_again again
      simp only [perform, hProcess]
      refine ⟨_, notes.map .noted ++ [.judged record outcome.settled], rfl, ⟨?_, hAgain.summaries, ?_⟩,
        ?_, by simp⟩
      · simp [hAgain.outcomes]
      · simp [hAgain.seen]
      · simp [Desk.noting_eq]
  | concluded n =>
      have hTally : Tally.ofOutcomes q.outcomes = (Tally.ofOutcomes p.outcomes).settled := by
        rw [hAgain.outcomes, Tally.settled_ofOutcomes]
      refine ⟨_, [.noted (.networkScanned ⟨n, Tally.ofOutcomes q.outcomes⟩)], rfl,
        ⟨hAgain.outcomes, ?_, hAgain.seen⟩, rfl, rfl⟩
      simp [hAgain.summaries, NetworkSummary.settled, hTally]

/-- Tasks that succeeded succeed again over what they have left, without a query, and
change nothing. -/
theorem exec_again (again : Explorer τ) (hTasks : Orderly ready tasks)
    (hSettled : AllSettled settings keys last)
    (hFirst : exec settings explorer p tasks = (.ok (), last)) (hAgain : Again p q)
    (hFiles : q.desk.files = last.desk.files) (hCache : q.desk.cache = last.desk.cache) :
    ∃ q' events, exec settings again q tasks = (.ok (), q') ∧ Again last q' ∧
      q'.desk = q.desk.happened events ∧ Event.queries events = [] := by
  rw [exec_eq_ok_iff] at hFirst
  induction hFirst generalizing ready q with
  | done => exact ⟨q, [], rfl, hAgain, by simp, rfl⟩
  | @step p next last task tasks hTask hNext ih =>
      rw [← exec_eq_ok_iff] at hNext
      obtain ⟨ready', hRest⟩ := hTasks.rest hTask
      have hTouches := exec_touches settings explorer hRest next
      obtain ⟨more, _, hSeen⟩ := exec_trace settings explorer next tasks
      rw [hNext] at hTouches hSeen
      have hMade : ∀ n, task = .prepare n →
          q.desk.files.isDirectory (settings.shelf.directory n) = true := by
        intro n hPrepare
        rw [hFiles]
        exact hTouches.toKeepsDirectories.isDirectory (Shelf.plain_network n)
          (isDirectory_of_prepare (hPrepare ▸ hTask))
      have hOnce : ∀ record outcome, (record, outcome) ∈ next.seen →
          Settled settings keys q.desk.cache q.desk.files record outcome := by
        intro record outcome hMem
        rw [hFiles, hCache]
        exact hSettled record outcome (hSeen ▸ List.mem_append_left _ hMem)
      obtain ⟨q', events, hTask', hAgain', hDesk, hQueries⟩ :=
        perform_again again hTask hOnce hMade hAgain
      obtain ⟨q'', later, hLater, hLast, hDesk', hQueries'⟩ := ih hRest hSettled hAgain'
        (by rw [hDesk, Desk.happened_files, hFiles]) (by rw [hDesk, Desk.happened_cache, hCache])
      refine ⟨q'', events ++ later, by rw [exec_cons_ok hTask', hLater], hLast, ?_, ?_⟩
      · rw [hDesk', hDesk, Desk.happened_happened]
      · rw [Event.queries_append, hQueries, hQueries', List.append_nil]

/-! ### Opening the cache again -/

/-- No directory on the way to a network's directory on the shelf is in the cache. -/
def Aside (settings : Settings) (cache : Cache) (t : FileTree) : Prop :=
  ∀ network, ∀ path ∈ (settings.shelf.directory network).ancestors, ¬ cache.Inside t (t.location path)

theorem Aside.of_home {cache : Cache} {t t' : FileTree} (h : Aside settings cache t)
    (hHome : t'.home = t.home) : Aside settings cache t' := by
  intro network path hPath
  rw [FileTree.location_of_home hHome, Cache.inside_of_home hHome]
  exact h network path hPath

/-- A fetch leaves the cache aside from the shelf. -/
theorem Aside.fetch (h : Aside settings desk.cache desk.files) (explorer : Explorer σ)
    (network : Network) (address : String) :
    Aside settings (fetch explorer desk network address).2.cache
      (fetch explorer desk network address).2.files := by
  intro n path hPath
  rw [fetch_inside, FileTree.location_of_home (fetch_alters explorer desk network address).home]
  exact h n path hPath

/-- A record that was processed leaves a cache that can be opened again. -/
theorem opens_process {desk' : Desk σ} (h : desk.cache.Opens desk.files)
    (hApart : desk.cache.Apart desk.files settings.outputDir)
    (hAddress : '/' ∉ record.address.toList)
    (hDir : desk.files.isDirectory (settings.shelf.directory record.network) = true)
    (hProcess : process settings explorer desk record = (.ok outcome, desk')) :
    desk'.cache.Opens desk'.files := by
  have hCases := processed settings explorer desk record
  generalize hResult : process settings explorer desk record = result at hCases
  cases hCases with
  | skipped =>
      cases hResult.symm.trans hProcess
      exact h
  | suppressed =>
      cases hResult.symm.trans hProcess
      exact h
  | unfetched => cases hResult.symm.trans hProcess
  | @judged found middle hWanted hFetch =>
      have hOpens := fetch_opens h (congrArg Prod.fst hFetch)
      have hApart' := fetch_apart explorer record.network record.address hApart
      have hAlters := fetch_alters explorer desk record.network record.address
      rw [hFetch] at hOpens hApart' hAlters
      have hDir' := hAlters.toKeepsDirectories.isDirectory (Shelf.plain_network record.network) hDir
      obtain ⟨change, notes, hFollow, _, hCache⟩ := follow_of_judge (hResult.symm.trans hProcess)
      rw [hCache]
      refine hOpens.of_alters (Shelf.update_alters hDir' hAddress hFollow) fun loc hInside hSpot => ?_
      exact hApart' loc hInside (hSpot ▸ Shelf.spot_below settings.shelf _ _ _)

/-- A task that succeeds leaves a cache that can be opened again. -/
theorem opens_perform {next : Progress σ} (h : p.desk.cache.Opens p.desk.files)
    (hApart : p.desk.cache.Apart p.desk.files settings.outputDir)
    (hAside : Aside settings p.desk.cache p.desk.files) (hPlain : task.Plain)
    (hDir : ∀ record, task = .judge record →
      p.desk.files.isDirectory (settings.shelf.directory record.network) = true)
    (hTask : perform settings explorer p task = (.ok (), next)) :
    next.desk.cache.Opens next.desk.files := by
  cases performed_of_eq hTask with
  | @made n files hMade =>
      have hAlters := FileTree.makeDirectories_alters_ancestors (Shelf.prepare_eq_ok hMade)
      refine h.of_alters hAlters ?_
      rintro loc hInside ⟨path, hPath, rfl⟩
      exact hAside n path hPath hInside
  | judged hProcess =>
      have hOpens := opens_process h hApart hPlain (hDir _ rfl) hProcess
      exact hOpens
  | concluded => exact h

/-- Tasks that succeed leave a cache that can be opened again. -/
theorem opens_exec (hTasks : Orderly ready tasks) (hReady : Ready settings p.desk.files ready)
    (h : p.desk.cache.Opens p.desk.files)
    (hApart : p.desk.cache.Apart p.desk.files settings.outputDir)
    (hAside : Aside settings p.desk.cache p.desk.files)
    (hExec : exec settings explorer p tasks = (.ok (), last)) :
    last.desk.cache.Opens last.desk.files := by
  rw [exec_eq_ok_iff] at hExec
  induction hExec generalizing ready with
  | done => exact h
  | step hTask _ ih =>
      have hApart' := perform_apart settings explorer hTasks.head hApart
      have hAside' := perform_keeps settings (P := Aside settings) hTasks.head
        (fun _ _ _ hHome hAside => hAside.of_home hHome)
        (fun record _ _ => hAside.fetch explorer record.network record.address) hAside
      rw [hTask] at hApart' hAside'
      obtain ⟨ready', hRest, hReady'⟩ := hTasks.step hReady hTask
      exact ih hRest hReady'
        (opens_perform h hApart hAside hTasks.head (hTasks.directory hReady) hTask) hApart' hAside'

/-! ### A scan made again -/

/-- A scan that succeeds has carried out all its tasks. -/
theorem exec_of_run {report : Report} {final : Desk σ}
    (h : run settings explorer desk networks = (.ok report, final)) :
    ∃ last, checkInputs settings desk.files networks = .ok () ∧
      exec settings explorer (start desk) (plan settings desk.files networks) = (.ok (), last) ∧
      last.desk = final ∧ report = ⟨last.summaries⟩ := by
  cases hInputs : checkInputs settings desk.files networks with
  | error e =>
      rw [(run_of_missing explorer hInputs).1] at h
      cases h
  | ok _ =>
      rw [run_eq hInputs] at h
      rcases hExec : exec settings explorer (start desk) (plan settings desk.files networks) with
        ⟨result, last⟩
      rw [hExec] at h
      cases result with
      | error e => cases h
      | ok _ =>
          cases h
          exact ⟨last, rfl, rfl, rfl, rfl⟩

/-- Keys that cover the rows of a scan cover its plan. -/
theorem covers_plan {t : FileTree} (h : ∀ record ∈ rows settings t networks,
    Wanted settings record → keyOf record ∈ keys) : Covers settings keys (plan settings t networks) :=
  fun record hMem => h record ((records_plan settings t networks).1.subset hMem)

/-- A scan all of whose records are settled in what it has left is made again without a
query, and has the same outcomes. -/
theorem run_of_settled (hInputs : checkInputs settings desk.files networks = .ok ())
    (hExec : exec settings explorer (start desk) (plan settings desk.files networks) = (.ok (), last))
    (hSettled : AllSettled settings keys last) (again : Explorer τ) {next : Desk τ}
    (hFiles : next.files = last.desk.files) (hCache : next.cache = last.desk.cache) :
    ∃ more, run settings again next networks =
        (.ok (Report.settled ⟨last.summaries⟩), next.happened more) ∧
      Event.queries more = [] ∧
      Event.outcomes more = last.seen.map fun seen => (seen.1, seen.2.settled) := by
  have hTasks := orderly_plan settings desk.files [] networks
  have hTouches := run_touches settings explorer desk networks
  rw [run_eq hInputs, hExec, ← hFiles] at hTouches
  have hStart : Again (start desk) (start next) := ⟨rfl, rfl, rfl⟩
  obtain ⟨q, more, hAll, hAgain, hDesk, hQueries⟩ :=
    exec_again again hTasks hSettled hExec hStart hFiles hCache
  obtain ⟨recorded, hMore, hSeen⟩ := exec_trace settings again (start next)
    (plan settings desk.files networks)
  rw [hAll, hDesk] at hMore
  rw [hAll, hAgain.seen] at hSeen
  obtain rfl : more = recorded := List.append_cancel_left hMore
  refine ⟨more, ?_, hQueries, hSeen.symm⟩
  rw [run_eq_of_touches hTouches hInputs, hAll, hDesk, hAgain.summaries]
  rfl

/-- A scan that succeeded succeeds whenever it is made again over what it has left,
whatever explorer there is then. There are no queries, no key is drawn and no file
and no answer changes; the same records are observed with the same outcomes, but
for a source that was removed, and the counts agree with that. From then on the
report stays as it is. If the cache could be opened from its directory before the
scan, it can be opened again after it. -/
theorem run_again (settings : Settings) (explorer : Explorer σ) (desk : Desk σ)
    (networks : List Network) (keys : List CacheKey) {report : Report} {final : Desk σ}
    (hRun : run settings explorer desk networks = (.ok report, final))
    (hApart : desk.cache.Apart desk.files settings.outputDir)
    (hUnshared : desk.cache.Unshared desk.files keys) (hLasts : explorer.Lasts keys desk.cache)
    (hKeys : ∀ record ∈ rows settings desk.files networks,
      Wanted settings record → keyOf record ∈ keys) :
    (∃ events, final.trace = desk.trace ++ events ∧
      ∀ {τ : Type} (again : Explorer τ) (next : Desk τ), next.files = final.files →
        next.cache = final.cache →
        ∃ more, run settings again next networks = (.ok report.settled, next.happened more) ∧
          Event.queries more = [] ∧
          Event.outcomes more =
            (Event.outcomes events).map (fun seen => (seen.1, seen.2.settled)) ∧
          ∀ {υ : Type} (third : Explorer υ) (later : Desk υ),
            later.files = (next.happened more).files → later.cache = (next.happened more).cache →
            (run settings third later networks).1 = .ok report.settled) ∧
      (desk.cache.Opens desk.files → Aside settings desk.cache desk.files →
        final.cache.Opens final.files) := by
  obtain ⟨last, hInputs, hExec, rfl, rfl⟩ := exec_of_run hRun
  have hTasks := orderly_plan settings desk.files [] networks
  have hReady : Ready settings (start desk).desk.files [] := by simp [Ready]
  have hSound : Sound settings explorer keys (start desk).desk.cache (start desk).desk.files :=
    ⟨⟨hApart, hUnshared⟩, hLasts⟩
  have hNone : AllSettled settings keys (start desk) := fun _ _ hMem => by cases hMem
  obtain ⟨_, hSettled⟩ := exec_settled hTasks (covers_plan hKeys) hReady hSound hNone hExec
  obtain ⟨events, hTrace, hSeen⟩ := exec_trace settings explorer (start desk)
    (plan settings desk.files networks)
  rw [hExec] at hTrace hSeen
  have hEvents : Event.outcomes events = last.seen := hSeen.symm
  refine ⟨⟨events, hTrace, fun again next hFiles hCache => ?_⟩, fun hOpens hAside => ?_⟩
  · obtain ⟨more, hAgain, hQueries, hObserved⟩ :=
      run_of_settled hInputs hExec hSettled again hFiles hCache
    refine ⟨more, hAgain, hQueries, by rw [hObserved, hEvents], fun third later hFiles' hCache' => ?_⟩
    obtain ⟨_, hThird, _, _⟩ := run_of_settled hInputs hExec hSettled third (hFiles'.trans hFiles)
      (hCache'.trans hCache)
    rw [hThird]
  · exact opens_exec hTasks hReady hOpens hApart hAside hExec

end Scan

namespace Scan.Turns

/-- An explorer that has every source. One of them is vulnerable. -/
def thorough : Explorer Unit where
  endpoint := Network.defaultApiUrl
  answer query state :=
    (.ok (document (if query.address = "0xA" then vulnerable else "")), state)

/-- An explorer that is out of order. -/
def silent : Explorer Unit where
  endpoint := Network.defaultApiUrl
  answer _ state := (.error (.status 503), state)

def both : List CacheKey := [⟨.poly, "0xA"⟩, ⟨.poly, "0xB"⟩]

/-- The answers of the example are documents that can be read back. -/
theorem readable_document (source : String) : Json.Readable Json.depthLimit (document source) := by
  change Json.Readable (123 + 1 + 1 + 1 + 1) (document source)
  refine .object (List.pairwise_singleton _ _) fun m hm => ?_
  obtain rfl := List.mem_singleton.mp hm
  refine .list fun item hi => ?_
  obtain rfl := List.mem_singleton.mp hi
  have hOrder : "CompilerVersion" < "SourceCode" := by decide
  refine .object (List.pairwise_pair.mpr hOrder) fun m hm => ?_
  simp only [List.mem_cons, List.not_mem_nil, or_false] at hm
  rcases hm with rfl | rfl
  · exact .text _ _
  · exact .text _ _

/-- The answers of the example last in any cache. -/
theorem lasting_document (c : DiskCache) (key : CacheKey) (source : String) (hKey : key ∈ both)
    (hSource : source ∈ [vulnerable, ""]) : (Cache.disk c).Lasting key (document source) := by
  have hFits : ∀ key ∈ both, ∀ source ∈ [vulnerable, ""],
      Artifact.Fits ⟨key.text, (document source).render⟩ := by decide +kernel
  exact ⟨⟨_, (readable_document source).parse?_render⟩, hFits key hKey source hSource⟩

theorem unshared_first : first.cache.Unshared first.files both :=
  DiskCache.unshared_of_own first.files (by decide +kernel) (by simp [both])

theorem apart_first : first.cache.Apart first.files ⟨"out"⟩ :=
  Cache.apart_disk (by decide +kernel) (by decide +kernel)

theorem aside_first : Aside settings first.cache first.files := by
  have hAside : ∀ network ∈ Network.all, ∀ path ∈ (settings.shelf.directory network).ancestors,
      ¬ first.files.location ⟨"cache"⟩ <+: first.files.location path := by decide +kernel
  exact fun network => hAside network network.mem_all

theorem keyOf_rows_mem : ∀ record ∈ rows settings first.files [.poly], keyOf record ∈ both := by
  decide +kernel

theorem opens_first : first.cache.Opens first.files := by
  have hOpen : DiskCache.load files ⟨"cache"⟩ =
      (.ok ⟨⟨"cache"⟩, []⟩, first.files, (DiskCache.load files ⟨"cache"⟩).2.2) :=
    Prod.ext (by decide +kernel) rfl
  exact DiskCache.opens_of_load hOpen

/-- A scan that flags one contract and removes the file of another, and the same scan
with no explorer and no keys. -/
theorem run_again_turns :
    ∃ report final, run settings thorough first [.poly] = (.ok report, final) ∧
      report = ⟨[⟨.poly, ⟨2, 0, 0, 1, 1, 0⟩⟩]⟩ ∧
      (run settings silent ⟨final.files, final.cache, KeyRing.empty, (), []⟩ [.poly]).1 =
        .ok ⟨[⟨.poly, ⟨2, 0, 0, 1, 0, 1⟩⟩]⟩ ∧
      final.cache.Opens final.files := by
  have hReport : (run settings thorough first [.poly]).1.toOption =
      some ⟨[⟨.poly, ⟨2, 0, 0, 1, 1, 0⟩⟩]⟩ := by decide +kernel
  have hLasts : thorough.Lasts both first.cache := by
    intro query state response hKey hAnswer
    obtain rfl := Except.ok.inj hAnswer
    exact lasting_document _ _ _ hKey (by split <;> simp)
  rcases hRun : run settings thorough first [.poly] with ⟨result, final⟩
  rw [hRun] at hReport
  cases result with
  | error e => cases hReport
  | ok report =>
      obtain rfl := Option.some.inj hReport
      obtain ⟨⟨events, _, hAgain⟩, hOpens⟩ := run_again settings thorough first [.poly] both hRun
        apart_first unshared_first hLasts fun record hMem _ => keyOf_rows_mem record hMem
      obtain ⟨more, hNext, _⟩ :=
        hAgain silent ⟨final.files, final.cache, KeyRing.empty, (), []⟩ rfl rfl
      exact ⟨_, final, rfl, rfl, by rw [hNext]; rfl,
        hOpens opens_first aside_first⟩

end Scan.Turns

end LockTriage
