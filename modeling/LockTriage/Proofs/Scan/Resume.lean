import LockTriage.Proofs.Scan.Again
import LockTriage.Proofs.Scan.Asked

/-!
Resuming a scan. When the explorer lets a scan down, whatever it has answered by
then is on the disk: a second scan over the cache opened anew asks only for what
is missing, and ends where a single scan would have ended.
-/

namespace LockTriage

namespace Scan

variable {σ τ : Type} {settings : Settings} {explorer : Explorer σ} {better : Explorer τ}
variable {answers answers' : CacheKey → Except QueryFault Json}
variable {desk : Desk σ} {p : Progress σ}

/-! ### A scan that is resumed -/

/-- The cache is on the disk, in some directory. -/
def OnDisk (directory : Path) (cache : Cache) : Prop :=
  ∃ c : DiskCache, cache = .disk c ∧ c.directory = directory

theorem onDisk_fetch {directory : Path} {network : Network} {address : String}
    (h : OnDisk directory desk.cache) :
    OnDisk directory (fetch explorer desk network address).2.cache := by
  obtain ⟨c, hCache, rfl⟩ := h
  rcases fetch_stores explorer desk network address with
    ⟨hSame, _⟩ | ⟨_, _, response, _, _, _, _, hPut, _, _⟩
  · exact ⟨c, hSame.trans hCache, rfl⟩
  · rw [hCache, Cache.put_disk] at hPut
    exact ⟨_, hPut, DiskCache.put_directory _ _ _ _⟩

/-- Some tasks were done, and then one more failed. Over what they have left, the same
tasks end as all of them would have ended at once, and ask for the rest. -/
theorem exec_resumed {keys : List CacheKey} {done : List Task} {last : Progress σ}
    {events : List Event} (again whole : Progress τ) (rest : List Task)
    (hAnswers : explorer.Answers answers)
    (hAnswers' : better.Answers answers') (hTasks : Orderly [] done)
    (hSettled : AllSettled settings keys last)
    (hDone : exec settings explorer p done = (.ok (), last))
    (hEvents : last.desk.trace = p.desk.trace ++ events)
    (hSame : ∀ key ∈ Event.contracts events, answers' key = answers key)
    (hAgain : Again p again) (hLeft : Alike last.desk again.desk) (hWhole : Alike p.desk whole.desk) :
    ∃ more all, (exec settings better again (done ++ rest)).2.desk.trace = again.desk.trace ++ more ∧
      (exec settings better whole (done ++ rest)).2.desk.trace = whole.desk.trace ++ all ∧
      Event.contracts events ++ Event.contracts more = Event.contracts all ∧
      (exec settings better again (done ++ rest)).1 = (exec settings better whole (done ++ rest)).1 ∧
      Alike (exec settings better whole (done ++ rest)).2.desk
        (exec settings better again (done ++ rest)).2.desk := by
  obtain ⟨resumed, silent, hResumed, _, hDesk, hQueries⟩ :=
    exec_again better hTasks hSettled hDone hAgain hLeft.files hLeft.cache
  obtain ⟨asked, hAsked, hContracts, hResult, hAlike⟩ :=
    exec_alike hAnswers hAnswers' hWhole hSame (by rw [hDone]; exact hEvents)
  rcases hOnce : exec settings better whole done with ⟨result, middle⟩
  rw [hDone, hOnce] at hResult hAlike
  rw [hOnce] at hAsked
  obtain rfl : result = .ok () := hResult
  have hMiddle : Alike middle.desk resumed.desk := by
    refine ⟨?_, ?_, fun n => ?_⟩
    · rw [hDesk, Desk.happened_files, hLeft.files, hAlike.files]
    · rw [hDesk, Desk.happened_cache, hLeft.cache, hAlike.cache]
    · rw [hDesk, Desk.happened_keys, hLeft.keys, hAlike.keys]
  obtain ⟨later, hLater, _⟩ := exec_trace settings better middle rest
  obtain ⟨more, hMore, hContracts', hResult', hLast⟩ :=
    exec_alike hAnswers' hAnswers' hMiddle (fun _ _ => rfl) hLater
  rw [exec_append_ok hResumed, exec_append_ok hOnce]
  refine ⟨silent ++ more, asked ++ later, ?_, ?_, ?_, hResult', hLast⟩
  · rw [hMore, hDesk, Desk.happened_trace, List.append_assoc]
  · rw [hLater, show middle.desk.trace = whole.desk.trace ++ asked from hAsked, List.append_assoc]
  · have hSilent : Event.contracts silent = [] := by rw [Event.contracts, hQueries, List.map_nil]
    rw [Event.contracts_append, Event.contracts_append, hSilent, hContracts, hContracts',
      List.nil_append]

/-- A scan that fails, but not for lack of an export, has carried out its tasks up to
one of them, which failed. -/
theorem exec_of_failed {networks : List Network} {e : ScanError} {failed : Desk σ}
    (hInputs : checkInputs settings desk.files networks = .ok ())
    (h : run settings explorer desk networks = (.error e, failed)) :
    ∃ done task later last final, plan settings desk.files networks = done ++ task :: later ∧
      exec settings explorer (start desk) done = (.ok (), last) ∧
      perform settings explorer last task = (.error e, final) ∧ final.desk = failed := by
  rw [run_eq hInputs] at h
  rcases hExec : exec settings explorer (start desk) (plan settings desk.files networks) with
    ⟨result, final⟩
  rw [hExec] at h
  cases result with
  | ok _ => cases h
  | error failure =>
      cases h
      obtain ⟨done, task, later, last, hPlan, hDone, hTask⟩ := exec_eq_error hExec
      exact ⟨done, task, later, last, final, hPlan, hDone, hTask, rfl⟩

/-- How a scan has come to a halt: some tasks are done, what they have got is on the
disk, and the next one has failed with nothing to show for it. -/
structure Halted (settings : Settings) (explorer : Explorer σ)
    (answers : CacheKey → Except QueryFault Json) (keys : List CacheKey) (directory : Path)
    (desk failed : Desk σ) (done : List Task) (last : Progress σ) (asked tried : List Event) :
    Prop where
  orderly : Orderly [] done
  exec : exec settings explorer (start desk) done = (.ok (), last)
  separate : Separate settings keys last.desk.cache last.desk.files
  settled : AllSettled settings keys last
  opens : last.desk.cache.Opens last.desk.files
  onDisk : OnDisk directory last.desk.cache
  files : failed.files = last.desk.files
  recorded : last.desk.trace = desk.trace ++ asked
  failed : failed.trace = desk.trace ++ (asked ++ tried)
  useful : ∀ key ∈ Event.contracts asked, hasSource (answers key) = true ∧
    ∃ record outcome, (record, outcome) ∈ last.seen ∧ Wanted settings record ∧ keyOf record = key
  useless : ∀ key ∈ Event.contracts tried, hasSource (answers key) = false

section Halted

variable {networks : List Network} {keys : List CacheKey} {c : DiskCache} {e : ScanError}
variable {failed : Desk σ} {done : List Task} {last : Progress σ} {asked tried : List Event}

theorem halted (hAnswers : explorer.Answers answers)
    (hInputs : checkInputs settings desk.files networks = .ok ())
    (hRun : run settings explorer desk networks = (.error e, failed))
    (hError : ∀ path fault, e ≠ .file path fault) (hCache : desk.cache = .disk c)
    (hOpens : c.Opens desk.files) (hAside : Aside settings desk.cache desk.files)
    (hSound : Sound settings explorer keys desk.cache desk.files)
    (hCovers : Covers settings keys (plan settings desk.files networks)) :
    ∃ done rest last asked tried, plan settings desk.files networks = done ++ rest ∧
      Halted settings explorer answers keys c.directory desk failed done last asked tried := by
  obtain ⟨done, task, later, last, final, hPlan, hDone, hTask, rfl⟩ := exec_of_failed hInputs hRun
  have hTasks := orderly_plan settings desk.files [] networks
  rw [hPlan] at hTasks hCovers
  have hDoneTasks : Orderly [] done := by simpa using hTasks.take done.length
  have hDoneCovers : Covers settings keys done := fun record hMem =>
    hCovers record (by rw [records_append]; exact List.mem_append_left _ hMem)
  have hReady : Ready settings (start desk).desk.files [] := by simp [Ready]
  have hNone : AllSettled settings keys (start desk) := fun _ _ hMem => by cases hMem
  obtain ⟨hLast, hSettled⟩ := exec_settled hDoneTasks hDoneCovers hReady hSound hNone hDone
  have hStart : (start desk).desk.cache.Opens (start desk).desk.files := by
    rw [show (start desk).desk.cache = .disk c from hCache]
    exact hOpens
  have hOnDisk := exec_keeps settings explorer (start desk)
    (P := fun cache _ => OnDisk c.directory cache) hDoneTasks (fun _ _ _ _ h => h)
    (fun _ _ _ h => onDisk_fetch h) ⟨c, hCache, rfl⟩
  rw [hDone] at hOnDisk
  obtain ⟨asked, hAsked, hUseful⟩ := exec_asks_ok hAnswers hDone
  obtain ⟨hFiles, _, tried, hTried, hUseless⟩ := perform_asks_error hAnswers hTask hError
  refine ⟨done, task :: later, last, asked, tried, hPlan, hDoneTasks, hDone, hLast.toSeparate,
    hSettled, opens_exec hDoneTasks hReady hStart hSound.apart hAside hDone, hOnDisk, hFiles, hAsked,
    ?_, hUseful, hUseless⟩
  rw [hTried, hAsked, List.append_assoc]
  rfl

/-- The contracts whose sources were got are those that the tasks which are done have
asked for. -/
theorem Halted.filter_contracts
    (h : Halted settings explorer answers keys c.directory desk failed done last asked tried) :
    (Event.contracts (asked ++ tried)).filter (fun key => hasSource (answers key)) =
      Event.contracts asked := by
  rw [Event.contracts_append, List.filter_append, List.filter_eq_self.mpr,
    List.filter_eq_nil_iff.mpr, List.append_nil]
  · exact fun key hKey => by simp [h.useless key hKey]
  · exact fun key hKey => (h.useful key hKey).1

/-- No contract whose source was got is asked for by any tasks at a desk with the same
files and the same cache. -/
theorem Halted.unasked (better : Explorer τ)
    (h : Halted settings explorer answers keys c.directory desk failed done last asked tried)
    {resumed : Desk τ} (hAlike : Alike last.desk resumed) {tasks : List Task}
    (hTasks : Orderly [] tasks) (hCovers : Covers settings keys tasks) {key : CacheKey}
    (hKey : key ∈ Event.contracts asked) :
    ∃ events, (Scan.exec settings better (start resumed) tasks).2.desk.trace =
        resumed.trace ++ events ∧ key ∉ Event.contracts events := by
  obtain ⟨_, record, outcome, hSeen, hWanted, rfl⟩ := h.useful key hKey
  obtain ⟨hMem, found, hKnown⟩ := (h.settled record outcome hSeen).known hWanted
  have hSeparate := h.separate
  rw [← hAlike.files, ← hAlike.cache] at hKnown hSeparate
  exact exec_unasked settings better (start resumed) hTasks hCovers hSeparate hMem hKnown

end Halted

/-- A scan that the explorer lets down can be resumed. The cache on the disk opens as
the scan left it, and a second scan over it, with an explorer that gives the answers
that were useful again, asks for no contract whose source was got. The contracts
whose sources were got and those that the second scan asks for are, in this order,
those that a single scan with the second explorer would have asked for. The second
scan succeeds or fails as the single one would have, and leaves the same files and
the same cache. -/
theorem run_resumed (settings : Settings) {networks : List Network} {keys : List CacheKey}
    {c : DiskCache} {e : ScanError} {failed : Desk σ} {events : List Event}
    (hAnswers : explorer.Answers answers) (hAnswers' : better.Answers answers')
    (hRun : run settings explorer desk networks = (.error e, failed))
    (hError : ∀ path fault, e ≠ .file path fault)
    (hTrace : failed.trace = desk.trace ++ events)
    (hSame : ∀ key ∈ Event.contracts events, hasSource (answers key) = true →
      answers' key = answers key)
    (hCache : desk.cache = .disk c) (hOpens : c.Opens desk.files)
    (hApart : desk.cache.Apart desk.files settings.outputDir)
    (hAside : Aside settings desk.cache desk.files)
    (hUnshared : desk.cache.Unshared desk.files keys) (hLasts : explorer.Lasts keys desk.cache)
    (hKeys : ∀ record ∈ rows settings desk.files networks,
      Wanted settings record → keyOf record ∈ keys) :
    ∃ opened notes,
      DiskCache.load failed.files c.directory = (.ok opened, failed.files, notes) ∧
      ∀ resumed whole : Desk τ, resumed.files = failed.files → resumed.cache = .disk opened →
        (∀ n, resumed.keys.contains n = desk.keys.contains n) → Alike desk whole →
        ∃ more all, (run settings better resumed networks).2.trace = resumed.trace ++ more ∧
          (run settings better whole networks).2.trace = whole.trace ++ all ∧
          (∀ key ∈ Event.contracts events, hasSource (answers key) = true →
            key ∉ Event.contracts more) ∧
          (Event.contracts events).filter (fun key => hasSource (answers key)) ++
            Event.contracts more = Event.contracts all ∧
          ((run settings better resumed networks).1.isOk = true →
            ∀ key ∈ Event.contracts more, hasSource (answers' key) = true) ∧
          (run settings better resumed networks).1.map (fun _ => ()) =
            (run settings better whole networks).1.map (fun _ => ()) ∧
          (run settings better resumed networks).2.files =
            (run settings better whole networks).2.files ∧
          (run settings better resumed networks).2.cache =
            (run settings better whole networks).2.cache := by
  cases hInputs : checkInputs settings desk.files networks with
  | error failure =>
      -- An export is missing, so neither scan does anything.
      rw [(run_of_missing explorer hInputs).1] at hRun
      cases hRun
      obtain rfl : events = [] := by simpa using hTrace
      obtain ⟨notes, hLoad⟩ := hOpens
      refine ⟨c, notes, hLoad, fun resumed whole hFiles hDisk _ hWhole => ?_⟩
      rw [← hFiles] at hInputs
      have hInputs' : checkInputs settings whole.files networks = .error e := by
        rw [hWhole.files, ← hFiles, hInputs]
      rw [(run_of_missing better hInputs).1, (run_of_missing better hInputs').1]
      refine ⟨[], [], by simp, by simp, by simp, by simp, by simp, rfl, ?_, ?_⟩
      · rw [hFiles, hWhole.files]
      · rw [hDisk, hWhole.cache, hCache]
  | ok _ =>
      have hTasks := orderly_plan settings desk.files [] networks
      have hCovers : Covers settings keys (plan settings desk.files networks) := covers_plan hKeys
      have hTouches := run_touches settings explorer desk networks
      rw [hRun] at hTouches
      obtain ⟨done, rest, last, asked, tried, hPlan, h⟩ := halted hAnswers hInputs hRun hError hCache
        hOpens hAside ⟨⟨hApart, hUnshared⟩, hLasts⟩ hCovers
      obtain rfl : events = asked ++ tried := List.append_cancel_left (hTrace.symm.trans h.failed)
      obtain ⟨opened, hOpened, hDirectory⟩ := h.onDisk
      obtain ⟨notes, hLoad⟩ : opened.Opens last.desk.files := by
        have hLast := h.opens
        rwa [hOpened] at hLast
      refine ⟨opened, notes, by rw [h.files, ← hDirectory, hLoad],
        fun resumed whole hLeft hDisk hKeyed hWhole => ?_⟩
      have hAlike : Alike last.desk resumed := by
        refine ⟨hLeft.trans h.files, hDisk.trans hOpened.symm, fun n => ?_⟩
        have hSameKeys := exec_contains settings explorer (start desk) done n
        rw [h.exec] at hSameKeys
        exact (hKeyed n).trans hSameKeys.symm
      have hAgreed : ∀ key ∈ Event.contracts asked, answers' key = answers key := fun key hKey =>
        hSame key (by simp [hKey]) (h.useful key hKey).1
      rw [← hLeft] at hTouches
      rw [run_eq_of_touches hTouches hInputs,
        run_eq_of_touches (hWhole.files ▸ FileTree.Touches.refl _) hInputs]
      rw [hPlan] at hTasks hCovers ⊢
      obtain ⟨more, all, hMore, hAll, hContracts, hResult, hLast⟩ := exec_resumed (start resumed)
        (start whole) rest hAnswers hAnswers' h.orderly h.settled h.exec h.recorded hAgreed
        ⟨rfl, rfl, rfl⟩ hAlike hWhole
      refine ⟨more, all, hMore, hAll, fun key hKey hSource => ?_, ?_, fun hOk key hKey => ?_, ?_,
        hLast.files, hLast.cache⟩
      · have hGot : key ∈ Event.contracts asked := by
          rw [← h.filter_contracts]
          exact List.mem_filter.mpr ⟨hKey, hSource⟩
        obtain ⟨recorded, hRecorded, hNot⟩ := Halted.unasked better h hAlike hTasks hCovers hGot
        rwa [List.append_cancel_left (hMore.symm.trans hRecorded)]
      · rw [h.filter_contracts, hContracts]
      · rcases hExec : exec settings better (start resumed) (done ++ rest) with ⟨result, final⟩
        rw [hExec] at hOk hMore
        cases result with
        | error failure => cases hOk
        | ok _ =>
            obtain ⟨recorded, hRecorded, hUseful⟩ := exec_asks_ok hAnswers' hExec
            obtain rfl := List.append_cancel_left (hMore.symm.trans hRecorded)
            exact (hUseful key hKey).1
      · simp only [hResult]
        cases (exec settings better (start whole) (done ++ rest)).1 <;> rfl

end Scan

namespace Scan.Turns

/-- The first contract is flagged, and then the explorer has nothing for the second.
The scan is resumed with an explorer that has, and asks for the second alone. -/
theorem run_resumed_turns :
    ∃ failed opened notes, run settings (explorer "0xA" vulnerable) first [.poly] =
        (.error (.status .poly "0xB" 500), failed) ∧
      DiskCache.load failed.files ⟨"cache"⟩ = (.ok opened, failed.files, notes) ∧
      Event.contracts (run settings thorough ⟨failed.files, .disk opened, keys, (), []⟩
        [.poly]).2.trace = [⟨.poly, "0xB"⟩] ∧
      (run settings thorough ⟨failed.files, .disk opened, keys, (), []⟩ [.poly]).2.files =
        (run settings thorough first [.poly]).2.files := by
  have hError : (run settings (explorer "0xA" vulnerable) first [.poly]).1 =
      .error (.status .poly "0xB" 500) := by decide +kernel
  have hAsked : Event.contracts (run settings (explorer "0xA" vulnerable) first [.poly]).2.trace =
      [⟨.poly, "0xA"⟩, ⟨.poly, "0xB"⟩] := by decide +kernel
  have hWhole : Event.contracts (run settings thorough first [.poly]).2.trace =
      [⟨.poly, "0xA"⟩, ⟨.poly, "0xB"⟩] := by decide +kernel
  have hLasts : (explorer "0xA" vulnerable).Lasts both first.cache := by
    intro query state response hKey hAnswer
    by_cases hAddress : query.address = "0xA"
    · simp only [explorer, hAddress, if_true, Except.ok.injEq] at hAnswer
      subst hAnswer
      exact lasting_document _ _ _ hKey (by simp)
    · simp [explorer, hAddress] at hAnswer
  rcases hRun : run settings (explorer "0xA" vulnerable) first [.poly] with ⟨result, failed⟩
  rw [hRun] at hError hAsked
  obtain rfl : result = .error (.status .poly "0xB" 500) := hError
  have hTrace : failed.trace = first.trace ++ failed.trace := rfl
  have hAnswers : (explorer "0xA" vulnerable).Answers fun key =>
      if key.address = "0xA" then .ok (document vulnerable) else .error (.status 500) :=
    fun _ _ => rfl
  have hAnswers' : thorough.Answers fun key =>
      .ok (document (if key.address = "0xA" then vulnerable else "")) := fun _ _ => rfl
  obtain ⟨opened, notes, hLoad, hResumed⟩ := run_resumed settings hAnswers hAnswers' hRun (by simp)
    hTrace (fun key _ hSource => by
      by_cases hAddress : key.address = "0xA"
      · simp [hAddress]
      · simp [hAddress, hasSource] at hSource)
    rfl opens_first apart_first aside_first unshared_first hLasts
    fun record hMem _ => keyOf_rows_mem record hMem
  refine ⟨failed, opened, notes, rfl, hLoad, ?_⟩
  obtain ⟨more, all, hMore, hAll, _, hContracts, _, _, hFiles, _⟩ :=
    hResumed ⟨failed.files, .disk opened, keys, (), []⟩ first rfl rfl (fun _ => rfl)
      ⟨rfl, rfl, fun _ => rfl⟩
  refine ⟨?_, hFiles⟩
  rw [hMore, List.nil_append]
  rw [hAll, show first.trace = [] from rfl, List.nil_append] at hWhole
  rw [hWhole, show Event.contracts failed.trace = _ from hAsked] at hContracts
  have hGot : ([⟨.poly, "0xA"⟩, ⟨.poly, "0xB"⟩] : List CacheKey).filter (fun key => hasSource
      (if key.address = "0xA" then .ok (document vulnerable) else .error (.status 500))) =
        [⟨.poly, "0xA"⟩] := by decide +kernel
  rw [hGot] at hContracts
  exact (List.cons.inj hContracts).2

end Scan.Turns

end LockTriage
