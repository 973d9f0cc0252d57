import LockTriage.Proofs.Scan.Order

/-!
What a scan that succeeds leaves behind for each of its records: the answer is in
the cache, the shelf has what the verdict asks for, and no later task of the scan
takes either away.
-/

namespace LockTriage

/-- The outcome of the same record when it is processed again: what was removed is
not there any more. -/
def Outcome.settled : Outcome → Outcome
  | .cleared version => .safe version
  | outcome => outcome

namespace Scan

variable {σ : Type} {settings : Settings} {explorer : Explorer σ} {desk desk' : Desk σ}
variable {keys : List CacheKey} {record other : Record} {found : VerifiedSource}
variable {outcome : Outcome} {p p' : Progress σ} {tasks : List Task} {task : Task}
variable {cache : Cache} {t t' : FileTree}

/-! ### Caches that keep what they are given -/

/-- The cache is not where the shelf is, and no two of the keys share a file in it. -/
structure Separate (settings : Settings) (keys : List CacheKey) (cache : Cache) (t : FileTree) :
    Prop where
  apart : cache.Apart t settings.outputDir
  unshared : cache.Unshared t keys

/-- Besides, the cache gives back what the explorer answers. -/
structure Sound (settings : Settings) (explorer : Explorer σ) (keys : List CacheKey)
    (cache : Cache) (t : FileTree) : Prop extends Separate settings keys cache t where
  lasts : explorer.Lasts keys cache

theorem Separate.of_home (h : Separate settings keys cache t) (hHome : t'.home = t.home) :
    Separate settings keys cache t' :=
  ⟨h.apart.of_home hHome, h.unshared.of_home hHome⟩

/-- The cache and the shelf are separate still when a contract has been fetched. -/
theorem Separate.fetch (h : Separate settings keys desk.cache desk.files) (explorer : Explorer σ)
    {network : Network} {address : String} (hMem : ⟨network, address⟩ ∈ keys) :
    Separate settings keys (fetch explorer desk network address).2.cache
      (fetch explorer desk network address).2.files :=
  ⟨fetch_apart explorer network address h.apart, fetch_unshared h.unshared hMem⟩

theorem Sound.of_home (h : Sound settings explorer keys cache t) (hHome : t'.home = t.home) :
    Sound settings explorer keys cache t' :=
  ⟨h.toSeparate.of_home hHome, h.lasts⟩

/-- What the cache knows is still sound when a contract has been fetched. -/
theorem Sound.fetch (h : Sound settings explorer keys desk.cache desk.files) {network : Network}
    {address : String} (hMem : ⟨network, address⟩ ∈ keys) :
    Sound settings explorer keys (fetch explorer desk network address).2.cache
      (fetch explorer desk network address).2.files :=
  ⟨h.toSeparate.fetch explorer hMem, fun query state response hKey hAnswer =>
    fetch_lasting.mpr (h.lasts query state response hKey hAnswer)⟩

/-- The shelf does not reach into the cache. -/
theorem Separate.spot_outside (h : Separate settings keys cache t) (record : Record)
    {loc : Location} (hInside : cache.Inside t loc) : loc ≠ spotOf settings t record := by
  rintro rfl
  exact h.apart _ hInside (Shelf.spot_below settings.shelf t record.network record.address)

/-- The keys are all that a task may fetch for. -/
def Covers (settings : Settings) (keys : List CacheKey) (tasks : List Task) : Prop :=
  ∀ record ∈ records tasks, Wanted settings record → keyOf record ∈ keys

/-- The cache and the shelf are separate still when a task has been carried out. -/
theorem Separate.perform (h : Separate settings keys p.desk.cache p.desk.files)
    (explorer : Explorer σ) (hPlain : task.Plain)
    (hMem : ∀ record, task = .judge record → Wanted settings record → keyOf record ∈ keys) :
    Separate settings keys (perform settings explorer p task).2.desk.cache
      (perform settings explorer p task).2.desk.files :=
  perform_keeps settings hPlain (fun _ _ _ hHome hSeparate => hSeparate.of_home hHome)
    (fun record hTask hWanted => h.fetch explorer (hMem record hTask hWanted)) h

/-- What the cache knows is still sound when a task has been carried out. -/
theorem Sound.perform (h : Sound settings explorer keys p.desk.cache p.desk.files)
    (hPlain : task.Plain) (hMem : ∀ record, task = .judge record → Wanted settings record →
      keyOf record ∈ keys) :
    Sound settings explorer keys (perform settings explorer p task).2.desk.cache
      (perform settings explorer p task).2.desk.files :=
  perform_keeps settings hPlain (fun _ _ _ hHome hSound => hSound.of_home hHome)
    (fun record hTask hWanted => h.fetch (hMem record hTask hWanted)) h

theorem Covers.head (h : Covers settings keys (task :: tasks)) (record : Record)
    (hTask : task = .judge record) (hWanted : Wanted settings record) : keyOf record ∈ keys := by
  subst hTask
  exact h record (by simp [records]) hWanted

/-- Keys that cover a plan cover the rest of it. -/
theorem Covers.tail (h : Covers settings keys (task :: tasks)) : Covers settings keys tasks := by
  intro record hMem
  refine h record ?_
  rw [records, List.filterMap_cons]
  split
  · exact hMem
  · exact List.mem_cons_of_mem _ hMem

/-! ### What stays known -/

section Known

variable {key : CacheKey}

/-- Following a verdict has no effect on what a separate cache knows. -/
theorem Separate.knows_follow (h : Separate settings keys cache t)
    (hAddress : '/' ∉ record.address.toList) (hMem : key ∈ keys) (hKnown : cache.Knows t key found)
    (judged : VerifiedSource) : cache.Knows (follow settings t record judged).2.1 key found := by
  have hTouches := Shelf.update_touches settings.shelf t record.network hAddress judged.source
    (assessment settings judged).vulnerable
  exact hKnown.of_touches hTouches (fun _ hInside => h.spot_outside record hInside) h.unshared hMem

/-- A source that is known stays known, whatever is processed. -/
theorem Separate.knows_process (h : Separate settings keys desk.cache desk.files)
    (explorer : Explorer σ) (hAddress : '/' ∉ record.address.toList)
    (hRecord : Wanted settings record → keyOf record ∈ keys) (hMem : key ∈ keys)
    (hKnown : desk.cache.Knows desk.files key found) :
    (process settings explorer desk record).2.cache.Knows
      (process settings explorer desk record).2.files key found := by
  have hCases := processed settings explorer desk record
  generalize process settings explorer desk record = result at hCases ⊢
  cases hCases with
  | skipped => exact hKnown
  | suppressed => exact hKnown
  | unfetched hWanted hFetch =>
      have hKept := knows_fetch explorer h.unshared hMem (hRecord hWanted) hKnown
      rw [hFetch] at hKept
      exact hKept
  | @judged judged desk' hWanted hFetch =>
      have hKept := knows_fetch explorer h.unshared hMem (hRecord hWanted) hKnown
      have hSeparate := h.fetch explorer (hRecord hWanted)
      rw [hFetch] at hKept hSeparate
      rw [judge_cache, judge_files]
      exact hSeparate.knows_follow hAddress hMem hKept judged

/-- A source that is known stays known, whatever is done. -/
theorem Separate.knows_perform (h : Separate settings keys p.desk.cache p.desk.files)
    (explorer : Explorer σ) (hPlain : task.Plain)
    (hRecord : ∀ record, task = .judge record → Wanted settings record → keyOf record ∈ keys)
    (hMem : key ∈ keys) (hKnown : p.desk.cache.Knows p.desk.files key found) :
    (Scan.perform settings explorer p task).2.desk.cache.Knows
      (Scan.perform settings explorer p task).2.desk.files key found := by
  have hPrepared {t : FileTree} (hGrown : FileTree.Grown p.desk.files t) :
      p.desk.cache.Knows t key found :=
    hKnown.of_touches (hGrown.touches (S := fun _ => False)) (fun _ _ => id) h.unshared hMem
  have hCases := performed settings explorer p task
  generalize Scan.perform settings explorer p task = result at hCases ⊢
  cases hCases with
  | unreadable => exact hKnown
  | unmade hMade => exact hPrepared (Shelf.prepare_grown hMade)
  | made hMade => exact hPrepared (Shelf.prepare_grown hMade)
  | failed hProcess =>
      have hKept := h.knows_process explorer hPlain (hRecord _ rfl) hMem hKnown
      rw [hProcess] at hKept
      exact hKept
  | judged hProcess =>
      have hKept := h.knows_process explorer hPlain (hRecord _ rfl) hMem hKnown
      rw [hProcess] at hKept
      exact hKept
  | concluded => exact hKnown

end Known

/-! ### What stays settled -/

/-- What the shelf does when a verdict is followed that it follows already. -/
def standing (settings : Settings) (found : VerifiedSource) : Outcome :=
  outcomeOf settings found (if (assessment settings found).vulnerable then .written else .unchanged)

/-- A record with its outcome leaves nothing to do: it is passed over, or its source is
known and the shelf follows the verdict. -/
inductive Settled (settings : Settings) (keys : List CacheKey) (cache : Cache) (t : FileTree)
    (record : Record) : Outcome → Prop where
  | skipped (hOther : settings.isAffected record.declaredVersion = false) :
      Settled settings keys cache t record (.skipped record.declaredVersion)
  | suppressed (hAffected : settings.isAffected record.declaredVersion = true)
      (hReviewed : settings.isSuppressed record.address = true) :
      Settled settings keys cache t record .suppressed
  | judged {outcome : Outcome} {found : VerifiedSource} (hWanted : Wanted settings record)
      (hAddress : '/' ∉ record.address.toList) (hMem : keyOf record ∈ keys)
      (hKnown : cache.Knows t (keyOf record) found)
      (hHolds : settings.shelf.Holds t record.network record.address found.source
        (assessment settings found).vulnerable)
      (hOutcome : outcome.settled = standing settings found) :
      Settled settings keys cache t record outcome

/-- The source of a wanted record that is settled is known to the cache. -/
theorem Settled.known (h : Settled settings keys cache t record outcome)
    (hWanted : Wanted settings record) :
    keyOf record ∈ keys ∧ ∃ found, cache.Knows t (keyOf record) found := by
  cases h with
  | skipped hOther => simp [hWanted.1] at hOther
  | suppressed _ hReviewed => simp [hWanted.2] at hReviewed
  | judged _ _ hMem hKnown => exact ⟨hMem, _, hKnown⟩

/-- What an outcome settles depends on the source and not on the change it made. -/
theorem settled_outcomeOf {change : Shelf.Change} {notes : List Note}
    (h : follow settings t record found = (.ok change, t', notes)) :
    (outcomeOf settings found change).settled = standing settings found := by
  have hCases := Shelf.updated settings.shelf t record.network record.address found.source
    (assessment settings found).vulnerable
  rw [follow] at h
  rw [h] at hCases
  unfold standing
  generalize (assessment settings found).vulnerable = vulnerable at hCases ⊢
  cases hCases <;> rfl

/-- A record judged without failure is a verdict that the shelf followed. -/
theorem follow_of_judge (h : judge settings desk record found = (.ok outcome, desk')) :
    ∃ change notes, follow settings desk.files record found = (.ok change, desk'.files, notes) ∧
      outcome = outcomeOf settings found change ∧ desk'.cache = desk.cache := by
  obtain ⟨change, t', notes, hFollow, hOutcome⟩ := judge_eq_ok (congrArg Prod.fst h)
  have hFiles : (judge settings desk record found).2.files = _ := judge_files
  have hCache : (judge settings desk record found).2.cache = _ := judge_cache
  rw [h] at hFiles hCache
  rw [hFollow] at hFiles
  exact ⟨change, notes, by rw [hFollow, hFiles], hOutcome, hCache⟩

/-- A record that was processed is settled. -/
theorem settled_of_process (hSound : Sound settings explorer keys desk.cache desk.files)
    (hAddress : '/' ∉ record.address.toList) (hMem : Wanted settings record → keyOf record ∈ keys)
    (hDir : desk.files.isDirectory (settings.shelf.directory record.network) = true)
    (h : process settings explorer desk record = (.ok outcome, desk')) :
    Settled settings keys desk'.cache desk'.files record outcome := by
  have hCases := processed settings explorer desk record
  generalize hResult : process settings explorer desk record = result at hCases
  cases hCases with
  | skipped hOther =>
      cases hResult.symm.trans h
      exact .skipped hOther
  | suppressed hAffected hReviewed =>
      cases hResult.symm.trans h
      exact .suppressed hAffected hReviewed
  | unfetched => cases hResult.symm.trans h
  | @judged found middle hWanted hFetch =>
      have hSound' := hSound.fetch (hMem hWanted)
      have hKnown := knows_of_fetch hSound.lasts (hMem hWanted) (congrArg Prod.fst hFetch)
      have hKeeps := (fetch_alters explorer desk record.network record.address).toKeepsDirectories
      rw [hFetch] at hSound' hKnown hKeeps
      have hDir' := hKeeps.isDirectory (Shelf.plain_network record.network) hDir
      obtain ⟨change, notes, hFollow, rfl, hCache⟩ := follow_of_judge (hResult.symm.trans h)
      have hKept := hSound'.knows_follow hAddress (hMem hWanted) hKnown found
      rw [hFollow] at hKept
      exact .judged hWanted hAddress (hMem hWanted) (hCache ▸ hKept)
        (Shelf.holds_update hDir' hAddress hFollow) (settled_outcomeOf hFollow)

/-- Getting a source does not reach to the shelf. -/
theorem Separate.not_writes (h : Separate settings keys cache t) (record : Record)
    (key : CacheKey) : ¬ cache.Writes t key (spotOf settings t record) :=
  fun hWrites => h.spot_outside record hWrites.inside rfl

/-- A shelf that follows a verdict still does after another record was processed. -/
theorem Sound.holds_process (h : Sound settings explorer keys desk.cache desk.files)
    (hAddress : '/' ∉ record.address.toList) (hKey : keyOf record ∈ keys)
    (hKnown : desk.cache.Knows desk.files (keyOf record) found)
    (hHolds : settings.shelf.Holds desk.files record.network record.address found.source
      (assessment settings found).vulnerable)
    (hOther : '/' ∉ other.address.toList) (hMem : Wanted settings other → keyOf other ∈ keys)
    (hDir : desk.files.isDirectory (settings.shelf.directory other.network) = true)
    (hProcess : process settings explorer desk other = (.ok outcome, desk')) :
    settings.shelf.Holds desk'.files record.network record.address found.source
      (assessment settings found).vulnerable := by
  have hCases := processed settings explorer desk other
  generalize hResult : process settings explorer desk other = result at hCases
  cases hCases with
  | skipped =>
      cases hResult.symm.trans hProcess
      exact hHolds
  | suppressed =>
      cases hResult.symm.trans hProcess
      exact hHolds
  | unfetched => cases hResult.symm.trans hProcess
  | @judged judged middle hWanted hFetch =>
      have hAlters := fetch_alters explorer desk other.network other.address
      have hKnows := knows_fetch explorer h.unshared hKey (hMem hWanted) hKnown
      have hJudged := knows_of_fetch h.lasts (hMem hWanted) (congrArg Prod.fst hFetch)
      rw [hFetch] at hAlters hKnows hJudged
      have hHolds' := hHolds.of_alters hAddress hAlters (h.not_writes record _)
      have hDir' := hAlters.toKeepsDirectories.isDirectory (Shelf.plain_network other.network) hDir
      obtain ⟨change, notes, hFollow, _, _⟩ := follow_of_judge (hResult.symm.trans hProcess)
      by_cases hSame : keyOf record = keyOf other
      -- The same contract again: its source is the one that is known.
      · obtain ⟨n, a, version⟩ := record
        obtain ⟨n', a', version'⟩ := other
        cases hSame
        obtain rfl := hKnows.unique hJudged
        obtain ⟨_, hAgain⟩ := hHolds'.update hAddress
        rw [follow, hAgain] at hFollow
        have hFiles : middle.files = desk'.files := congrArg (fun result => result.2.1) hFollow
        exact hFiles ▸ hHolds'
      · refine hHolds'.of_alters hAddress (Shelf.update_alters hDir' hOther hFollow) fun hSpot => ?_
        obtain ⟨hNetwork, hText⟩ := Shelf.spot_injective hSpot
        exact hSame (by rw [keyOf, keyOf, hNetwork, hText])

/-- What is settled stays so when another record is processed. -/
theorem Settled.process (h : Settled settings keys desk.cache desk.files record outcome)
    (hSound : Sound settings explorer keys desk.cache desk.files)
    (hOther : '/' ∉ other.address.toList) (hMem : Wanted settings other → keyOf other ∈ keys)
    (hDir : desk.files.isDirectory (settings.shelf.directory other.network) = true)
    {found : Outcome} (hProcess : process settings explorer desk other = (.ok found, desk')) :
    Settled settings keys desk'.cache desk'.files record outcome := by
  cases h with
  | skipped hOther => exact .skipped hOther
  | suppressed hAffected hReviewed => exact .suppressed hAffected hReviewed
  | judged hWanted hAddress hKey hKnown hHolds hOutcome =>
      have hKept := hSound.knows_process explorer hOther hMem hKey hKnown
      rw [hProcess] at hKept
      exact .judged hWanted hAddress hKey hKept
        (hSound.holds_process hAddress hKey hKnown hHolds hOther hMem hDir hProcess) hOutcome

/-- Making the directory of a network leaves settled what is settled. -/
theorem Settled.prepare (h : Settled settings keys cache t record outcome)
    (hSound : Sound settings explorer keys cache t) {network : Network}
    (hMade : settings.shelf.prepare t network = (.ok (), t')) :
    Settled settings keys cache t' record outcome := by
  cases h with
  | skipped hOther => exact .skipped hOther
  | suppressed hAffected hReviewed => exact .suppressed hAffected hReviewed
  | judged hWanted hAddress hKey hKnown hHolds hOutcome =>
      have hTouches := (Shelf.prepare_grown hMade).touches (S := fun _ => False)
      have hKept := hKnown.of_touches hTouches (fun _ _ => id) hSound.unshared hKey
      have hWalks := FileTree.walks_parent (Shelf.plain_network record.network) hHolds.directory
      have hAlters := Shelf.prepare_alters hWalks hMade
      refine .judged hWanted hAddress hKey hKept (hHolds.of_alters hAddress hAlters ?_) hOutcome
      intro hSpot
      have hNames := List.append_cancel_left hSpot
      simp at hNames

/-- A task that succeeds leaves settled what is settled. -/
theorem Settled.perform (h : Settled settings keys p.desk.cache p.desk.files record outcome)
    (hSound : Sound settings explorer keys p.desk.cache p.desk.files) (hPlain : task.Plain)
    (hMem : ∀ record, task = .judge record → Wanted settings record → keyOf record ∈ keys)
    (hDir : ∀ record, task = .judge record →
      p.desk.files.isDirectory (settings.shelf.directory record.network) = true)
    (hTask : Scan.perform settings explorer p task = (.ok (), p')) :
    Settled settings keys p'.desk.cache p'.desk.files record outcome := by
  cases performed_of_eq hTask with
  | made hMade => exact h.prepare hSound hMade
  | judged hProcess =>
      have hKept := h.process hSound hPlain (hMem _ rfl) (hDir _ rfl) hProcess
      exact hKept
  | concluded => exact h

/-- All records that were seen are settled. -/
def AllSettled (settings : Settings) (keys : List CacheKey) (p : Progress σ) : Prop :=
  ∀ record outcome, (record, outcome) ∈ p.seen →
    Settled settings keys p.desk.cache p.desk.files record outcome

/-- After a task that succeeds, all records are settled that were seen. -/
theorem AllSettled.perform (h : AllSettled settings keys p)
    (hSound : Sound settings explorer keys p.desk.cache p.desk.files) (hPlain : task.Plain)
    (hMem : ∀ record, task = .judge record → Wanted settings record → keyOf record ∈ keys)
    (hDir : ∀ record, task = .judge record →
      p.desk.files.isDirectory (settings.shelf.directory record.network) = true)
    (hTask : Scan.perform settings explorer p task = (.ok (), p')) :
    AllSettled settings keys p' := by
  intro record outcome hSeen
  have hOld (hBefore : (record, outcome) ∈ p.seen) :
      Settled settings keys p'.desk.cache p'.desk.files record outcome :=
    (h record outcome hBefore).perform hSound hPlain hMem hDir hTask
  cases performed_of_eq hTask with
  | made => exact hOld hSeen
  | concluded => exact hOld hSeen
  | judged hProcess =>
      rcases List.mem_append.mp hSeen with hBefore | hNew
      · exact hOld hBefore
      · obtain ⟨rfl, rfl⟩ := Prod.mk.inj (List.mem_singleton.mp hNew)
        have hSettled := settled_of_process hSound hPlain (hMem _ rfl) (hDir _ rfl) hProcess
        exact hSettled

/-- After tasks that succeed, the cache is as sound as before, and all records are
settled that were seen. -/
theorem exec_settled {ready : List Network} (hTasks : Orderly ready tasks)
    (hKeys : Covers settings keys tasks) (hReady : Ready settings p.desk.files ready)
    (hSound : Sound settings explorer keys p.desk.cache p.desk.files)
    (hSettled : AllSettled settings keys p) (h : exec settings explorer p tasks = (.ok (), p')) :
    Sound settings explorer keys p'.desk.cache p'.desk.files ∧ AllSettled settings keys p' := by
  rw [exec_eq_ok_iff] at h
  induction h generalizing ready with
  | done => exact ⟨hSound, hSettled⟩
  | step hTask _ ih =>
      obtain ⟨ready', hRest, hReady'⟩ := hTasks.step hReady hTask
      have hSound' := hSound.perform hTasks.head hKeys.head
      rw [hTask] at hSound'
      exact ih hRest hKeys.tail hReady' hSound'
        (hSettled.perform hSound hTasks.head hKeys.head (hTasks.directory hReady) hTask)

end Scan

end LockTriage
