import LockTriage.Proofs.KeyRing
import LockTriage.Proofs.Scan.Settled

/-!
What a scan asks for. Tasks that begin alike and get the same answers ask for the
same; a contract whose source is known is not asked for, and tasks that succeed ask
for sources that they get.
-/

namespace LockTriage

/-- The explorer's answers depend on the contract alone. -/
def Explorer.Answers {σ : Type} (explorer : Explorer σ)
    (answers : CacheKey → Except QueryFault Json) : Prop :=
  ∀ query state, (explorer.answer query state).1 = answers ⟨query.network, query.address⟩

/-- The answer has a source in it. -/
def hasSource : Except QueryFault Json → Bool
  | .ok response => (VerifiedSource.ofResponse response).isOk
  | .error _ => false

/-! ### Errors on files -/

/-- Keeping an answer fails for a file alone. -/
theorem Cache.put_eq_error {cache : Cache} {t : FileTree} {key : CacheKey} {answer : Json}
    {e : ScanError} (h : (cache.put t key answer).1 = .error e) : ∃ path fault, e = .file path fault := by
  cases cache with
  | memory answers => cases h
  | disk c =>
      rw [put_disk] at h
      rcases hResult : c.put t key answer with ⟨done, c', t'⟩
      rw [hResult] at h
      obtain rfl : done = .error e := h
      obtain ⟨path, fault, hError, _⟩ := DiskCache.put_eq_error hResult
      exact ⟨path, fault, hError⟩

theorem Shelf.prepare_eq_error {s : Shelf} {t t' : FileTree} {network : Network} {e : ScanError}
    (h : s.prepare t network = (.error e, t')) : ∃ path fault, e = .file path fault := by
  unfold Shelf.prepare at h
  split at h
  · cases h
    exact ⟨_, _, rfl⟩
  · cases h

/-- Following a verdict fails for a file alone. -/
theorem Shelf.update_eq_error {s : Shelf} {t : FileTree} {network : Network}
    {address source : String} {vulnerable : Bool} {e : ScanError}
    (h : (s.update t network address source vulnerable).1 = .error e) :
    ∃ path fault, e = .file path fault := by
  unfold Shelf.update Shelf.save at h
  dsimp only at h
  split at h
  · rcases hMade : s.prepare t network with ⟨done, made⟩
    rw [hMade] at h
    cases done with
    | error failure =>
        cases h
        exact prepare_eq_error hMade
    | ok _ =>
        dsimp only at h
        split at h
        · rename_i hWrite
          split at hWrite
          · cases hWrite
            cases h
            exact ⟨_, _, rfl⟩
          · cases hWrite
        · cases h
  · split at h
    · split at h
      · cases h
        exact ⟨_, _, rfl⟩
      · cases h
    · cases h

namespace Scan

variable {σ τ : Type} {settings : Settings} {explorer : Explorer σ} {better : Explorer τ}
variable {answers answers' : CacheKey → Except QueryFault Json}
variable {desk : Desk σ} {desk' : Desk τ} {p : Progress σ} {q : Progress τ}
variable {record : Record} {tasks : List Task} {task : Task}

/-! ### Desks that are alike -/

/-- Two desks have the same files and the same cache, and keys for the same networks. -/
structure Alike (desk : Desk σ) (desk' : Desk τ) : Prop where
  files : desk'.files = desk.files
  cache : desk'.cache = desk.cache
  keys : ∀ n, desk'.keys.contains n = desk.keys.contains n

/-- What getting a source comes to over some cache and files, if there is a key or not,
by the answer of the explorer: what is got, the cache and the files then, and the
contracts that are asked for. -/
def comesTo (cache : Cache) (t : FileTree) (network : Network) (address : String) (keyed : Bool)
    (answer : Except QueryFault Json) :
    Except ScanError VerifiedSource × Cache × FileTree × List CacheKey :=
  match (cache.get? t ⟨network, address⟩).1 with
  | some response => (sourceOf network address response, cache, t, [])
  | none =>
      if keyed then
        match answer with
        | .error fault =>
            (.error (queryError ⟨network, "", address, ""⟩ fault), cache, t, [⟨network, address⟩])
        | .ok response =>
            match VerifiedSource.ofResponse response with
            | .error what => (.error (.malformed network address what), cache, t, [⟨network, address⟩])
            | .ok found =>
                let (done, cache, t) := cache.put t ⟨network, address⟩ response
                (done.map fun _ => found, cache, t, [⟨network, address⟩])
      else (.error (.missingKeys network), cache, t, [])

/-- Getting a source takes no network's keys away. -/
theorem fetch_contains (explorer : Explorer σ) (desk : Desk σ) (network : Network)
    (address : String) (n : Network) :
    (fetch explorer desk network address).2.keys.contains n = desk.keys.contains n := by
  have hCases := fetched explorer desk network address
  generalize fetch explorer desk network address = result at hCases ⊢
  cases hCases with
  | known => rfl
  | keyless => rfl
  | refused _ hKeys => exact KeyRing.contains_of_draw? hKeys n
  | malformed _ hKeys => exact KeyRing.contains_of_draw? hKeys n
  | kept _ hKeys => exact KeyRing.contains_of_draw? hKeys n

/-- What an error says of a query is whose contract it was for. -/
theorem queryError_contract (query : Query) (fault : QueryFault) :
    queryError query fault = queryError ⟨query.network, "", query.address, ""⟩ fault := by
  cases fault <;> rfl

theorem fetch_comesTo (hAnswers : explorer.Answers answers) (desk : Desk σ) (network : Network)
    (address : String) :
    ∃ events, (fetch explorer desk network address).2.trace = desk.trace ++ events ∧
      ((fetch explorer desk network address).1, (fetch explorer desk network address).2.cache,
        (fetch explorer desk network address).2.files, Event.contracts events) =
          comesTo desk.cache desk.files network address (desk.keys.contains network)
            (answers ⟨network, address⟩) := by
  have hCases := fetched explorer desk network address
  generalize fetch explorer desk network address = result at hCases ⊢
  unfold comesTo
  have hKeyed {drawn : String × KeyRing} (hDraw : desk.keys.draw? network = some drawn) :
      desk.keys.contains network = true := by
    rw [← KeyRing.isSome_draw?, hDraw]
    rfl
  have hQuery (key : String) : answerTo explorer desk (queryFor explorer network address key) =
      answers ⟨network, address⟩ := hAnswers _ _
  cases hCases with
  | @known response notes hFound =>
      rw [hFound]
      exact ⟨notes.map .noted, rfl, by simp⟩
  | @keyless notes hNew hKeys =>
      have hNone : desk.keys.contains network = false := by
        rw [← KeyRing.isSome_draw?, hKeys]
        rfl
      rw [hNew, hNone]
      exact ⟨notes.map .noted, rfl, by simp⟩
  | @refused notes key keys fault hNew hKeys hAnswer =>
      rw [hNew, hKeyed hKeys, ← hQuery key, hAnswer]
      refine ⟨_, List.append_assoc _ _ _, ?_⟩
      rw [queryError_contract]
      simp [queryFor]
  | @malformed notes key keys response what hNew hKeys hAnswer hSource =>
      rw [hNew, hKeyed hKeys, ← hQuery key, hAnswer]
      refine ⟨_, List.append_assoc _ _ _, ?_⟩
      simp [hSource, queryFor]
  | @kept notes key keys response found hNew hKeys hAnswer hSource =>
      rw [hNew, hKeyed hKeys, ← hQuery key, hAnswer]
      refine ⟨_, List.append_assoc _ _ _, ?_⟩
      simp [hSource, keeping, queryFor]

/-- An answer that is not asked for does not matter. -/
theorem comesTo_congr {cache : Cache} {t : FileTree} {network : Network} {address : String}
    {keyed : Bool} {answer answer' : Except QueryFault Json}
    (h : ⟨network, address⟩ ∈ (comesTo cache t network address keyed answer).2.2.2 →
      answer' = answer) :
    comesTo cache t network address keyed answer' = comesTo cache t network address keyed answer := by
  unfold comesTo at h ⊢
  split
  · rfl
  · rename_i hNew
    rw [hNew] at h
    cases keyed with
    | false => rfl
    | true =>
        have hSame : answer' = answer := by
          refine h ?_
          cases answer with
          | error fault => simp
          | ok response => cases hSource : VerifiedSource.ofResponse response <;> simp [hSource]
        rw [hSame]

/-- What is asked for, if a source is got: nothing, or what was answered with it. -/
theorem comesTo_eq_ok {cache : Cache} {t : FileTree} {network : Network} {address : String}
    {keyed : Bool} {answer : Except QueryFault Json} {found : VerifiedSource}
    (h : (comesTo cache t network address keyed answer).1 = .ok found) :
    ∀ key ∈ (comesTo cache t network address keyed answer).2.2.2,
      key = ⟨network, address⟩ ∧ hasSource answer = true := by
  unfold comesTo at h ⊢
  split at h
  · simp
  · cases keyed with
    | false => cases h
    | true =>
        cases answer with
        | error fault => cases h
        | ok response =>
            cases hSource : VerifiedSource.ofResponse response with
            | error what => simp [hSource] at h
            | ok found => simp [hSource, hasSource, Except.isOk, Except.toBool]

/-- Unless it is for a file, nothing is stored if no source is got, and nothing is
asked for but what was answered without one. -/
theorem comesTo_eq_error {cache : Cache} {t : FileTree} {network : Network} {address : String}
    {keyed : Bool} {answer : Except QueryFault Json} {e : ScanError}
    (h : (comesTo cache t network address keyed answer).1 = .error e)
    (hError : ∀ path fault, e ≠ .file path fault) :
    (comesTo cache t network address keyed answer).2.1 = cache ∧
      (comesTo cache t network address keyed answer).2.2.1 = t ∧
      ∀ key ∈ (comesTo cache t network address keyed answer).2.2.2,
        key = ⟨network, address⟩ ∧ hasSource answer = false := by
  unfold comesTo at h ⊢
  split at h
  · simp
  · cases keyed with
    | false => simp
    | true =>
        cases answer with
        | error fault => simp [hasSource]
        | ok response =>
            cases hSource : VerifiedSource.ofResponse response with
            | error what => simp [hSource, hasSource, Except.isOk, Except.toBool]
            | ok found =>
                simp only [hSource, if_true] at h
                cases hPut : (cache.put t ⟨network, address⟩ response).1 with
                | ok _ =>
                    rw [hPut] at h
                    cases h
                | error failure =>
                    rw [hPut] at h
                    cases h
                    obtain ⟨path, fault, rfl⟩ := Cache.put_eq_error hPut
                    exact absurd rfl (hError path fault)

section Alike

variable (hAnswers : explorer.Answers answers) (hAnswers' : better.Answers answers')
  (h : Alike desk desk') {events : List Event}
  (hSame : ∀ key ∈ Event.contracts events, answers' key = answers key)

include h in
theorem judge_alike (settings : Settings) (record : Record) (found : VerifiedSource) :
    (judge settings desk' record found).1 = (judge settings desk record found).1 ∧
      Alike (judge settings desk record found).2 (judge settings desk' record found).2 := by
  rw [judge_eq, judge_eq, h.files]
  exact ⟨rfl, rfl, h.cache, h.keys⟩

include hAnswers hAnswers' h hSame

theorem fetch_alike {network : Network} {address : String}
    (hTrace : (fetch explorer desk network address).2.trace = desk.trace ++ events) :
    ∃ more, (fetch better desk' network address).2.trace = desk'.trace ++ more ∧
      Event.contracts more = Event.contracts events ∧
      (fetch better desk' network address).1 = (fetch explorer desk network address).1 ∧
      Alike (fetch explorer desk network address).2 (fetch better desk' network address).2 := by
  obtain ⟨recorded, hRecorded, hComes⟩ := fetch_comesTo hAnswers desk network address
  obtain rfl : recorded = events := List.append_cancel_left (hRecorded.symm.trans hTrace)
  obtain ⟨more, hMore, hComes'⟩ := fetch_comesTo hAnswers' desk' network address
  have hAsked : ⟨network, address⟩ ∈ (comesTo desk.cache desk.files network address
      (desk.keys.contains network) (answers ⟨network, address⟩)).2.2.2 →
      answers' ⟨network, address⟩ = answers ⟨network, address⟩ := by
    rw [← hComes]
    exact hSame _
  rw [h.cache, h.files, h.keys, comesTo_congr hAsked, ← hComes] at hComes'
  simp only [Prod.mk.injEq] at hComes'
  obtain ⟨hResult, hCache, hFiles, hContracts⟩ := hComes'
  refine ⟨more, hMore, hContracts, hResult, hFiles, hCache, fun n => ?_⟩
  rw [fetch_contains, fetch_contains, h.keys]

theorem process_alike
    (hTrace : (process settings explorer desk record).2.trace = desk.trace ++ events) :
    ∃ more, (process settings better desk' record).2.trace = desk'.trace ++ more ∧
      Event.contracts more = Event.contracts events ∧
      (process settings better desk' record).1 = (process settings explorer desk record).1 ∧
      Alike (process settings explorer desk record).2 (process settings better desk' record).2 := by
  have hCases := processed settings explorer desk record
  generalize process settings explorer desk record = result at hCases hTrace ⊢
  cases hCases with
  | skipped hOther =>
      obtain rfl : events = [] := by simpa using hTrace
      exact ⟨[], by simp [process, hOther], rfl, by simp [process, hOther],
        by simpa [process, hOther] using h⟩
  | suppressed hAffected hReviewed =>
      obtain rfl : events = [] := by simpa using hTrace
      exact ⟨[], by simp [process, hAffected, hReviewed], rfl, by simp [process, hAffected, hReviewed],
        by simpa [process, hAffected, hReviewed] using h⟩
  | @unfetched e middle hWanted hFetch =>
      have hMiddle : (fetch explorer desk record.network record.address).2.trace =
          desk.trace ++ events := by rw [hFetch, hTrace]
      obtain ⟨more, hMore, hContracts, hResult, hAlike⟩ :=
        fetch_alike hAnswers hAnswers' h hSame hMiddle
      rcases hFetch' : fetch better desk' record.network record.address with ⟨got, middle'⟩
      rw [hFetch, hFetch'] at hResult hAlike
      rw [hFetch'] at hMore
      obtain rfl : got = .error e := hResult
      rw [process_of_wanted hWanted, hFetch']
      exact ⟨more, hMore, hContracts, rfl, hAlike⟩
  | @judged found middle hWanted hFetch =>
      obtain ⟨asked, hAsked, _⟩ := fetch_trace explorer desk record.network record.address
      obtain ⟨notes, hNotes⟩ := judge_trace settings middle record found
      have hMiddle : middle.trace = desk.trace ++ asked := by rw [← hAsked, hFetch]
      rw [hNotes, hMiddle, List.append_assoc] at hTrace
      obtain rfl := List.append_cancel_left hTrace
      have hContracts : Event.contracts (asked ++ notes.map .noted) = Event.contracts asked := by simp
      rw [hContracts] at hSame ⊢
      obtain ⟨more, hMore, hContracts', hResult, hAlike⟩ :=
        fetch_alike hAnswers hAnswers' h hSame hAsked
      rcases hFetch' : fetch better desk' record.network record.address with ⟨got, middle'⟩
      rw [hFetch, hFetch'] at hResult hAlike
      rw [hFetch'] at hMore
      obtain rfl : got = .ok found := hResult
      obtain ⟨notes', hNotes'⟩ := judge_trace settings middle' record found
      obtain ⟨hJudged, hAlike'⟩ := judge_alike hAlike settings record found
      have hMiddle' : middle'.trace = desk'.trace ++ more := hMore
      rw [process_of_wanted hWanted, hFetch']
      refine ⟨more ++ notes'.map .noted, ?_, by simpa using hContracts', hJudged, hAlike'⟩
      dsimp only
      rw [hNotes', hMiddle', List.append_assoc]

end Alike

/-- A task that begins at desks that are alike asks for the same, ends in the same way and
leaves desks that are alike, as long as the answers are the same. -/
theorem perform_alike (settings : Settings) (task : Task) (hAnswers : explorer.Answers answers)
    (hAnswers' : better.Answers answers') (h : Alike p.desk q.desk) {events : List Event}
    (hSame : ∀ key ∈ Event.contracts events, answers' key = answers key)
    (hTrace : (perform settings explorer p task).2.desk.trace = p.desk.trace ++ events) :
    ∃ more, (perform settings better q task).2.desk.trace = q.desk.trace ++ more ∧
      Event.contracts more = Event.contracts events ∧
      (perform settings better q task).1 = (perform settings explorer p task).1 ∧
      Alike (perform settings explorer p task).2.desk (perform settings better q task).2.desk := by
  have hCases := performed settings explorer p task
  generalize perform settings explorer p task = result at hCases hTrace ⊢
  cases hCases with
  | unreadable =>
      obtain rfl : events = [] := by simpa using hTrace
      exact ⟨[], by simp [perform], rfl, rfl, h⟩
  | unmade hMade =>
      obtain rfl : events = [] := by simpa using hTrace
      simp only [perform, h.files, hMade]
      exact ⟨[], by simp, rfl, trivial, rfl, h.cache, h.keys⟩
  | made hMade =>
      obtain rfl : events = [] := by simpa using hTrace
      simp only [perform, h.files, hMade]
      exact ⟨[], by simp, rfl, trivial, rfl, h.cache, h.keys⟩
  | @failed record e desk hProcess =>
      obtain ⟨more, hMore, hContracts, hResult, hAlike⟩ :=
        process_alike hAnswers hAnswers' h hSame (by rw [hProcess]; exact hTrace)
      rcases hProcess' : process settings better q.desk record with ⟨done, desk'⟩
      rw [hProcess, hProcess'] at hResult hAlike
      rw [hProcess'] at hMore
      obtain rfl : done = .error e := hResult
      simp only [perform, hProcess']
      exact ⟨more, hMore, hContracts, trivial, hAlike⟩
  | @judged record outcome desk hProcess =>
      obtain ⟨asked, hAsked, _, _⟩ := process_trace settings explorer p.desk record
      have hDesk : desk.trace = p.desk.trace ++ asked := by rw [← hAsked, hProcess]
      rw [Desk.happened_trace, hDesk, List.append_assoc] at hTrace
      obtain rfl := List.append_cancel_left hTrace
      obtain ⟨more, hMore, hContracts, hResult, hAlike⟩ :=
        process_alike hAnswers hAnswers' h (by simpa using hSame) hAsked
      rcases hProcess' : process settings better q.desk record with ⟨done, desk'⟩
      rw [hProcess, hProcess'] at hResult hAlike
      obtain rfl : done = .ok outcome := hResult
      have hDesk' : desk'.trace = q.desk.trace ++ more := by rw [← hMore, hProcess']
      simp only [perform, hProcess']
      refine ⟨more ++ [.judged record outcome], ?_, by simpa using hContracts, trivial,
        hAlike.files, hAlike.cache, hAlike.keys⟩
      rw [Desk.happened_trace, hDesk', List.append_assoc]
  | concluded n =>
      obtain rfl : [.noted (.networkScanned ⟨n, Tally.ofOutcomes p.outcomes⟩)] = events :=
        List.append_cancel_left hTrace
      exact ⟨[.noted (.networkScanned ⟨n, Tally.ofOutcomes q.outcomes⟩)], rfl, rfl, rfl, h.files,
        h.cache, h.keys⟩

theorem exec_alike (hAnswers : explorer.Answers answers) (hAnswers' : better.Answers answers')
    (h : Alike p.desk q.desk) {events : List Event}
    (hSame : ∀ key ∈ Event.contracts events, answers' key = answers key)
    (hTrace : (exec settings explorer p tasks).2.desk.trace = p.desk.trace ++ events) :
    ∃ more, (exec settings better q tasks).2.desk.trace = q.desk.trace ++ more ∧
      Event.contracts more = Event.contracts events ∧
      (exec settings better q tasks).1 = (exec settings explorer p tasks).1 ∧
      Alike (exec settings explorer p tasks).2.desk (exec settings better q tasks).2.desk := by
  induction tasks generalizing p q events with
  | nil =>
      obtain rfl : events = [] := by simpa [exec] using hTrace
      exact ⟨[], by simp [exec], rfl, rfl, h⟩
  | cons task tasks ih =>
      obtain ⟨first, hFirst, _, _⟩ := perform_trace settings explorer p task
      rcases hTask : perform settings explorer p task with ⟨result, next⟩
      rcases hTask' : perform settings better q task with ⟨result', next'⟩
      obtain ⟨later, hLater, _⟩ := exec_trace settings explorer next tasks
      have hStep (hSame' : ∀ key ∈ Event.contracts first, answers' key = answers key) :=
        perform_alike settings task hAnswers hAnswers' h hSame' hFirst
      rw [hTask, hTask'] at hStep
      rw [hTask] at hFirst
      have hNext : next.desk.trace = p.desk.trace ++ first := hFirst
      cases result with
      | error e =>
          rw [exec_cons_error hTask, hNext] at hTrace
          obtain rfl := List.append_cancel_left hTrace
          obtain ⟨more, hMore, hContracts, hResult, hAlike⟩ := hStep hSame
          obtain rfl : result' = .error e := hResult
          rw [exec_cons_error hTask, exec_cons_error hTask']
          exact ⟨more, hMore, hContracts, rfl, hAlike⟩
      | ok _ =>
          rw [exec_cons_ok hTask, hLater, hNext, List.append_assoc] at hTrace
          obtain rfl := List.append_cancel_left hTrace
          simp only [Event.contracts_append, List.mem_append, or_imp, forall_and] at hSame
          obtain ⟨more, hMore, hContracts, hResult, hAlike⟩ := hStep hSame.1
          obtain rfl : result' = .ok () := hResult
          obtain ⟨rest, hRest, hContracts', hResult', hAlike'⟩ := ih hAlike hSame.2 hLater
          rw [exec_cons_ok hTask, exec_cons_ok hTask']
          refine ⟨more ++ rest, ?_, ?_, hResult', hAlike'⟩
          · rw [hRest, show next'.desk.trace = q.desk.trace ++ more from hMore, List.append_assoc]
          · rw [Event.contracts_append, Event.contracts_append, hContracts, hContracts']

/-! ### Keys -/

theorem process_contains (settings : Settings) (explorer : Explorer σ) (desk : Desk σ)
    (record : Record) (n : Network) :
    (process settings explorer desk record).2.keys.contains n = desk.keys.contains n := by
  have hFetch := fetch_contains explorer desk record.network record.address n
  have hCases := processed settings explorer desk record
  generalize process settings explorer desk record = result at hCases ⊢
  cases hCases with
  | skipped => rfl
  | suppressed => rfl
  | unfetched _ hResult =>
      rw [hResult] at hFetch
      exact hFetch
  | judged _ hResult =>
      rw [hResult] at hFetch
      rw [judge_keys]
      exact hFetch

theorem perform_contains (settings : Settings) (explorer : Explorer σ) (p : Progress σ)
    (task : Task) (n : Network) :
    (perform settings explorer p task).2.desk.keys.contains n = p.desk.keys.contains n := by
  have hCases := performed settings explorer p task
  generalize perform settings explorer p task = result at hCases ⊢
  cases hCases with
  | unreadable => rfl
  | unmade => rfl
  | made => rfl
  | @failed record e desk hProcess =>
      have hKeys := process_contains settings explorer p.desk record n
      rw [hProcess] at hKeys
      exact hKeys
  | @judged record outcome desk hProcess =>
      have hKeys := process_contains settings explorer p.desk record n
      rw [hProcess] at hKeys
      exact hKeys
  | concluded => rfl

/-- A scan takes no network's keys away. -/
theorem exec_contains (settings : Settings) (explorer : Explorer σ) (p : Progress σ)
    (tasks : List Task) (n : Network) :
    (exec settings explorer p tasks).2.desk.keys.contains n = p.desk.keys.contains n := by
  induction tasks generalizing p with
  | nil => rfl
  | cons task tasks ih =>
      have hKeys := perform_contains settings explorer p task n
      rcases hTask : perform settings explorer p task with ⟨result, next⟩
      rw [hTask] at hKeys
      cases result with
      | error e =>
          rw [exec_cons_error hTask]
          exact hKeys
      | ok _ =>
          rw [exec_cons_ok hTask, ih]
          exact hKeys

/-! ### What is asked for -/

/-- Processing a record asks for what getting its source asks for. -/
theorem process_asks (settings : Settings) (explorer : Explorer σ) (desk : Desk σ)
    (record : Record) :
    ∃ events asked, (process settings explorer desk record).2.trace = desk.trace ++ events ∧
      (fetch explorer desk record.network record.address).2.trace = desk.trace ++ asked ∧
      (Event.contracts events = [] ∨
        Wanted settings record ∧ Event.contracts events = Event.contracts asked) := by
  obtain ⟨asked, hAsked, _⟩ := fetch_trace explorer desk record.network record.address
  have hCases := processed settings explorer desk record
  generalize process settings explorer desk record = result at hCases ⊢
  cases hCases with
  | skipped => exact ⟨[], asked, by simp, hAsked, .inl rfl⟩
  | suppressed => exact ⟨[], asked, by simp, hAsked, .inl rfl⟩
  | unfetched hWanted hFetch =>
      refine ⟨asked, asked, ?_, hAsked, .inr ⟨hWanted, rfl⟩⟩
      rw [← hAsked, hFetch]
  | @judged found middle hWanted hFetch =>
      obtain ⟨notes, hNotes⟩ := judge_trace settings middle record found
      refine ⟨asked ++ notes.map .noted, asked, ?_, hAsked, .inr ⟨hWanted, by simp⟩⟩
      rw [hNotes, ← List.append_assoc, ← hAsked, hFetch]

/-- A record that has an outcome was asked for only if its answer has a source. -/
theorem process_asks_ok {last : Desk σ} {outcome : Outcome} (hAnswers : explorer.Answers answers)
    (h : process settings explorer desk record = (.ok outcome, last)) :
    ∃ events, last.trace = desk.trace ++ events ∧
      ∀ key ∈ Event.contracts events,
        key = keyOf record ∧ Wanted settings record ∧ hasSource (answers key) = true := by
  obtain ⟨events, asked, hEvents, hAsked, hCases⟩ := process_asks settings explorer desk record
  rw [h] at hEvents
  refine ⟨events, hEvents, fun key hKey => ?_⟩
  rcases hCases with hNone | ⟨hWanted, hSame⟩
  · rw [hNone] at hKey
    cases hKey
  rw [hSame] at hKey
  obtain ⟨recorded, hRecorded, hComes⟩ :=
    fetch_comesTo hAnswers desk record.network record.address
  obtain rfl : recorded = asked := List.append_cancel_left (hRecorded.symm.trans hAsked)
  have hFetch : ∃ found, (fetch explorer desk record.network record.address).1 = .ok found := by
    rw [process_of_wanted hWanted] at h
    rcases hGot : fetch explorer desk record.network record.address with ⟨got, middle⟩
    rw [hGot] at h
    cases got with
    | error e => cases h
    | ok found => exact ⟨found, rfl⟩
  obtain ⟨found, hFound⟩ := hFetch
  simp only [Prod.ext_iff] at hComes
  obtain ⟨hResult, _, _, hContracts⟩ := hComes
  rw [hContracts] at hKey
  obtain ⟨rfl, hSource⟩ := comesTo_eq_ok (hResult.symm.trans hFound) key hKey
  exact ⟨rfl, hWanted, hSource⟩

/-- A record whose source cannot be got changes nothing, unless it is for a file, and
was asked for only if its answer has no source. -/
theorem process_asks_error {last : Desk σ} {e : ScanError} (hAnswers : explorer.Answers answers)
    (h : process settings explorer desk record = (.error e, last))
    (hError : ∀ path fault, e ≠ .file path fault) :
    last.files = desk.files ∧ last.cache = desk.cache ∧
      ∃ events, last.trace = desk.trace ++ events ∧
        ∀ key ∈ Event.contracts events, hasSource (answers key) = false := by
  have hCases := processed settings explorer desk record
  generalize hResult : process settings explorer desk record = result at hCases
  cases hCases with
  | skipped => cases hResult.symm.trans h
  | suppressed => cases hResult.symm.trans h
  | @unfetched failure middle hWanted hFetch =>
      cases hResult.symm.trans h
      obtain ⟨events, hEvents, hComes⟩ :=
        fetch_comesTo hAnswers desk record.network record.address
      rw [hFetch] at hEvents hComes
      simp only [Prod.ext_iff] at hComes
      obtain ⟨hGot, hCache, hFiles, hContracts⟩ := hComes
      obtain ⟨hSameCache, hSameFiles, hAsked⟩ := comesTo_eq_error hGot.symm hError
      refine ⟨hFiles.trans hSameFiles, hCache.trans hSameCache, events, hEvents, fun key hKey => ?_⟩
      rw [hContracts] at hKey
      obtain ⟨rfl, hSource⟩ := hAsked key hKey
      exact hSource
  | @judged found middle hWanted hFetch =>
      have hJudge : (judge settings middle record found).1 = .error e :=
        congrArg Prod.fst (hResult.symm.trans h)
      rw [judge_eq] at hJudge
      cases hFollow : (follow settings middle.files record found).1 with
      | ok change =>
          rw [hFollow] at hJudge
          cases hJudge
      | error failure =>
          rw [hFollow] at hJudge
          cases hJudge
          obtain ⟨path, fault, rfl⟩ := Shelf.update_eq_error hFollow
          exact absurd rfl (hError path fault)

/-- A contract whose source is known is not asked for. -/
theorem process_unasked (settings : Settings) (explorer : Explorer σ) (record : Record)
    {key : CacheKey} {found : VerifiedSource} (hKnown : desk.cache.Knows desk.files key found) :
    ∃ events, (process settings explorer desk record).2.trace = desk.trace ++ events ∧
      key ∉ Event.contracts events := by
  obtain ⟨events, asked, hEvents, hAsked, hCases⟩ := process_asks settings explorer desk record
  refine ⟨events, hEvents, fun hKey => ?_⟩
  rcases hCases with hNone | ⟨_, hSame⟩
  · rw [hNone] at hKey
    cases hKey
  rw [hSame] at hKey
  obtain ⟨recorded, hRecorded, _, hContracts⟩ :=
    fetch_trace explorer desk record.network record.address
  obtain rfl : recorded = asked := List.append_cancel_left (hRecorded.symm.trans hAsked)
  rcases hContracts with hNone | hOne
  · rw [hNone] at hKey
    cases hKey
  · rw [hOne, List.mem_singleton] at hKey
    subst hKey
    obtain ⟨notes, hFetch⟩ : ∃ notes, fetch explorer desk record.network record.address =
        (.ok found, desk.noting notes) := fetch_known hKnown
    rw [hFetch] at hRecorded
    rw [← List.append_cancel_left hRecorded] at hOne
    simp at hOne

/-! ### Tasks -/

/-- A task that succeeds asks only for the contract of its record, whose answer has a
source. -/
theorem perform_asks_ok {next : Progress σ} (hAnswers : explorer.Answers answers)
    (hTask : perform settings explorer p task = (.ok (), next)) :
    ∃ events, next.desk.trace = p.desk.trace ++ events ∧
      ∀ key ∈ Event.contracts events, hasSource (answers key) = true ∧
        ∃ record outcome, (record, outcome) ∈ next.seen ∧ Wanted settings record ∧
          keyOf record = key := by
  cases performed_of_eq hTask with
  | made => exact ⟨[], by simp, by simp⟩
  | @judged record outcome desk hProcess =>
      obtain ⟨events, hEvents, hAsked⟩ := process_asks_ok hAnswers hProcess
      refine ⟨events ++ [.judged record outcome], ?_, fun key hKey => ?_⟩
      · rw [Desk.happened_trace, hEvents, List.append_assoc]
      · obtain ⟨rfl, hWanted, hSource⟩ := hAsked key (by simpa using hKey)
        exact ⟨hSource, record, outcome, by simp, hWanted, rfl⟩
  | concluded => exact ⟨_, rfl, by simp [Event.contracts, Event.queries]⟩

/-- Tasks that succeed ask only for contracts whose answers have a source, and see
their records. -/
theorem exec_asks_ok {last : Progress σ} (hAnswers : explorer.Answers answers)
    (h : exec settings explorer p tasks = (.ok (), last)) :
    ∃ events, last.desk.trace = p.desk.trace ++ events ∧
      ∀ key ∈ Event.contracts events, hasSource (answers key) = true ∧
        ∃ record outcome, (record, outcome) ∈ last.seen ∧ Wanted settings record ∧
          keyOf record = key := by
  rw [exec_eq_ok_iff] at h
  induction h with
  | done => exact ⟨[], by simp, by simp⟩
  | @step p next last task tasks hTask hNext ih =>
      obtain ⟨later, hLater, hRest⟩ := ih
      obtain ⟨_, _, hMore⟩ := exec_trace settings explorer next tasks
      rw [exec_eq_ok_iff.mpr hNext] at hMore
      obtain ⟨events, hEvents, hAsked⟩ := perform_asks_ok hAnswers hTask
      refine ⟨events ++ later, by rw [hLater, hEvents, List.append_assoc], fun key hKey => ?_⟩
      rw [Event.contracts_append, List.mem_append] at hKey
      rcases hKey with hKey | hKey
      · obtain ⟨hSource, record, outcome, hSeen, hWanted⟩ := hAsked key hKey
        exact ⟨hSource, record, outcome, hMore ▸ List.mem_append_left _ hSeen, hWanted⟩
      · exact hRest key hKey

/-- Unless it is for a file, a task that fails changes nothing, and what it asks for
has no source in its answer. -/
theorem perform_asks_error {last : Progress σ} {e : ScanError} (hAnswers : explorer.Answers answers)
    (hTask : perform settings explorer p task = (.error e, last))
    (hError : ∀ path fault, e ≠ .file path fault) :
    last.desk.files = p.desk.files ∧ last.desk.cache = p.desk.cache ∧
      ∃ events, last.desk.trace = p.desk.trace ++ events ∧
        ∀ key ∈ Event.contracts events, hasSource (answers key) = false := by
  cases performed_of_eq hTask with
  | unreadable => exact ⟨rfl, rfl, [], by simp, by simp⟩
  | unmade hMade =>
      obtain ⟨path, fault, rfl⟩ := Shelf.prepare_eq_error hMade
      exact absurd rfl (hError path fault)
  | failed hProcess => exact process_asks_error hAnswers hProcess hError

theorem perform_unasked (settings : Settings) (explorer : Explorer σ) (task : Task) {key : CacheKey}
    {found : VerifiedSource} (hKnown : p.desk.cache.Knows p.desk.files key found) :
    ∃ events, (perform settings explorer p task).2.desk.trace = p.desk.trace ++ events ∧
      key ∉ Event.contracts events := by
  have hCases := performed settings explorer p task
  generalize perform settings explorer p task = result at hCases ⊢
  cases hCases with
  | unreadable => exact ⟨[], by simp, by simp⟩
  | unmade => exact ⟨[], by simp, by simp⟩
  | made => exact ⟨[], by simp, by simp⟩
  | @failed record e desk hProcess =>
      obtain ⟨events, hEvents, hNot⟩ := process_unasked settings explorer record hKnown
      rw [hProcess] at hEvents
      exact ⟨events, hEvents, hNot⟩
  | @judged record outcome desk hProcess =>
      obtain ⟨events, hEvents, hNot⟩ := process_unasked settings explorer record hKnown
      have hDesk : desk.trace = p.desk.trace ++ events := by rw [← hEvents, hProcess]
      refine ⟨events ++ [.judged record outcome], ?_, by simpa using hNot⟩
      rw [Desk.happened_trace, hDesk, List.append_assoc]
  | concluded => exact ⟨_, rfl, by simp [Event.contracts, Event.queries]⟩

/-- Tasks never ask for a contract whose source is known. -/
theorem exec_unasked (settings : Settings) (explorer : Explorer σ) (p : Progress σ)
    {keys : List CacheKey} {ready : List Network} {key : CacheKey} {found : VerifiedSource}
    (hTasks : Orderly ready tasks) (hKeys : Covers settings keys tasks)
    (hSeparate : Separate settings keys p.desk.cache p.desk.files) (hMem : key ∈ keys)
    (hKnown : p.desk.cache.Knows p.desk.files key found) :
    ∃ events, (exec settings explorer p tasks).2.desk.trace = p.desk.trace ++ events ∧
      key ∉ Event.contracts events := by
  induction tasks generalizing ready p with
  | nil => exact ⟨[], by simp [exec], by simp⟩
  | cons task tasks ih =>
      obtain ⟨events, hEvents, hNot⟩ := perform_unasked settings explorer task hKnown
      have hKnown' := hSeparate.knows_perform explorer hTasks.head hKeys.head hMem hKnown
      have hSeparate' := hSeparate.perform explorer hTasks.head hKeys.head
      rcases hTask : perform settings explorer p task with ⟨result, next⟩
      rw [hTask] at hEvents hKnown' hSeparate'
      cases result with
      | error e =>
          rw [exec_cons_error hTask]
          exact ⟨events, hEvents, hNot⟩
      | ok _ =>
          obtain ⟨ready', hRest⟩ := hTasks.rest hTask
          obtain ⟨later, hLater, hNotLater⟩ := ih next hRest hKeys.tail hSeparate' hKnown'
          rw [exec_cons_ok hTask]
          refine ⟨events ++ later, ?_, by simp [hNot, hNotLater]⟩
          rw [hLater, show next.desk.trace = p.desk.trace ++ events from hEvents, List.append_assoc]

end Scan

end LockTriage
