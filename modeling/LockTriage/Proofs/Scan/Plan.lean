import LockTriage.Proofs.Export
import LockTriage.Proofs.Scan.Process

/-!
A scan as a list of tasks. No task of a scan touches an export, so what there is
to do is settled by the exports at its start, and a scan is its tasks carried out
one after another up to the first that fails.
-/

namespace LockTriage.Scan

/-- One step of a scan. -/
inductive Task
  /-- The export of a network cannot be read. -/
  | unreadable (network : Network) (e : ScanError)
  /-- Make the directory of a network. -/
  | prepare (network : Network)
  | judge (record : Record)
  /-- Count the outcomes of a network. -/
  | conclude (network : Network)
  deriving DecidableEq, Repr

/-- How far a scan has come. -/
structure Progress (σ : Type) where
  desk : Desk σ
  /-- The outcomes of the network at hand. -/
  outcomes : List Outcome
  /-- The counts of the networks that are done. -/
  summaries : List NetworkSummary
  /-- All outcomes so far with their records. -/
  seen : List (Record × Outcome)
  /-- What they say about the shelf: the source that has to be on it, or none. -/
  rulings : List (CacheKey × Option String)

variable {σ : Type} {settings : Settings} {explorer : Explorer σ} {p p' : Progress σ}
variable {tasks : List Task} {task : Task} {t t' : FileTree} {networks : List Network}

/-- Nothing has been done yet. -/
def start (desk : Desk σ) : Progress σ := ⟨desk, [], [], [], []⟩

def perform (settings : Settings) (explorer : Explorer σ) (p : Progress σ) :
    Task → Except ScanError Unit × Progress σ
  | .unreadable _ e => (.error e, p)
  | .prepare network =>
      match settings.shelf.prepare p.desk.files network with
      | (.error e, files) => (.error e, { p with desk := { p.desk with files := files } })
      | (.ok _, files) => (.ok (), { p with desk := { p.desk with files := files }, outcomes := [] })
  | .judge record =>
      match process settings explorer p.desk record with
      | (.error e, desk) => (.error e, { p with desk := desk })
      | (.ok outcome, desk) =>
          (.ok (), { p with
            desk := desk.happened [.judged record outcome]
            outcomes := p.outcomes ++ [outcome]
            seen := p.seen ++ [(record, outcome)]
            rulings := p.rulings ++ rulingsOf settings explorer p.desk record })
  | .conclude network =>
      let summary : NetworkSummary := ⟨network, Tally.ofOutcomes p.outcomes⟩
      (.ok (), { p with
        desk := p.desk.noting [.networkScanned summary]
        summaries := p.summaries ++ [summary] })

/-- Carry out some tasks up to the first that fails. -/
def exec (settings : Settings) (explorer : Explorer σ) (p : Progress σ) :
    List Task → Except ScanError Unit × Progress σ
  | [] => (.ok (), p)
  | task :: rest =>
      match perform settings explorer p task with
      | (.error e, p) => (.error e, p)
      | (.ok _, p) => exec settings explorer p rest

/-- What a scan has to do for a network with some export, and after that. After an
export that cannot be read there is nothing more to do. -/
def tasksOf (network : Network) (later : List Task) : Except ScanError (List Record) → List Task
  | .error e => [.unreadable network e]
  | .ok records => .prepare network :: (records.map .judge ++ .conclude network :: later)

/-- What a scan of some networks has to do, by their exports. -/
def plan (settings : Settings) (t : FileTree) : List Network → List Task
  | [] => []
  | network :: rest =>
      tasksOf network (plan settings t rest)
        (Export.load t network (settings.exportPath network))

/-- The records that some tasks judge, in their order. -/
def records (tasks : List Task) : List Record :=
  tasks.filterMap fun
    | .judge record => some record
    | _ => none

/-! ### Carrying out tasks -/

/-- After a task that succeeds come the others. -/
theorem exec_cons_ok (h : perform settings explorer p task = (.ok (), p')) :
    exec settings explorer p (task :: tasks) = exec settings explorer p' tasks := by
  rw [exec, h]

/-- A task that fails is the last one. -/
theorem exec_cons_error {e : ScanError} (h : perform settings explorer p task = (.error e, p')) :
    exec settings explorer p (task :: tasks) = (.error e, p') := by
  rw [exec, h]

/-- More tasks are carried out once the ones before have succeeded. -/
theorem exec_append (done later : List Task) :
    exec settings explorer p (done ++ later) =
      match exec settings explorer p done with
      | (.error e, p) => (.error e, p)
      | (.ok _, p) => exec settings explorer p later := by
  induction done generalizing p with
  | nil => rfl
  | cons task done ih =>
      rcases hTask : perform settings explorer p task with ⟨result, next⟩
      cases result with
      | error e => rw [List.cons_append, exec_cons_error hTask, exec_cons_error hTask]
      | ok _ => rw [List.cons_append, exec_cons_ok hTask, exec_cons_ok hTask, ih]

theorem exec_append_ok {done later : List Task} (h : exec settings explorer p done = (.ok (), p')) :
    exec settings explorer p (done ++ later) = exec settings explorer p' later := by
  rw [exec_append, h]

theorem exec_append_error {done later : List Task} {e : ScanError}
    (h : exec settings explorer p done = (.error e, p')) :
    exec settings explorer p (done ++ later) = (.error e, p') := by
  rw [exec_append, h]

/-- Tasks that fail were carried out up to one of them, which failed. -/
theorem exec_eq_error {e : ScanError} (h : exec settings explorer p tasks = (.error e, p')) :
    ∃ done task later q, tasks = done ++ task :: later ∧
      exec settings explorer p done = (.ok (), q) ∧
      perform settings explorer q task = (.error e, p') := by
  induction tasks generalizing p with
  | nil => cases h
  | cons task tasks ih =>
      rcases hTask : perform settings explorer p task with ⟨result, next⟩
      cases result with
      | error failure =>
          rw [exec_cons_error hTask] at h
          cases h
          exact ⟨[], task, tasks, p, rfl, rfl, hTask⟩
      | ok _ =>
          rw [exec_cons_ok hTask] at h
          obtain ⟨done, failed, later, q, rfl, hDone, hFailed⟩ := ih h
          exact ⟨task :: done, failed, later, q, rfl, by rw [exec_cons_ok hTask, hDone], hFailed⟩

/-- Tasks succeed one after another. -/
inductive Succeeds (settings : Settings) (explorer : Explorer σ) :
    Progress σ → List Task → Progress σ → Prop where
  | done (p : Progress σ) : Succeeds settings explorer p [] p
  | step {p next last : Progress σ} {task : Task} {tasks : List Task}
      (hTask : perform settings explorer p task = (.ok (), next))
      (hRest : Succeeds settings explorer next tasks last) :
      Succeeds settings explorer p (task :: tasks) last

/-- All tasks succeed exactly if each does in its turn. -/
theorem exec_eq_ok_iff :
    exec settings explorer p tasks = (.ok (), p') ↔ Succeeds settings explorer p tasks p' := by
  constructor
  · intro h
    induction tasks generalizing p with
    | nil =>
        cases h
        exact .done _
    | cons task tasks ih =>
        rcases hTask : perform settings explorer p task with ⟨result, next⟩
        cases result with
        | error e =>
            rw [exec_cons_error hTask] at h
            cases h
        | ok _ =>
            rw [exec_cons_ok hTask] at h
            exact .step hTask (ih h)
  · intro h
    induction h with
    | done => rfl
    | step hTask _ ih => rw [exec_cons_ok hTask, ih]

/-! ### The cases of a task -/

/-- What a task can come to. -/
inductive Performed (settings : Settings) (explorer : Explorer σ) (p : Progress σ) :
    Task → Except ScanError Unit × Progress σ → Prop where
  | unreadable (network : Network) (e : ScanError) :
      Performed settings explorer p (.unreadable network e) (.error e, p)
  | unmade {network : Network} {e : ScanError} {files : FileTree}
      (hMade : settings.shelf.prepare p.desk.files network = (.error e, files)) :
      Performed settings explorer p (.prepare network)
        (.error e, { p with desk := { p.desk with files := files } })
  | made {network : Network} {files : FileTree}
      (hMade : settings.shelf.prepare p.desk.files network = (.ok (), files)) :
      Performed settings explorer p (.prepare network)
        (.ok (), { p with desk := { p.desk with files := files }, outcomes := [] })
  | failed {record : Record} {e : ScanError} {desk : Desk σ}
      (hProcess : process settings explorer p.desk record = (.error e, desk)) :
      Performed settings explorer p (.judge record) (.error e, { p with desk := desk })
  | judged {record : Record} {outcome : Outcome} {desk : Desk σ}
      (hProcess : process settings explorer p.desk record = (.ok outcome, desk)) :
      Performed settings explorer p (.judge record)
        (.ok (), { p with
          desk := desk.happened [.judged record outcome]
          outcomes := p.outcomes ++ [outcome]
          seen := p.seen ++ [(record, outcome)]
          rulings := p.rulings ++ rulingsOf settings explorer p.desk record })
  | concluded (network : Network) :
      Performed settings explorer p (.conclude network)
        (.ok (), { p with
          desk := p.desk.noting [.networkScanned ⟨network, Tally.ofOutcomes p.outcomes⟩]
          summaries := p.summaries ++ [⟨network, Tally.ofOutcomes p.outcomes⟩] })

/-- Carrying out a task comes to one of the cases. -/
theorem performed (settings : Settings) (explorer : Explorer σ) (p : Progress σ) (task : Task) :
    Performed settings explorer p task (perform settings explorer p task) := by
  cases task with
  | unreadable network e => exact .unreadable network e
  | prepare network =>
      rcases hMade : settings.shelf.prepare p.desk.files network with ⟨done, files⟩
      cases done with
      | error e =>
          simp only [perform, hMade]
          exact .unmade hMade
      | ok _ =>
          simp only [perform, hMade]
          exact .made hMade
  | judge record =>
      rcases hProcess : process settings explorer p.desk record with ⟨done, desk⟩
      cases done with
      | error e =>
          simp only [perform, hProcess]
          exact .failed hProcess
      | ok outcome =>
          simp only [perform, hProcess]
          exact .judged hProcess
  | conclude network => exact .concluded network

theorem performed_of_eq {result : Except ScanError Unit × Progress σ}
    (h : perform settings explorer p task = result) : Performed settings explorer p task result :=
  h ▸ performed settings explorer p task

/-! ### What a task touches and records -/

/-- Where a task may write, remove or make a file. -/
def Reach (settings : Settings) (desk : Desk σ) : Task → Location → Prop
  | .judge record, loc =>
      desk.cache.Writes desk.files (keyOf record) loc ∨ loc = spotOf settings desk.files record
  | _, _ => False

/-- The address of a record that the task judges names a file in a directory. -/
def Task.Plain : Task → Prop
  | .judge record => '/' ∉ record.address.toList
  | _ => True

/-- A task touches what is in its reach. -/
theorem perform_touches (settings : Settings) (explorer : Explorer σ) (p : Progress σ)
    (hPlain : task.Plain) :
    FileTree.Touches (Reach settings p.desk task) p.desk.files
      (perform settings explorer p task).2.desk.files := by
  have hCases := performed settings explorer p task
  generalize perform settings explorer p task = result at hCases ⊢
  cases hCases with
  | unreadable => exact FileTree.Touches.refl _
  | unmade hMade => exact (Shelf.prepare_grown hMade).touches
  | made hMade => exact (Shelf.prepare_grown hMade).touches
  | failed hProcess =>
      have hTouches := process_touches settings explorer p.desk hPlain
      rw [hProcess] at hTouches
      exact hTouches
  | judged hProcess =>
      have hTouches := process_touches settings explorer p.desk hPlain
      rw [hProcess] at hTouches
      exact hTouches
  | concluded => exact FileTree.Touches.refl _

/-- What does not depend on files is kept by a task if fetching a source keeps it. -/
theorem perform_keeps (settings : Settings) {P : Cache → FileTree → Prop} (hPlain : task.Plain)
    (hHome : ∀ cache t t', t'.home = t.home → P cache t → P cache t')
    (hFetch : ∀ record, task = .judge record → Wanted settings record →
      P (fetch explorer p.desk record.network record.address).2.cache
        (fetch explorer p.desk record.network record.address).2.files)
    (h : P p.desk.cache p.desk.files) :
    P (perform settings explorer p task).2.desk.cache
      (perform settings explorer p task).2.desk.files := by
  have hCases := performed settings explorer p task
  generalize perform settings explorer p task = result at hCases ⊢
  cases hCases with
  | unreadable => exact h
  | unmade hMade => exact hHome _ _ _ (Shelf.prepare_grown hMade).home h
  | made hMade => exact hHome _ _ _ (Shelf.prepare_grown hMade).home h
  | failed hProcess =>
      have hKept := process_keeps hPlain hHome (hFetch _ rfl) h
      rw [hProcess] at hKept
      exact hKept
  | judged hProcess =>
      have hKept := process_keeps hPlain hHome (hFetch _ rfl) h
      rw [hProcess] at hKept
      exact hKept
  | concluded => exact h

/-- A task leaves the cache apart from the directories that it is apart from. -/
theorem perform_apart (settings : Settings) (explorer : Explorer σ) {root : Path}
    (hPlain : task.Plain) (h : p.desk.cache.Apart p.desk.files root) :
    (perform settings explorer p task).2.desk.cache.Apart
      (perform settings explorer p task).2.desk.files root :=
  perform_keeps settings (P := fun cache t => cache.Apart t root) hPlain
    (fun _ _ _ hHome hApart => hApart.of_home hHome)
    (fun record _ _ => fetch_apart explorer record.network record.address h) h

/-- What a task records: its outcome if it has one, and a query for its record at
most. -/
theorem perform_trace (settings : Settings) (explorer : Explorer σ) (p : Progress σ)
    (task : Task) :
    ∃ events, (perform settings explorer p task).2.desk.trace = p.desk.trace ++ events ∧
      (perform settings explorer p task).2.seen = p.seen ++ Event.outcomes events ∧
      (Event.contracts events = [] ∨ ∃ r, task = .judge r ∧ Event.contracts events = [keyOf r]) := by
  have hCases := performed settings explorer p task
  generalize perform settings explorer p task = result at hCases ⊢
  cases hCases with
  | unreadable => exact ⟨[], by simp, by simp, .inl rfl⟩
  | unmade => exact ⟨[], by simp, by simp, .inl rfl⟩
  | made => exact ⟨[], by simp, by simp, .inl rfl⟩
  | @failed record e desk hProcess =>
      obtain ⟨events, hTrace, hOutcomes, hContracts⟩ := process_trace settings explorer p.desk record
      rw [hProcess] at hTrace
      exact ⟨events, hTrace, by simp [hOutcomes], hContracts.imp id fun h => ⟨record, rfl, h⟩⟩
  | @judged record outcome desk hProcess =>
      obtain ⟨events, hTrace, hOutcomes, hContracts⟩ := process_trace settings explorer p.desk record
      have hDesk : desk.trace = p.desk.trace ++ events := by rw [← hTrace, hProcess]
      have hAsked : Event.contracts (events ++ [.judged record outcome]) = Event.contracts events := by
        simp
      refine ⟨events ++ [.judged record outcome], ?_, by simp [hOutcomes], ?_⟩
      · rw [Desk.happened_trace, hDesk, List.append_assoc]
      · rw [hAsked]
        exact hContracts.imp id fun h => ⟨record, rfl, h⟩
  | concluded network =>
      exact ⟨[.noted (.networkScanned ⟨network, Tally.ofOutcomes p.outcomes⟩)], rfl,
        by simp [Event.outcomes], .inl rfl⟩

/-- What is seen is what is recorded. -/
theorem exec_trace (settings : Settings) (explorer : Explorer σ) (p : Progress σ)
    (tasks : List Task) :
    ∃ events, (exec settings explorer p tasks).2.desk.trace = p.desk.trace ++ events ∧
      (exec settings explorer p tasks).2.seen = p.seen ++ Event.outcomes events := by
  induction tasks generalizing p with
  | nil => exact ⟨[], by simp [exec], by simp [exec]⟩
  | cons task tasks ih =>
      obtain ⟨events, hTrace, hSeen, _⟩ := perform_trace settings explorer p task
      rcases hTask : perform settings explorer p task with ⟨result, next⟩
      rw [hTask] at hTrace hSeen
      cases result with
      | error e =>
          rw [exec_cons_error hTask]
          exact ⟨events, hTrace, hSeen⟩
      | ok _ =>
          obtain ⟨more, hMore, hSeenMore⟩ := ih next
          rw [exec_cons_ok hTask]
          refine ⟨events ++ more, ?_, ?_⟩
          · rw [hMore, hTrace, List.append_assoc]
          · rw [hSeenMore, hSeen, Event.outcomes_append, List.append_assoc]

/-! ### Order -/

/-- A record is judged only after the directory of its network was made, and its
address names a file. -/
inductive Orderly : List Network → List Task → Prop where
  | done (ready : List Network) : Orderly ready []
  | unreadable (ready : List Network) (network : Network) (e : ScanError) (rest : List Task) :
      Orderly ready (.unreadable network e :: rest)
  | prepare {ready : List Network} {network : Network} {rest : List Task}
      (h : Orderly (network :: ready) rest) : Orderly ready (.prepare network :: rest)
  | judge {ready : List Network} {record : Record} {rest : List Task}
      (hReady : record.network ∈ ready) (hAddress : '/' ∉ record.address.toList)
      (h : Orderly ready rest) : Orderly ready (.judge record :: rest)
  | conclude {ready : List Network} {network : Network} {rest : List Task}
      (h : Orderly ready rest) : Orderly ready (.conclude network :: rest)

/-- The first of orderly tasks has a plain address. -/
theorem Orderly.head {ready : List Network} (h : Orderly ready (task :: tasks)) : task.Plain := by
  cases h with
  | unreadable => trivial
  | prepare => trivial
  | judge _ hAddress => exact hAddress
  | conclude => trivial

/-- Behind a task that succeeds, the tasks are in order. -/
theorem Orderly.rest {ready : List Network} (h : Orderly ready (task :: tasks))
    (hTask : perform settings explorer p task = (.ok (), p')) : ∃ ready', Orderly ready' tasks := by
  cases h with
  | unreadable => cases hTask
  | prepare hRest => exact ⟨_, hRest⟩
  | judge _ _ hRest => exact ⟨_, hRest⟩
  | conclude hRest => exact ⟨_, hRest⟩

/-- The directories of some networks are there. -/
def Ready (settings : Settings) (t : FileTree) (ready : List Network) : Prop :=
  ∀ n ∈ ready, t.isDirectory (settings.shelf.directory n) = true

/-- Directories that were made stay ready while none is lost. -/
theorem Ready.of_keeps {t t' : FileTree} {ready : List Network} (h : Ready settings t ready)
    (hKeeps : FileTree.KeepsDirectories t t') : Ready settings t' ready :=
  fun n hn => hKeeps.isDirectory (Shelf.plain_network n) (h n hn)

/-- Where a record is judged next, the directory of its network is there. -/
theorem Orderly.directory {ready : List Network} (h : Orderly ready (task :: tasks))
    (hReady : Ready settings t ready) (record : Record) (hTask : task = .judge record) :
    t.isDirectory (settings.shelf.directory record.network) = true := by
  subst hTask
  cases h with
  | judge hMem => exact hReady _ hMem

/-- A directory that was prepared is there. -/
theorem isDirectory_of_prepare {n : Network}
    (hTask : perform settings explorer p (.prepare n) = (.ok (), p')) :
    p'.desk.files.isDirectory (settings.shelf.directory n) = true := by
  cases performed_of_eq hTask with
  | made hMade => exact Shelf.prepare_isDirectory hMade

/-- After a task that succeeds, the other tasks are in order and the directories that
they need are there. -/
theorem Orderly.step {ready : List Network} (h : Orderly ready (task :: tasks))
    (hReady : Ready settings p.desk.files ready)
    (hTask : perform settings explorer p task = (.ok (), p')) :
    ∃ ready', Orderly ready' tasks ∧ Ready settings p'.desk.files ready' := by
  have hTouches := perform_touches settings explorer p h.head
  rw [hTask] at hTouches
  have hKept := hReady.of_keeps hTouches.toKeepsDirectories
  cases h with
  | unreadable => cases hTask
  | @prepare _ n _ hRest =>
      refine ⟨n :: ready, hRest, ?_⟩
      simp only [Ready, List.mem_cons, forall_eq_or_imp]
      exact ⟨isDirectory_of_prepare hTask, hKept⟩
  | judge _ _ hRest => exact ⟨ready, hRest, hKept⟩
  | conclude hRest => exact ⟨ready, hRest, hKept⟩

/-- The records of a network may be judged once its directory is ready. -/
private theorem orderly_judges {ready : List Network} {network : Network} {later : List Task}
    (hReady : network ∈ ready) (hLater : Orderly ready later) {records : List Record}
    (h : ∀ r ∈ records, r.Proper network) : Orderly ready (records.map .judge ++ later) := by
  induction records with
  | nil => exact hLater
  | cons r records ih =>
      simp only [List.mem_cons, forall_eq_or_imp] at h
      exact .judge (h.1.network ▸ hReady) h.1.noSeparator (ih h.2)

/-- A plan prepares the directory of each network before its records are judged. -/
theorem orderly_plan (settings : Settings) (t : FileTree) (ready networks : List Network) :
    Orderly ready (plan settings t networks) := by
  induction networks generalizing ready with
  | nil => exact .done ready
  | cons network rest ih =>
      rw [plan]
      cases hLoad : Export.load t network (settings.exportPath network) with
      | error e => exact .unreadable ready network e []
      | ok records =>
          have hLater : Orderly (network :: ready) (.conclude network :: plan settings t rest) :=
            .conclude (ih _)
          exact .prepare (orderly_judges List.mem_cons_self hLater (Export.proper_of_load hLoad))

/-! ### A scan is its tasks -/

/-- A cache does not write where exports are. -/
private theorem notExport_of_writes {cache : Cache} {key : CacheKey} {loc : Location}
    (h : cache.Writes t key loc) : Export.NotExport loc := by
  cases cache with
  | memory answers => exact h.elim
  | disk c =>
      rcases h with rfl | rfl
      · refine Export.notExport_append ?_
        rw [CacheKey.getLast?_artifactName]
        simp
      · exact Export.notExport_append (by decide)

/-- No task touches an export. -/
theorem notExport_of_reach {desk : Desk σ} {loc : Location} (h : Reach settings desk task loc) :
    Export.NotExport loc := by
  cases task with
  | unreadable network e => exact h.elim
  | prepare network => exact h.elim
  | conclude network => exact h.elim
  | judge record =>
      rcases h with hWrites | rfl
      · exact notExport_of_writes hWrites
      · rw [spotOf, ← Shelf.location_title]
        refine Export.notExport_append ?_
        rw [Shelf.getLast?_title]
        simp

/-- Orderly tasks touch no export. -/
theorem exec_touches (settings : Settings) (explorer : Explorer σ) {ready : List Network}
    (hTasks : Orderly ready tasks) (p : Progress σ) :
    FileTree.Touches Export.NotExport p.desk.files
      (exec settings explorer p tasks).2.desk.files := by
  induction tasks generalizing ready p with
  | nil => exact FileTree.Touches.refl _
  | cons task tasks ih =>
      have hTask := (perform_touches settings explorer p hTasks.head).mono
        fun _ => notExport_of_reach
      rcases hResult : perform settings explorer p task with ⟨result, next⟩
      rw [hResult] at hTask
      cases result with
      | error e =>
          rw [exec_cons_error hResult]
          exact hTask
      | ok _ =>
          obtain ⟨ready', hRest⟩ := hTasks.rest hResult
          rw [exec_cons_ok hResult]
          exact hTask.trans (ih hRest next)

/-- What does not depend on files is kept by tasks if fetching a source keeps it. -/
theorem exec_keeps (settings : Settings) (explorer : Explorer σ) (p : Progress σ)
    {P : Cache → FileTree → Prop} {ready : List Network}
    (hTasks : Orderly ready tasks)
    (hHome : ∀ cache t t', t'.home = t.home → P cache t → P cache t')
    (hFetch : ∀ (desk : Desk σ) network address, P desk.cache desk.files →
      P (fetch explorer desk network address).2.cache (fetch explorer desk network address).2.files)
    (h : P p.desk.cache p.desk.files) :
    P (exec settings explorer p tasks).2.desk.cache
      (exec settings explorer p tasks).2.desk.files := by
  induction tasks generalizing ready p with
  | nil => exact h
  | cons task tasks ih =>
      have hKept := perform_keeps settings hTasks.head hHome
        (fun record _ _ => hFetch p.desk record.network record.address h) h
      rcases hResult : perform settings explorer p task with ⟨result, next⟩
      rw [hResult] at hKept
      cases result with
      | error e =>
          rw [exec_cons_error hResult]
          exact hKept
      | ok _ =>
          obtain ⟨ready', hRest⟩ := hTasks.rest hResult
          rw [exec_cons_ok hResult]
          exact ih next hRest hKept

/-- While the exports are there and not touched, there is the same to do. -/
theorem plan_of_touches (h : FileTree.Touches Export.NotExport t t')
    (hFiles : ∀ n ∈ networks, t.isFile (settings.exportPath n) = true) :
    plan settings t' networks = plan settings t networks := by
  induction networks with
  | nil => rfl
  | cons network rest ih =>
      simp only [List.mem_cons, forall_eq_or_imp] at hFiles
      rw [plan, plan, (Settings.load_of_touches h hFiles.1).2, ih hFiles.2]

/-- Processing records one after another carries out their tasks. -/
private theorem exec_judges (settings : Settings) (explorer : Explorer σ) (p : Progress σ)
    (records : List Record) :
    (exec settings explorer p (records.map .judge)).1 =
        (processAll settings explorer p.desk records).1.map (fun _ => ()) ∧
      (exec settings explorer p (records.map .judge)).2.desk =
        (processAll settings explorer p.desk records).2 ∧
      (exec settings explorer p (records.map .judge)).2.summaries = p.summaries ∧
      ∀ outcomes, (processAll settings explorer p.desk records).1 = .ok outcomes →
        (exec settings explorer p (records.map .judge)).2.outcomes = p.outcomes ++ outcomes := by
  induction records generalizing p with
  | nil =>
      refine ⟨rfl, rfl, rfl, fun outcomes h => ?_⟩
      cases h
      simp [exec]
  | cons record records ih =>
      rcases hProcess : process settings explorer p.desk record with ⟨done, desk⟩
      cases done with
      | error e =>
          have hTask : perform settings explorer p (.judge record) =
              (.error e, { p with desk := desk }) := by
            simp only [perform, hProcess]
          simp only [List.map_cons, exec_cons_error hTask, processAll, hProcess]
          exact ⟨rfl, trivial, trivial, fun _ h => by cases h⟩
      | ok outcome =>
          have hTask : perform settings explorer p (.judge record) =
              (.ok (), { p with
                desk := desk.happened [.judged record outcome]
                outcomes := p.outcomes ++ [outcome]
                seen := p.seen ++ [(record, outcome)]
                rulings := p.rulings ++ rulingsOf settings explorer p.desk record }) := by
            simp only [perform, hProcess]
          obtain ⟨hResult, hDesk, hSummaries, hOutcomes⟩ := ih
            { p with
              desk := desk.happened [.judged record outcome]
              outcomes := p.outcomes ++ [outcome]
              seen := p.seen ++ [(record, outcome)]
              rulings := p.rulings ++ rulingsOf settings explorer p.desk record }
          simp only [List.map_cons, exec_cons_ok hTask, processAll, hProcess]
          refine ⟨?_, hDesk, hSummaries, fun outcomes h => ?_⟩
          · rw [hResult]
            cases (processAll settings explorer (desk.happened [.judged record outcome]) records).1 <;>
              rfl
          · cases hLater :
              (processAll settings explorer (desk.happened [.judged record outcome]) records).1 with
            | error e =>
                rw [hLater] at h
                cases h
            | ok later =>
                rw [hLater] at h
                cases h
                rw [hOutcomes later hLater]
                simp

/-- Scanning a network carries out its tasks, with or without success. -/
private theorem exec_network (settings : Settings) (explorer : Explorer σ) (p : Progress σ)
    (network : Network) (records : List Record) :
    (exec settings explorer p (.prepare network :: (records.map .judge ++ [.conclude network]))).1 =
        (scanNetwork settings explorer p.desk network records).1.map (fun _ => ()) ∧
      (exec settings explorer p (.prepare network :: (records.map .judge ++ [.conclude network]))).2.desk =
        (scanNetwork settings explorer p.desk network records).2 ∧
      ∀ summary, (scanNetwork settings explorer p.desk network records).1 = .ok summary →
        (exec settings explorer p
          (.prepare network :: (records.map .judge ++ [.conclude network]))).2.summaries =
            p.summaries ++ [summary] := by
  rcases hMade : settings.shelf.prepare p.desk.files network with ⟨made, files⟩
  cases made with
  | error e =>
      have hTask : perform settings explorer p (.prepare network) =
          (.error e, { p with desk := { p.desk with files := files } }) := by
        simp only [perform, hMade]
      simp only [exec_cons_error hTask, scanNetwork, hMade]
      exact ⟨rfl, trivial, fun _ h => by cases h⟩
  | ok _ =>
      have hTask : perform settings explorer p (.prepare network) =
          (.ok (), { p with desk := { p.desk with files := files }, outcomes := [] }) := by
        simp only [perform, hMade]
      obtain ⟨hResult, hDesk, hSummaries, hOutcomes⟩ := exec_judges settings explorer
        { p with desk := { p.desk with files := files }, outcomes := [] } records
      simp only [exec_cons_ok hTask, scanNetwork, hMade]
      rcases hJudges : exec settings explorer
        { p with desk := { p.desk with files := files }, outcomes := [] } (records.map .judge) with
        ⟨judged, last⟩
      rcases hAll : processAll settings explorer { p.desk with files := files } records with
        ⟨outcomes, desk⟩
      simp only [hJudges, hAll] at hResult hDesk hSummaries hOutcomes
      cases outcomes with
      | error e =>
          obtain rfl : judged = .error e := hResult
          rw [exec_append_error hJudges]
          exact ⟨rfl, hDesk, fun _ h => by cases h⟩
      | ok outcomes =>
          obtain rfl : judged = .ok () := hResult
          have hAllOutcomes : last.outcomes = outcomes := hOutcomes outcomes rfl
          rw [exec_append_ok hJudges]
          simp only [exec, perform]
          refine ⟨rfl, ?_, fun summary h => ?_⟩
          · rw [hDesk, hAllOutcomes]
          · cases h
            rw [hSummaries, hAllOutcomes]

/-- The tasks of one network are orderly. -/
private theorem orderly_network {network : Network} {records : List Record}
    (h : ∀ r ∈ records, r.Proper network) :
    Orderly [] (.prepare network :: (records.map .judge ++ [.conclude network])) :=
  .prepare (orderly_judges List.mem_cons_self (.conclude (.done _)) h)

/-- Scanning a network touches no export. -/
theorem scanNetwork_touches (settings : Settings) (explorer : Explorer σ) (desk : Desk σ)
    {network : Network} {records : List Record} (h : ∀ r ∈ records, r.Proper network) :
    FileTree.Touches Export.NotExport desk.files
      (scanNetwork settings explorer desk network records).2.files := by
  have hTouches := exec_touches settings explorer (orderly_network h) (start desk)
  rwa [(exec_network settings explorer (start desk) network records).2.1] at hTouches

/-- Scanning an export touches no export. -/
theorem scanExport_touches (settings : Settings) (explorer : Explorer σ) (desk : Desk σ)
    (network : Network) :
    FileTree.Touches Export.NotExport desk.files
      (scanExport settings explorer desk network).2.files := by
  cases hLoad : Export.load desk.files network (settings.exportPath network) with
  | error e =>
      rw [scanExport_of_error hLoad]
      exact FileTree.Touches.refl _
  | ok records =>
      rw [scanExport_of_load hLoad]
      exact scanNetwork_touches settings explorer desk (Export.proper_of_load hLoad)

/-- An export that is scanned can be read, and what it leaves is not an export. -/
theorem scanExport_eq_ok {desk desk' : Desk σ} {network : Network} {summary : NetworkSummary}
    (h : scanExport settings explorer desk network = (.ok summary, desk')) :
    ∃ records, Export.load desk.files network (settings.exportPath network) = .ok records ∧
      (∀ r ∈ records, r.Proper network) ∧
      scanNetwork settings explorer desk network records = (.ok summary, desk') ∧
      FileTree.Touches Export.NotExport desk.files desk'.files := by
  cases hLoad : Export.load desk.files network (settings.exportPath network) with
  | error e =>
      rw [scanExport_of_error hLoad] at h
      cases h
  | ok records =>
      rw [scanExport_of_load hLoad] at h
      have hRecords := Export.proper_of_load hLoad
      have hTouches := scanNetwork_touches settings explorer desk hRecords
      rw [h] at hTouches
      exact ⟨records, rfl, hRecords, h, hTouches⟩

/-- With every export there, the networks are scanned as their tasks are carried out. -/
private theorem exec_plan (settings : Settings) (explorer : Explorer σ) (p : Progress σ)
    (hFiles : ∀ n ∈ networks, p.desk.files.isFile (settings.exportPath n) = true) :
    (exec settings explorer p (plan settings p.desk.files networks)).1 =
        (scanExports settings explorer p.desk networks).1.map (fun _ => ()) ∧
      (exec settings explorer p (plan settings p.desk.files networks)).2.desk =
        (scanExports settings explorer p.desk networks).2 ∧
      ∀ summaries, (scanExports settings explorer p.desk networks).1 = .ok summaries →
        (exec settings explorer p (plan settings p.desk.files networks)).2.summaries =
          p.summaries ++ summaries := by
  induction networks generalizing p with
  | nil =>
      refine ⟨rfl, rfl, fun summaries h => ?_⟩
      cases h
      simp [exec, plan]
  | cons network rest ih =>
      simp only [List.mem_cons, forall_eq_or_imp] at hFiles
      rw [plan]
      cases hLoad : Export.load p.desk.files network (settings.exportPath network) with
      | error e =>
          rw [scanExports_cons, scanExport_of_error hLoad]
          simp only [tasksOf, exec, perform]
          exact ⟨rfl, trivial, fun _ h => by cases h⟩
      | ok records =>
          obtain ⟨hResult, hDesk, hSummaries⟩ := exec_network settings explorer p network
            records
          have hTasks : tasksOf network (plan settings p.desk.files rest) (.ok records) =
              (.prepare network :: (records.map .judge ++ [.conclude network])) ++
                plan settings p.desk.files rest := by
            simp [tasksOf]
          have hTouches :=
            exec_touches settings explorer (orderly_network (Export.proper_of_load hLoad)) p
          rw [hTasks, scanExports_cons, scanExport_of_load hLoad]
          rcases hFirst : exec settings explorer p
            (.prepare network :: (records.map .judge ++ [.conclude network])) with ⟨done, q⟩
          rcases hScan : scanNetwork settings explorer p.desk network records with ⟨first, desk⟩
          rw [hFirst] at hTouches
          rw [hFirst, hScan] at hResult hDesk hSummaries
          obtain rfl : q.desk = desk := hDesk
          cases first with
          | error e =>
              obtain rfl : done = .error e := hResult
              rw [exec_append_error hFirst]
              exact ⟨rfl, rfl, fun _ h => by cases h⟩
          | ok summary =>
              obtain rfl : done = .ok () := hResult
              rw [exec_append_ok hFirst]
              have hRest : ∀ n ∈ rest, q.desk.files.isFile (settings.exportPath n) = true :=
                fun n hn => (Settings.load_of_touches hTouches (hFiles.2 n hn)).1
              obtain ⟨hLater, hLast, hCounts⟩ := ih q hRest
              rw [plan_of_touches hTouches hFiles.2] at hLater hLast hCounts
              dsimp only
              rw [hLater, hLast]
              refine ⟨?_, rfl, fun summaries h => ?_⟩
              · cases (scanExports settings explorer q.desk rest).1 <;> rfl
              · cases hMore : (scanExports settings explorer q.desk rest).1 with
                | error e =>
                    rw [hMore] at h
                    cases h
                | ok more =>
                    rw [hMore] at h
                    cases h
                    rw [hCounts more hMore, hSummaries summary rfl, List.append_assoc]
                    rfl

/-- Inputs are complete if every network has its export. -/
theorem checkInputs_eq_ok_iff :
    checkInputs settings t networks = .ok () ↔
      ∀ n ∈ networks, t.isFile (settings.exportPath n) = true := by
  unfold checkInputs
  cases hFind : networks.find? fun n => !t.isFile (settings.exportPath n) with
  | none => simpa using hFind
  | some network =>
      have hMissing := List.find?_some hFind
      simp only [reduceCtorEq, false_iff, not_forall]
      exact ⟨network, List.mem_of_find?_eq_some hFind, by simpa using hMissing⟩

/-- A scan that succeeds found every export and scanned each. -/
theorem run_eq_ok {desk desk' : Desk σ} {report : Report}
    (h : run settings explorer desk networks = (.ok report, desk')) :
    (∀ n ∈ networks, desk.files.isFile (settings.exportPath n) = true) ∧
      ∃ summaries, scanExports settings explorer desk networks = (.ok summaries, desk') ∧
        report = ⟨summaries⟩ := by
  unfold run at h
  cases hInputs : checkInputs settings desk.files networks with
  | error failure =>
      rw [hInputs] at h
      cases h
  | ok _ =>
      rw [hInputs] at h
      refine ⟨checkInputs_eq_ok_iff.mp hInputs, ?_⟩
      rcases hScan : scanExports settings explorer desk networks with ⟨done, last⟩
      rw [hScan] at h
      cases done with
      | error failure => cases h
      | ok summaries =>
          cases h
          exact ⟨summaries, rfl, rfl⟩

/-- A scan that lacks an export fails for it and does nothing. -/
theorem run_of_missing {desk : Desk σ} (explorer : Explorer σ) {e : ScanError}
    (h : checkInputs settings desk.files networks = .error e) :
    run settings explorer desk networks = (.error e, desk) ∧
      ∃ n ∈ networks, desk.files.isFile (settings.exportPath n) = false ∧
        e = .missingInput (settings.exportPath n) := by
  refine ⟨by rw [run, h], ?_⟩
  unfold checkInputs at h
  split at h
  · rename_i network hFind
    cases h
    have hMissing := List.find?_some hFind
    exact ⟨network, List.mem_of_find?_eq_some hFind, by simpa using hMissing, rfl⟩
  · cases h

/-- While the exports are not touched, none of them goes missing. -/
theorem checkInputs_of_touches (h : FileTree.Touches Export.NotExport t t')
    (hInputs : checkInputs settings t networks = .ok ()) :
    checkInputs settings t' networks = .ok () := by
  rw [checkInputs_eq_ok_iff] at hInputs ⊢
  exact fun n hn => (Settings.load_of_touches h (hInputs n hn)).1

/-- With every export there, a scan is its tasks carried out. -/
theorem run_eq {desk : Desk σ} (h : checkInputs settings desk.files networks = .ok ()) :
    run settings explorer desk networks =
      ((exec settings explorer (start desk) (plan settings desk.files networks)).1.map fun _ =>
          ⟨(exec settings explorer (start desk) (plan settings desk.files networks)).2.summaries⟩,
        (exec settings explorer (start desk) (plan settings desk.files networks)).2.desk) := by
  obtain ⟨hResult, hDesk, hSummaries⟩ := exec_plan settings explorer (start desk)
    (checkInputs_eq_ok_iff.mp h)
  rw [show (start desk).desk = desk from rfl] at hResult hDesk hSummaries
  rw [run, h]
  dsimp only
  rw [hResult, hDesk]
  cases hScan : (scanExports settings explorer desk networks).1 with
  | error e => rfl
  | ok summaries =>
      rw [hSummaries summaries hScan]
      rfl

/-- A scan touches no export. -/
theorem run_touches (settings : Settings) (explorer : Explorer σ) (desk : Desk σ)
    (networks : List Network) :
    FileTree.Touches Export.NotExport desk.files (run settings explorer desk networks).2.files := by
  cases hInputs : checkInputs settings desk.files networks with
  | error e =>
      rw [(run_of_missing explorer hInputs).1]
      exact FileTree.Touches.refl _
  | ok _ =>
      rw [run_eq hInputs]
      exact exec_touches settings explorer (orderly_plan settings desk.files [] networks) (start desk)

/-- With every export there, a scan over the same exports carries out the same tasks. -/
theorem run_eq_of_touches {desk : Desk σ}
    (hTouches : FileTree.Touches Export.NotExport t desk.files)
    (hInputs : checkInputs settings t networks = .ok ()) :
    run settings explorer desk networks =
      ((exec settings explorer (start desk) (plan settings t networks)).1.map fun _ =>
          ⟨(exec settings explorer (start desk) (plan settings t networks)).2.summaries⟩,
        (exec settings explorer (start desk) (plan settings t networks)).2.desk) := by
  rw [run_eq (checkInputs_of_touches hTouches hInputs),
    plan_of_touches hTouches (checkInputs_eq_ok_iff.mp hInputs)]

end LockTriage.Scan
