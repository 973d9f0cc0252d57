import LockTriage.Proofs.Scan.Plan

/-!
The order of a scan. Whatever goes wrong and wherever, the outcomes that were
observed belong to the first records of the exports, in their order, and nothing
after the step that failed has left a trace.
-/

namespace LockTriage.Scan

variable {σ : Type} {settings : Settings} {explorer : Explorer σ} {desk : Desk σ}
variable {p p' : Progress σ} {tasks : List Task} {task : Task} {networks : List Network}

/-- The records of the exports that can be read, network by network. -/
def rows (settings : Settings) (t : FileTree) (networks : List Network) : List Record :=
  networks.flatMap fun n => ((Export.load t n (settings.exportPath n)).toOption).getD []

/-! ### The records of tasks -/

@[simp] theorem records_append (first second : List Task) :
    records (first ++ second) = records first ++ records second := List.filterMap_append

@[simp] theorem records_judges (rs : List Record) : records (rs.map .judge) = rs := by
  simp [records, List.filterMap_map]

/-- What is judged are records of the exports in their order, and all of them if
every export can be read. -/
theorem records_plan (settings : Settings) (t : FileTree) (networks : List Network) :
    records (plan settings t networks) <+: rows settings t networks ∧
      ((∀ n e, .unreadable n e ∉ plan settings t networks) →
        records (plan settings t networks) = rows settings t networks ∧
          ∀ n ∈ networks, (Export.load t n (settings.exportPath n)).isOk = true) := by
  induction networks with
  | nil => exact ⟨List.prefix_refl _, fun _ => ⟨rfl, by simp⟩⟩
  | cons network rest ih =>
      obtain ⟨hPrefix, hAll⟩ := ih
      simp only [plan, rows, List.flatMap_cons]
      cases hLoad : Export.load t network (settings.exportPath network) with
      | error e =>
          refine ⟨List.nil_prefix, fun hReadable => ?_⟩
          exact absurd List.mem_cons_self (hReadable network e)
      | ok rs =>
          have hRecords : records (tasksOf network (plan settings t rest) (.ok rs)) =
              rs ++ records (plan settings t rest) := by
            have hJudges := records_judges rs
            rw [tasksOf]
            simp only [records, List.filterMap_cons, List.filterMap_append] at hJudges ⊢
            rw [hJudges]
          rw [hRecords]
          refine ⟨(List.prefix_append_right_inj rs).mpr hPrefix, fun hReadable => ?_⟩
          have hRest : ∀ n e, .unreadable n e ∉ plan settings t rest := by
            intro n e hMem
            refine hReadable n e ?_
            simp [tasksOf, hMem]
          obtain ⟨hEq, hOk⟩ := hAll hRest
          refine ⟨by rw [hEq]; rfl, ?_⟩
          simp only [List.mem_cons, forall_eq_or_imp]
          exact ⟨by rw [hLoad]; rfl, hOk⟩

theorem load_of_unreadable {t : FileTree} {n : Network} {e : ScanError}
    (h : .unreadable n e ∈ plan settings t networks) :
    n ∈ networks ∧ Export.load t n (settings.exportPath n) = .error e := by
  induction networks with
  | nil => cases h
  | cons network rest ih =>
      rw [plan] at h
      cases hLoad : Export.load t network (settings.exportPath network) with
      | error failure =>
          rw [hLoad, tasksOf, List.mem_singleton] at h
          cases h
          exact ⟨List.mem_cons_self, hLoad⟩
      | ok rs =>
          rw [hLoad, tasksOf] at h
          have hMem : .unreadable n e ∈ plan settings t rest := by simpa using h
          exact ⟨List.mem_cons_of_mem _ (ih hMem).1, (ih hMem).2⟩

/-! ### What is seen -/

/-- What a task leaves when it fails: the desk as the failure left it. -/
inductive Fails (settings : Settings) (explorer : Explorer σ) (desk : Desk σ) :
    Task → ScanError → Desk σ → Prop where
  | unreadable (n : Network) (e : ScanError) : Fails settings explorer desk (.unreadable n e) e desk
  | prepare {n : Network} {e : ScanError} {files : FileTree}
      (h : settings.shelf.prepare desk.files n = (.error e, files)) :
      Fails settings explorer desk (.prepare n) e { desk with files := files }
  | judge {record : Record} {e : ScanError} {last : Desk σ}
      (h : process settings explorer desk record = (.error e, last)) :
      Fails settings explorer desk (.judge record) e last

theorem fails_of_perform {e : ScanError} (h : perform settings explorer p task = (.error e, p')) :
    Fails settings explorer p.desk task e p'.desk ∧ p'.seen = p.seen := by
  cases performed_of_eq h with
  | unreadable n => exact ⟨.unreadable n e, rfl⟩
  | unmade hMade => exact ⟨.prepare hMade, rfl⟩
  | failed hProcess => exact ⟨.judge hProcess, rfl⟩

/-- A task that succeeds adds its record with the outcome of processing it. -/
theorem perform_seen (h : perform settings explorer p task = (.ok (), p')) :
    (∀ n e, task ≠ .unreadable n e) ∧
      ((records [task] = [] ∧ p'.seen = p.seen) ∨
        ∃ record outcome, task = .judge record ∧
          (process settings explorer p.desk record).1 = .ok outcome ∧
          p'.seen = p.seen ++ [(record, outcome)]) := by
  cases performed_of_eq h with
  | made => exact ⟨by simp, .inl ⟨rfl, rfl⟩⟩
  | @judged record outcome desk hProcess =>
      exact ⟨by simp, .inr ⟨record, outcome, rfl, by rw [hProcess], rfl⟩⟩
  | concluded => exact ⟨by simp, .inl ⟨rfl, rfl⟩⟩

/-- Tasks that succeed were all carried out. -/
theorem exec_seen (h : exec settings explorer p tasks = (.ok (), p')) :
    p'.seen.map Prod.fst = p.seen.map Prod.fst ++ records tasks ∧
      ∀ n e, .unreadable n e ∉ tasks := by
  rw [exec_eq_ok_iff] at h
  induction h with
  | done => simp [records]
  | @step p next last task tasks hTask _ ih =>
      obtain ⟨hSeen, hRest⟩ := ih
      obtain ⟨hReadable, hCases⟩ := perform_seen hTask
      refine ⟨?_, fun n e hMem => ?_⟩
      · have hSplit : records (task :: tasks) = records [task] ++ records tasks :=
          records_append [task] tasks
        rw [hSeen, hSplit]
        rcases hCases with ⟨hNone, hSame⟩ | ⟨record, outcome, rfl, _, hMore⟩
        · rw [hSame, hNone, List.nil_append]
        · rw [hMore]
          simp [records]
      · rcases List.mem_cons.mp hMem with rfl | hMem
        · exact hReadable n e rfl
        · exact hRest n e hMem

/-- Each outcome that is seen is that of processing its record, after what was seen
before it. -/
theorem exec_seen_split {seen rest : List (Record × Outcome)} {record : Record} {outcome : Outcome}
    (h : (exec settings explorer p tasks).2.seen = p.seen ++ (seen ++ (record, outcome) :: rest)) :
    ∃ done later q, tasks = done ++ .judge record :: later ∧
      exec settings explorer p done = (.ok (), q) ∧ q.seen = p.seen ++ seen ∧
      (process settings explorer q.desk record).1 = .ok outcome := by
  induction tasks generalizing p seen with
  | nil => simp [exec] at h
  | cons task tasks ih =>
      rcases hTask : perform settings explorer p task with ⟨result, next⟩
      cases result with
      | error e =>
          rw [exec_cons_error hTask, (fails_of_perform hTask).2] at h
          simp at h
      | ok _ =>
          rw [exec_cons_ok hTask] at h
          rcases (perform_seen hTask).2 with ⟨_, hSame⟩ | ⟨r, o, rfl, hProcess, hMore⟩
          · rw [← hSame] at h
            obtain ⟨done, later, q, rfl, hDone, hSeen, hOutcome⟩ := ih h
            exact ⟨task :: done, later, q, rfl, by rw [exec_cons_ok hTask, hDone],
              by rw [hSeen, hSame], hOutcome⟩
          · obtain ⟨events, _, hAll⟩ := exec_trace settings explorer next tasks
            cases seen with
            | nil =>
                rw [hAll, hMore, List.append_assoc] at h
                have hHead := List.append_cancel_left h
                simp only [List.singleton_append, List.nil_append, List.cons.injEq,
                  Prod.mk.injEq] at hHead
                obtain ⟨⟨rfl, rfl⟩, _⟩ := hHead
                exact ⟨[], tasks, p, rfl, rfl, by simp, hProcess⟩
            | cons first seen =>
                have hFirst : (r, o) = first := by
                  rw [hAll, hMore, List.append_assoc] at h
                  have hHead := List.append_cancel_left h
                  simp only [List.cons_append, List.cons.injEq] at hHead
                  exact hHead.1
                subst hFirst
                have hNext : (exec settings explorer next tasks).2.seen =
                    next.seen ++ (seen ++ (record, outcome) :: rest) := by
                  rw [h, hMore]
                  simp
                obtain ⟨done, later, q, rfl, hDone, hSeen, hOutcome⟩ := ih hNext
                refine ⟨.judge r :: done, later, q, rfl, by rw [exec_cons_ok hTask, hDone], ?_,
                  hOutcome⟩
                rw [hSeen, hMore]
                simp

/-! ### The tasks of a scan

The tasks of a scan start with nothing seen, so what has been seen is what the
tasks saw. -/

theorem start_seen {last : Progress σ}
    (h : exec settings explorer (start desk) tasks = (.ok (), last)) :
    records tasks = last.seen.map Prod.fst ∧ ∀ n e, .unreadable n e ∉ tasks := by
  obtain ⟨hSeen, hReadable⟩ := exec_seen h
  have hStart : (start desk).seen = [] := rfl
  rw [hStart, List.map_nil, List.nil_append] at hSeen
  exact ⟨hSeen.symm, hReadable⟩

/-- Where a scan's tasks stop, those before were carried out, and what was seen is
what they saw. -/
theorem start_stopped {e : ScanError} {last : Progress σ}
    (h : exec settings explorer (start desk) tasks = (.error e, last)) :
    ∃ done task later q, tasks = done ++ task :: later ∧
      exec settings explorer (start desk) done = (.ok (), q) ∧
      records done = last.seen.map Prod.fst ∧ q.seen = last.seen ∧
      Fails settings explorer q.desk task e last.desk := by
  obtain ⟨done, task, later, q, hTasks, hDone, hFailed⟩ := exec_eq_error h
  obtain ⟨hFails, hSame⟩ := fails_of_perform hFailed
  refine ⟨done, task, later, q, hTasks, hDone, ?_, hSame.symm, hFails⟩
  rw [(start_seen hDone).1, hSame]

/-- However a scan's tasks end, what was seen belongs to the first of their records. -/
theorem start_seen_prefix (settings : Settings) (explorer : Explorer σ) (desk : Desk σ)
    (tasks : List Task) :
    (exec settings explorer (start desk) tasks).2.seen.map Prod.fst <+: records tasks := by
  rcases hExec : exec settings explorer (start desk) tasks with ⟨result, last⟩
  cases result with
  | ok _ => exact (start_seen hExec).1 ▸ List.prefix_refl _
  | error e =>
      obtain ⟨done, task, later, q, rfl, _, hRecords, _⟩ := start_stopped hExec
      rw [records_append, hRecords]
      exact List.prefix_append _ _

theorem start_seen_split {seen rest : List (Record × Outcome)} {record : Record}
    {outcome : Outcome}
    (h : (exec settings explorer (start desk) tasks).2.seen = seen ++ (record, outcome) :: rest) :
    ∃ done later p, tasks = done ++ .judge record :: later ∧
      exec settings explorer (start desk) done = (.ok (), p) ∧
      records done = seen.map Prod.fst ∧ p.seen = seen ∧
      (process settings explorer p.desk record).1 = .ok outcome := by
  have hStart : (start desk).seen = [] := rfl
  rw [← List.nil_append (seen ++ _), ← hStart] at h
  obtain ⟨done, later, p, hTasks, hDone, hBefore, hOutcome⟩ := exec_seen_split h
  rw [hStart, List.nil_append] at hBefore
  refine ⟨done, later, p, hTasks, hDone, ?_, hBefore, hOutcome⟩
  rw [(start_seen hDone).1, hBefore]

/-- The record at which a scan stops comes right after those that were seen. -/
theorem records_stopped {done later : List Task} {record : Record} {rs : List Record}
    (hPrefix : records (done ++ .judge record :: later) <+: rs) :
    records done ++ [record] <+: rs := by
  have hNext : records (done ++ .judge record :: later) =
      records done ++ [record] ++ records later := by
    simp [records]
  rw [hNext] at hPrefix
  exact (List.prefix_append _ _).trans hPrefix

/-! ### A scan -/

/-- The outcomes that a scan observes are those of the first records of the
exports, in their order, each as it was when the record's turn came. All of them
are observed if the scan succeeds. A scan that fails lacks an export and has done
nothing, or it has carried out its tasks up to one that failed, and what that one
left is what the scan leaves. -/
theorem run_in_order (settings : Settings) (explorer : Explorer σ) (desk : Desk σ)
    (networks : List Network) :
    ∃ events, (run settings explorer desk networks).2.trace = desk.trace ++ events ∧
      (Event.outcomes events).map Prod.fst <+: rows settings desk.files networks ∧
      (∀ seen record outcome rest, Event.outcomes events = seen ++ (record, outcome) :: rest →
        ∃ done later p, plan settings desk.files networks = done ++ .judge record :: later ∧
          exec settings explorer (start desk) done = (.ok (), p) ∧
          records done = seen.map Prod.fst ∧ p.seen = seen ∧
          (process settings explorer p.desk record).1 = .ok outcome) ∧
      (∀ report, (run settings explorer desk networks).1 = .ok report →
        (∀ n ∈ networks, (Export.load desk.files n (settings.exportPath n)).isOk = true) ∧
          (Event.outcomes events).map Prod.fst = rows settings desk.files networks) ∧
      ∀ e, (run settings explorer desk networks).1 = .error e →
        ((∃ n ∈ networks, desk.files.isFile (settings.exportPath n) = false ∧
            e = .missingInput (settings.exportPath n)) ∧
          run settings explorer desk networks = (.error e, desk)) ∨
        ∃ done task later p, plan settings desk.files networks = done ++ task :: later ∧
          exec settings explorer (start desk) done = (.ok (), p) ∧
          records done = (Event.outcomes events).map Prod.fst ∧ p.seen = Event.outcomes events ∧
          Fails settings explorer p.desk task e (run settings explorer desk networks).2 ∧
          (∀ n failure, task = .unreadable n failure →
            Export.load desk.files n (settings.exportPath n) = .error failure) ∧
          ∀ record, task = .judge record →
            (Event.outcomes events).map Prod.fst ++ [record] <+: rows settings desk.files networks := by
  cases hInputs : checkInputs settings desk.files networks with
  | error e =>
      obtain ⟨hRun, hMissing⟩ := run_of_missing explorer hInputs
      refine ⟨[], by rw [hRun]; simp, List.nil_prefix, by simp, ?_, ?_⟩
      · intro report hReport
        rw [hRun] at hReport
        cases hReport
      · intro failure hFailure
        rw [hRun] at hFailure
        cases hFailure
        exact .inl ⟨hMissing, hRun⟩
  | ok _ =>
      obtain ⟨hPrefix, hAll⟩ := records_plan settings desk.files networks
      have hFirst := start_seen_prefix settings explorer desk (plan settings desk.files networks)
      obtain ⟨events, hTrace, hSeen⟩ :=
        exec_trace settings explorer (start desk) (plan settings desk.files networks)
      have hStart : (start desk).seen = [] := rfl
      rw [hStart, List.nil_append] at hSeen
      have hSplit := fun seen record outcome rest
          (h : Event.outcomes events = seen ++ (record, outcome) :: rest) =>
        start_seen_split (hSeen.trans h)
      rcases hExec : exec settings explorer (start desk) (plan settings desk.files networks) with
        ⟨result, last⟩
      rw [hExec] at hTrace hSeen hFirst
      rw [run_eq hInputs, hExec]
      refine ⟨events, hTrace, ?_⟩
      rw [← hSeen] at hSplit ⊢
      refine ⟨hFirst.trans hPrefix, hSplit, ?_, ?_⟩
      · intro report hReport
        cases result with
        | error e => cases hReport
        | ok _ =>
            obtain ⟨hRecords, hReadable⟩ := start_seen hExec
            obtain ⟨hRows, hOk⟩ := hAll hReadable
            exact ⟨hOk, hRecords.symm.trans hRows⟩
      · intro e hError
        cases result with
        | ok _ => cases hError
        | error failure =>
            cases hError
            obtain ⟨done, task, later, q, hPlan, hDone, hRecords, hSame, hFails⟩ :=
              start_stopped hExec
            rw [hPlan] at hPrefix
            refine .inr ⟨done, task, later, q, hPlan, hDone, hRecords, hSame, hFails, ?_, ?_⟩
            · rintro n failure rfl
              have hMem : .unreadable n failure ∈ plan settings desk.files networks := by
                simp [hPlan]
              exact (load_of_unreadable hMem).2
            · rintro record rfl
              rw [← hRecords]
              exact records_stopped hPrefix

end LockTriage.Scan
