import LockTriage.Proofs.Scan.Plan

/-!
The shelf through whole histories. After any number of scans, and at every moment
of one, a contract's file is what the latest verdict on it asks for, whatever was
scanned, answered, cached or broken off in between, and no other file below the
shelf's directory has changed.
-/

namespace LockTriage

/-! ### Following rulings -/

namespace Shelf

/-- What was last said about a contract: the source to be on the shelf, or none. -/
def latest? (key : CacheKey) (rulings : List (CacheKey × Option String)) :
    Option (Option String) :=
  rulings.reverse.lookup key

theorem latest?_append (key : CacheKey) (first second : List (CacheKey × Option String)) :
    latest? key (first ++ second) = (latest? key second).or (latest? key first) := by
  rw [latest?, List.reverse_append, List.lookup_append]
  rfl

/-- Something was last said about a contract that a ruling is about. -/
theorem latest?_ne_none {rulings : List (CacheKey × Option String)}
    {ruling : CacheKey × Option String} (h : ruling ∈ rulings) : latest? ruling.1 rulings ≠ none := by
  intro hNone
  rw [latest?, List.lookup_eq_none_iff] at hNone
  have hOther := hNone ruling (List.mem_reverse.mpr h)
  simp at hOther

/-- What the shelf has for a contract after a ruling on it, if there was one. -/
def expected (before : Option Bytes) : Option (Option String) → Option Bytes
  | none => before
  | some held => held.map Bytes.ofText

/-- The shelf went from one state to another as some rulings asked, and nothing else
below its directory was touched. -/
structure Follows (s : Shelf) (t : FileTree) (rulings : List (CacheKey × Option String))
    (t' : FileTree) : Prop where
  home : t'.home = t.home
  kept : ∀ network address, s.kept? t' network address =
    expected (s.kept? t network address) (latest? ⟨network, address⟩ rulings)
  others : ∀ loc, t.location s.root <+: loc →
    (∀ ruling ∈ rulings, loc ≠ s.spot t ruling.1.network ruling.1.address) →
    t'.content? loc = t.content? loc

variable {s : Shelf} {t t' last : FileTree} {first second : List (CacheKey × Option String)}
variable {network : Network} {address : String} {held : Option String}

/-- Where nothing below the directory was touched, there was nothing to follow. -/
theorem follows_of_keepsFiles (h : FileTree.KeepsFiles s.root t t') : s.Follows t [] t' := by
  refine ⟨h.home, fun network address => ?_, fun loc hBelow _ => h.content loc hBelow⟩
  rw [kept?_eq, kept?_eq, spot_of_home h.home, h.content _ (spot_below s t network address)]
  rfl

theorem Follows.trans (h : s.Follows t first t') (h' : s.Follows t' second last) :
    s.Follows t (first ++ second) last := by
  refine ⟨h'.home.trans h.home, fun network address => ?_, fun loc hBelow hOther => ?_⟩
  · rw [h'.kept, h.kept, latest?_append]
    cases latest? ⟨network, address⟩ second <;> rfl
  · have hFirst := h.others loc hBelow fun r hr => hOther r (List.mem_append_left _ hr)
    have hBelow' : t'.location s.root <+: loc := by rwa [FileTree.location_of_home h.home]
    have hSecond := h'.others loc hBelow' fun r hr => by
      rw [spot_of_home h.home]
      exact hOther r (List.mem_append_right _ hr)
    rw [hSecond, hFirst]

/-- A verdict that is followed is a ruling on its contract alone. -/
theorem follows_of_kept (hTouches : FileTree.Touches (· = s.spot t network address) t t')
    (hKept : s.kept? t' network address = held.map Bytes.ofText) :
    s.Follows t [(⟨network, address⟩, held)] t' := by
  refine ⟨hTouches.home, fun n a => ?_, fun loc hBelow hOther => ?_⟩
  · by_cases hKey : (⟨n, a⟩ : CacheKey) = ⟨network, address⟩
    · cases hKey
      simp [latest?, expected, hKept]
    · have hSpot : s.spot t n a ≠ s.spot t network address := by
        intro hEq
        obtain ⟨rfl, rfl⟩ := spot_injective hEq
        exact hKey rfl
      have hOther : ((⟨n, a⟩ : CacheKey) == ⟨network, address⟩) = false := by
        simpa using hKey
      have hNone : latest? ⟨n, a⟩ [((⟨network, address⟩ : CacheKey), held)] = none := by
        simp [latest?, List.lookup_cons, hOther]
      rw [hNone, kept?_eq, kept?_eq, spot_of_home hTouches.home, hTouches.content _ hSpot]
      rfl
  · exact hTouches.content loc (hOther _ (List.mem_singleton_self _))

/-- In a directory that is there, an update follows the verdict. -/
theorem follows_update {source : String} {vulnerable : Bool} {change : Change} {notes : List Note}
    (hDir : t.isDirectory (s.directory network) = true) (hAddress : '/' ∉ address.toList)
    (hUpdate : s.update t network address source vulnerable = (.ok change, t', notes)) :
    s.Follows t [(⟨network, address⟩, if vulnerable then some source else none)] t' := by
  have hTouches := update_touches s t network hAddress source vulnerable
  have hHolds := holds_update hDir hAddress hUpdate
  rw [hUpdate] at hTouches
  refine follows_of_kept hTouches ?_
  rw [hHolds.kept? hAddress]
  cases vulnerable <;> rfl

/-- An update that fails has not touched a file. -/
theorem follows_update_error {source : String} {vulnerable : Bool} {e : ScanError}
    {notes : List Note}
    (hUpdate : s.update t network address source vulnerable = (.error e, t', notes)) :
    s.Follows t [] t' := by
  have hCases := updated s t network address source vulnerable
  rw [hUpdate] at hCases
  cases hCases with
  | failed hGrown => exact follows_of_keepsFiles (hGrown.keepsFiles s.root)

end Shelf

namespace Scan

variable {σ : Type} {settings : Settings} {explorer : Explorer σ} {desk : Desk σ}
variable {record : Record} {p p' : Progress σ} {tasks : List Task} {task : Task}

/-! ### One record -/

/-- A fetch touches nothing below the directory of the shelf. -/
theorem fetch_follows (explorer : Explorer σ) (record : Record)
    (hApart : desk.cache.Apart desk.files settings.outputDir) :
    settings.shelf.Follows desk.files []
      (fetch explorer desk record.network record.address).2.files := by
  have hFetch := (fetch_alters explorer desk record.network record.address).touches
  exact Shelf.follows_of_keepsFiles
    (hFetch.keepsFiles fun loc hBelow hWrites => hApart loc hWrites.inside hBelow)

/-- In a directory that is there, the shelf follows what processing a record says. -/
theorem process_follows (explorer : Explorer σ) (hAddress : '/' ∉ record.address.toList)
    (hApart : desk.cache.Apart desk.files settings.outputDir)
    (hDir : desk.files.isDirectory (settings.shelf.directory record.network) = true) :
    settings.shelf.Follows desk.files (rulingsOf settings explorer desk record)
      (process settings explorer desk record).2.files := by
  have hCases := processed settings explorer desk record
  generalize hResult : process settings explorer desk record = result at hCases ⊢
  have hFirst := fetch_follows explorer record hApart
  cases hCases with
  | skipped =>
      rw [rulingsOf_of_passed (by rw [hResult]) fun _ => rfl]
      exact Shelf.follows_of_keepsFiles (FileTree.KeepsFiles.refl _ _)
  | suppressed =>
      rw [rulingsOf_of_passed (by rw [hResult]) fun _ => rfl]
      exact Shelf.follows_of_keepsFiles (FileTree.KeepsFiles.refl _ _)
  | unfetched hWanted hFetch =>
      rw [rulingsOf_of_error (by rw [hResult])]
      rw [hFetch] at hFirst
      exact hFirst
  | @judged found desk' hWanted hFetch =>
      have hKeeps := (fetch_alters explorer desk record.network record.address).toKeepsDirectories
      rw [hFetch] at hFirst hKeeps
      have hDir' := hKeeps.isDirectory (Shelf.plain_network record.network) hDir
      rw [judge_files, ← List.nil_append (rulingsOf settings explorer desk record)]
      refine hFirst.trans ?_
      cases hJudge : (judge settings desk' record found).1 with
      | error e =>
          rw [rulingsOf_of_error (by rw [hResult, hJudge])]
          rcases hFollow : follow settings desk'.files record found with ⟨change, t', notes⟩
          cases change with
          | error e => exact Shelf.follows_update_error hFollow
          | ok change =>
              rw [judge_eq, hFollow] at hJudge
              cases hJudge
      | ok outcome =>
          rw [rulingsOf_of_judged hWanted hFetch hJudge]
          obtain ⟨change, t', notes, hFollow, _⟩ := judge_eq_ok hJudge
          rw [hFollow]
          exact Shelf.follows_update hDir' hAddress hFollow

/-! ### Tasks -/

/-- In a directory that is there, the shelf follows what a task says. -/
theorem perform_follows (explorer : Explorer σ) (p : Progress σ) (hPlain : task.Plain)
    (hDir : ∀ record, task = .judge record →
      p.desk.files.isDirectory (settings.shelf.directory record.network) = true)
    (hApart : p.desk.cache.Apart p.desk.files settings.outputDir) :
    ∃ more, (perform settings explorer p task).2.rulings = p.rulings ++ more ∧
      settings.shelf.Follows p.desk.files more (perform settings explorer p task).2.desk.files := by
  have hTouches := perform_touches settings explorer p hPlain
  -- A task that judges nothing touches no file.
  have hSame (hReach : ∀ loc, ¬ Reach settings p.desk task loc) :
      settings.shelf.Follows p.desk.files [] (perform settings explorer p task).2.desk.files :=
    Shelf.follows_of_keepsFiles (hTouches.keepsFiles fun loc _ => hReach loc)
  have hCases := performed settings explorer p task
  generalize perform settings explorer p task = result at hCases hSame ⊢
  cases hCases with
  | unreadable => exact ⟨[], by simp, hSame fun _ h => h⟩
  | unmade => exact ⟨[], by simp, hSame fun _ h => h⟩
  | made => exact ⟨[], by simp, hSame fun _ h => h⟩
  | @failed record e desk hProcess =>
      have hFollows := process_follows explorer hPlain hApart (hDir record rfl)
      rw [rulingsOf_of_error (by rw [hProcess]), hProcess] at hFollows
      exact ⟨[], by simp, hFollows⟩
  | @judged record outcome desk hProcess =>
      have hFollows := process_follows explorer hPlain hApart (hDir record rfl)
      rw [hProcess] at hFollows
      exact ⟨rulingsOf settings explorer p.desk record, rfl, hFollows⟩
  | concluded => exact ⟨[], by simp, hSame fun _ h => h⟩

/-- With the directories of the networks that were prepared there, the shelf follows
what any task says. -/
theorem exec_follows (explorer : Explorer σ) (p : Progress σ) {ready : List Network}
    (hTasks : Orderly ready tasks) (hReady : Ready settings p.desk.files ready)
    (hApart : p.desk.cache.Apart p.desk.files settings.outputDir) :
    ∃ more, (exec settings explorer p tasks).2.rulings = p.rulings ++ more ∧
      settings.shelf.Follows p.desk.files more (exec settings explorer p tasks).2.desk.files := by
  induction tasks generalizing ready p with
  | nil => exact ⟨[], by simp [exec], Shelf.follows_of_keepsFiles (FileTree.KeepsFiles.refl _ _)⟩
  | cons task tasks ih =>
      obtain ⟨more, hRulings, hFollows⟩ :=
        perform_follows explorer p hTasks.head (hTasks.directory hReady) hApart
      have hApart' := perform_apart settings explorer hTasks.head hApart
      rcases hTask : perform settings explorer p task with ⟨result, next⟩
      rw [hTask] at hRulings hFollows hApart'
      cases result with
      | error e =>
          rw [exec_cons_error hTask]
          exact ⟨more, hRulings, hFollows⟩
      | ok _ =>
          obtain ⟨ready', hRest, hReady'⟩ := hTasks.step hReady hTask
          obtain ⟨later, hMore, hLater⟩ := ih next hRest hReady' hApart'
          rw [exec_cons_ok hTask]
          exact ⟨more ++ later, by rw [hMore, hRulings, List.append_assoc], hFollows.trans hLater⟩

end Scan

end LockTriage
