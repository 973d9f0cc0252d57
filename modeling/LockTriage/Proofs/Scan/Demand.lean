import LockTriage.Proofs.Scan.Stable

/-!
What a scan has to ask for. A scan that succeeds asks for the contracts of the records
that have to be judged and were not cached at its start, once each, where the first of
their records stands. The cache alone keeps it from asking twice.
-/

namespace LockTriage

namespace Settings

variable {s : Settings} {v t : String}

private theorem mem_insertText {sorted : List String} :
    v ∈ insertText t sorted ↔ v = t ∨ v ∈ sorted := by
  induction sorted with
  | nil => simp [insertText]
  | cons u rest ih =>
      rw [insertText]
      split_ifs with hSame hLess
      · subst hSame
        simp
      · simp
      · rw [List.mem_cons, ih, List.mem_cons, or_left_comm]

private theorem mem_foldl_insertText {versions sorted : List String} :
    v ∈ versions.foldl (fun sorted w => insertText (Text.trimmed w) sorted) sorted ↔
      v ∈ sorted ∨ ∃ w ∈ versions, Text.trimmed w = v := by
  induction versions generalizing sorted with
  | nil => simp
  | cons w versions ih =>
      rw [List.foldl_cons, ih, mem_insertText]
      simp only [List.mem_cons, exists_eq_or_imp]
      rw [eq_comm (a := v), or_comm (a := Text.trimmed w = v), or_assoc]

/-- A version is affected if, blanks aside, it is one of the vulnerable ones. -/
theorem isAffected_iff {declared : String} :
    s.isAffected declared = true ↔
      ∃ w ∈ s.vulnerableVersions, Text.trimmed w = Text.trimmed declared := by
  rw [isAffected, List.contains_iff_mem, versions, mem_foldl_insertText]
  simp

/-- An address is not suppressed if no pattern that can be parsed matches it. -/
theorem isSuppressed_eq_false_iff {address : String} :
    s.isSuppressed address = false ↔
      ∀ written ∈ s.suppressions, ∀ pattern, Glob.parse? written = some pattern →
        pattern.matches address = false := by
  simp only [isSuppressed, List.any_eq_false, Glob.covers, Option.any_eq_true, not_exists, not_and,
    Bool.not_eq_true]

end Settings

namespace Scan

variable {σ : Type} {settings : Settings} {explorer : Explorer σ} {desk desk' : Desk σ}
variable {network : Network} {address : String} {record : Record} {found : VerifiedSource}
variable {outcome : Outcome} {keys : List CacheKey} {p p' : Progress σ} {task : Task}
variable {tasks : List Task} {networks : List Network}

/-! ### Records that have to be judged -/

/-- The declared version is one of the affected ones, white space around them aside, and
the address matches no pattern of those that have been reviewed. -/
structure Eligible (settings : Settings) (record : Record) : Prop where
  affected : ∃ version ∈ settings.vulnerableVersions,
    Text.trimmed version = Text.trimmed record.declaredVersion
  unreviewed : ∀ written ∈ settings.suppressions, ∀ pattern, Glob.parse? written = some pattern →
    pattern.matches record.address = false

/-- The records that are eligible are those that a scan wants. -/
theorem eligible_iff : Eligible settings record ↔ Wanted settings record := by
  rw [Wanted, Settings.isAffected_iff, Settings.isSuppressed_eq_false_iff]
  exact ⟨fun h => ⟨h.affected, h.unreviewed⟩, fun h => ⟨h.1, h.2⟩⟩

instance (settings : Settings) (record : Record) : Decidable (Eligible settings record) :=
  decidable_of_iff (settings.isAffected record.declaredVersion = true ∧
    settings.isSuppressed record.address = false) eligible_iff.symm

/-- A record that does not have to be judged has its outcome from the settings alone, and
nothing is done for it. -/
theorem process_of_not_eligible (h : ¬ Eligible settings record) :
    ∃ outcome, ∀ {τ : Type} (explorer : Explorer τ) (desk : Desk τ),
      process settings explorer desk record = (.ok outcome, desk) := by
  rw [eligible_iff] at h
  cases hAffected : settings.isAffected record.declaredVersion with
  | false => exact ⟨.skipped record.declaredVersion, fun explorer desk => by simp [process, hAffected]⟩
  | true =>
      cases hReviewed : settings.isSuppressed record.address with
      | false => exact absurd ⟨hAffected, hReviewed⟩ h
      | true => exact ⟨.suppressed, fun explorer desk => by simp [process, hAffected, hReviewed]⟩

/-! ### Contracts that the cache lacks -/

/-- The cache has no answer for the contract. -/
def lacks (cache : Cache) (t : FileTree) (key : CacheKey) : Bool := (cache.get? t key).1.isNone

/-- The contracts that have to be asked for: those of the records that have to be judged
and for which something is lacking, once each, in the order of their first records. -/
def demanded (settings : Settings) (lacking : CacheKey → Bool) (rows : List Record) :
    List CacheKey :=
  ((rows.filter fun record => decide (Eligible settings record) && lacking (keyOf record)).map
    keyOf).eraseDups

/-- A row that is not eligible, or not lacking, demands nothing. -/
theorem demanded_cons_of_not {lacking : CacheKey → Bool} {rows : List Record}
    (h : ¬ (Eligible settings record ∧ lacking (keyOf record) = true)) :
    demanded settings lacking (record :: rows) = demanded settings lacking rows := by
  rw [demanded, List.filter_cons_of_neg (by simpa using h), demanded]

/-- An eligible row that is lacking is demanded, and is lacking no more. -/
theorem demanded_cons_of {lacking : CacheKey → Bool} {rows : List Record}
    (hEligible : Eligible settings record) (hLacking : lacking (keyOf record) = true) :
    demanded settings lacking (record :: rows) =
      keyOf record :: demanded settings (fun key => lacking key && key != keyOf record) rows := by
  have hFirst : (decide (Eligible settings record) && lacking (keyOf record)) = true := by
    simp [hEligible, hLacking]
  rw [demanded, List.filter_cons, if_pos hFirst, List.map_cons, List.eraseDups_cons, demanded,
    List.filter_map, List.filter_filter]
  congr 4
  funext other
  simp [Bool.and_comm, Bool.and_assoc, bne]

/-- What is demanded depends only on which of the eligible rows are lacking. -/
theorem demanded_congr {lacking lacking' : CacheKey → Bool} {rows : List Record}
    (h : ∀ record ∈ rows, Eligible settings record → lacking (keyOf record) = lacking' (keyOf record)) :
    demanded settings lacking rows = demanded settings lacking' rows := by
  have hFilter : (rows.filter fun record => decide (Eligible settings record) && lacking (keyOf record)) =
      rows.filter fun record => decide (Eligible settings record) && lacking' (keyOf record) := by
    refine List.filter_congr fun record hMem => ?_
    by_cases hEligible : Eligible settings record
    · rw [h record hMem hEligible]
    · simp [hEligible]
  rw [demanded, demanded, hFilter]

/-! ### What is asked for and what is lacking then -/

/-- The keys have files of their own, in a cache whose directory is there, and what the
explorer answers for them lasts. -/
structure Steady (explorer : Explorer σ) (keys : List CacheKey) (cache : Cache) (t : FileTree) :
    Prop where
  owns : cache.Owns keys
  stands : cache.Stands t
  lasts : explorer.Lasts keys cache

/-- A cache is steady still when a contract has been fetched. -/
theorem Steady.fetch (h : Steady explorer keys desk.cache desk.files)
    (hMem : ⟨network, address⟩ ∈ keys) :
    Steady explorer keys (fetch explorer desk network address).2.cache
      (fetch explorer desk network address).2.files :=
  ⟨fetch_owns explorer h.owns hMem, fetch_stands explorer network address h.stands,
    fetch_lasts h.lasts⟩

/-- A fetch that gets a source asks if the contract is lacking, and then it is lacking no
more. Nothing else changes for any of the keys. -/
theorem fetch_asks (h : Steady explorer keys desk.cache desk.files)
    (hMem : ⟨network, address⟩ ∈ keys)
    (hFetch : (fetch explorer desk network address).1 = .ok found) :
    (∃ events, (fetch explorer desk network address).2.trace = desk.trace ++ events ∧
      Event.contracts events =
        if lacks desk.cache desk.files ⟨network, address⟩ then [⟨network, address⟩] else []) ∧
    ∀ key ∈ keys, lacks (fetch explorer desk network address).2.cache
        (fetch explorer desk network address).2.files key =
      (lacks desk.cache desk.files key && key != ⟨network, address⟩) := by
  refine ⟨?_, fun key hKey => ?_⟩
  · have hCases := fetched explorer desk network address
    generalize fetch explorer desk network address = result at hCases hFetch ⊢
    cases hCases with
    | @known response notes hFound => exact ⟨notes.map .noted, rfl, by simp [lacks, hFound]⟩
    | keyless => cases hFetch
    | refused => cases hFetch
    | malformed => cases hFetch
    | kept hNew => exact ⟨_, List.append_assoc _ _ _, by simp [lacks, hNew, queryFor]⟩
  · by_cases hSelf : ⟨network, address⟩ = key
    · subst hSelf
      obtain ⟨response, hFound, _⟩ := knows_of_fetch h.lasts hMem hFetch
      rw [lacks, hFound]
      simp
    · have hNe : (key != ⟨network, address⟩) = true := by simpa using Ne.symm hSelf
      rw [lacks, fetch_get?_of_ne explorer h.owns h.stands hKey hMem hSelf, hNe, Bool.and_true, lacks]

/-- The saved source of a contract does not stand among the artifacts of a cache. -/
theorem spot_ne_artifact (s : Shelf) (t : FileTree) (network : Network) (address : String)
    (directory : Path) (name : String) :
    t.location directory ++ ["artifacts", name] ≠ s.spot t network address := by
  intro hSame
  have hNames := (List.append_inj' hSame rfl).2
  have hNone : network.name ≠ "artifacts" := by cases network <;> decide
  exact hNone (List.cons.inj hNames).1.symm

/-- Judging a contract leaves a steady cache as it is. -/
theorem Steady.judge (h : Steady explorer keys desk.cache desk.files) (settings : Settings)
    (found : VerifiedSource) (hAddress : '/' ∉ record.address.toList) :
    Steady explorer keys (judge settings desk record found).2.cache
        (judge settings desk record found).2.files ∧
      ∀ key ∈ keys, lacks (judge settings desk record found).2.cache
        (judge settings desk record found).2.files key = lacks desk.cache desk.files key := by
  have hTouches := Shelf.update_touches settings.shelf desk.files record.network hAddress
    found.source (assessment settings found).vulnerable
  rw [judge_cache, judge_files]
  refine ⟨⟨h.owns, h.stands.keep hTouches.toKeepsDirectories, h.lasts⟩, fun key hKey => ?_⟩
  have hSame := Cache.get?_eq_of_touches h.owns h.stands hKey hTouches fun directory name _ =>
    spot_ne_artifact settings.shelf desk.files record.network record.address directory name
  rw [lacks, follow, hSame, lacks]

/-- An eligible record is asked for just if it is lacking, and is lacking no more. -/
theorem process_asks_for (h : Steady explorer keys desk.cache desk.files)
    (hAddress : '/' ∉ record.address.toList) (hWanted : Wanted settings record)
    (hMem : keyOf record ∈ keys)
    (hProcess : process settings explorer desk record = (.ok outcome, desk')) :
    Steady explorer keys desk'.cache desk'.files ∧
      (∃ events, desk'.trace = desk.trace ++ events ∧
        Event.contracts events =
          if lacks desk.cache desk.files (keyOf record) then [keyOf record] else []) ∧
      ∀ key ∈ keys, lacks desk'.cache desk'.files key =
        (lacks desk.cache desk.files key && key != keyOf record) := by
  rw [process_of_wanted hWanted] at hProcess
  rcases hFetch : fetch explorer desk record.network record.address with ⟨done, middle⟩
  rw [hFetch] at hProcess
  cases done with
  | error e => cases hProcess
  | ok found =>
      have hSteady := h.fetch hMem
      obtain ⟨⟨events, hTrace, hContracts⟩, hLacks⟩ := fetch_asks h hMem (congrArg Prod.fst hFetch)
      rw [hFetch] at hSteady hTrace hLacks
      obtain ⟨hLast, hSame⟩ := hSteady.judge settings found hAddress
      obtain ⟨notes, hNotes⟩ := judge_trace settings middle record found
      obtain rfl : (judge settings middle record found).2 = desk' := congrArg Prod.snd hProcess
      refine ⟨hLast, ⟨events ++ notes.map .noted, ?_, ?_⟩, ?_⟩
      · rw [hNotes, hTrace, List.append_assoc]
      · rw [Event.contracts_append, Event.contracts_noted, List.append_nil]
        exact hContracts
      · exact fun key hKey => (hSame key hKey).trans (hLacks key hKey)

private theorem records_judge_cons (record : Record) (tasks : List Task) :
    records (.judge record :: tasks) = record :: records tasks := rfl

/-- What a task that succeeds asks for stands before what the other tasks demand then. -/
theorem perform_asks_for (hKeys : Covers settings keys (task :: tasks)) (hPlain : task.Plain)
    (h : Steady explorer keys p.desk.cache p.desk.files)
    (hTask : perform settings explorer p task = (.ok (), p')) :
    Steady explorer keys p'.desk.cache p'.desk.files ∧
      ∃ events, p'.desk.trace = p.desk.trace ++ events ∧
        Event.contracts events ++
            demanded settings (lacks p'.desk.cache p'.desk.files) (records tasks) =
          demanded settings (lacks p.desk.cache p.desk.files) (records (task :: tasks)) := by
  have hCongr {lacking lacking' : CacheKey → Bool} (hSame : ∀ key ∈ keys, lacking key = lacking' key) :
      demanded settings lacking (records tasks) = demanded settings lacking' (records tasks) :=
    demanded_congr fun record hMem hEligible =>
      hSame _ (hKeys.tail record hMem (eligible_iff.mp hEligible))
  cases performed_of_eq hTask with
  | @made network files hMade =>
      have hTouches := (Shelf.prepare_grown hMade).touches (S := fun _ => False)
      refine ⟨⟨h.owns, h.stands.keep hTouches.toKeepsDirectories, h.lasts⟩, [], by simp, ?_⟩
      refine hCongr fun key hKey => ?_
      rw [lacks, Cache.get?_eq_of_touches h.owns h.stands hKey hTouches fun _ _ _ => id, lacks]
  | concluded network => exact ⟨h, _, rfl, rfl⟩
  | @judged record outcome desk hProcess =>
      rw [records_judge_cons]
      by_cases hEligible : Eligible settings record
      · have hWanted := eligible_iff.mp hEligible
        obtain ⟨hNext, ⟨events, hTrace, hContracts⟩, hLacks⟩ :=
          process_asks_for h hPlain hWanted (hKeys.head record rfl hWanted) hProcess
        refine ⟨hNext, events ++ [.judged record outcome], ?_, ?_⟩
        · rw [Desk.happened_trace, hTrace, List.append_assoc]
        · rw [Event.contracts_append, Event.contracts_judged, List.append_nil, hContracts]
          cases hLacking : lacks p.desk.cache p.desk.files (keyOf record) with
          | true =>
              rw [demanded_cons_of hEligible hLacking, if_pos rfl, List.singleton_append]
              exact congrArg _ (hCongr hLacks)
          | false =>
              rw [demanded_cons_of_not (by simp [hLacking]), if_neg Bool.false_ne_true,
                List.nil_append]
              -- Nothing was lacking for the record, so nothing changes for the others.
              refine hCongr fun key hKey => (hLacks key hKey).trans ?_
              by_cases hSame : key = keyOf record
              · rw [hSame, hLacking, Bool.false_and]
              · rw [bne_iff_ne.mpr hSame, Bool.and_true]
      · obtain ⟨passed, hPassed⟩ := process_of_not_eligible hEligible
        rw [hPassed explorer p.desk] at hProcess
        cases hProcess
        refine ⟨h, [.judged record outcome], rfl, ?_⟩
        rw [demanded_cons_of_not fun hBoth => hEligible hBoth.1]
        rfl

/-- Tasks that succeed ask for what their records demand. -/
theorem exec_asks_for (explorer : Explorer σ) (p : Progress σ) {ready : List Network}
    (hTasks : Orderly ready tasks) (hKeys : Covers settings keys tasks)
    (h : Steady explorer keys p.desk.cache p.desk.files)
    (hExec : exec settings explorer p tasks = (.ok (), p')) :
    ∃ events, p'.desk.trace = p.desk.trace ++ events ∧
      Event.contracts events =
        demanded settings (lacks p.desk.cache p.desk.files) (records tasks) := by
  induction tasks generalizing ready p with
  | nil =>
      cases hExec
      exact ⟨[], by simp, rfl⟩
  | cons task tasks ih =>
      rcases hTask : perform settings explorer p task with ⟨result, next⟩
      cases result with
      | error e =>
          rw [exec_cons_error hTask] at hExec
          cases hExec
      | ok _ =>
          rw [exec_cons_ok hTask] at hExec
          obtain ⟨ready', hRest⟩ := hTasks.rest hTask
          obtain ⟨hNext, events, hEvents, hDemanded⟩ := perform_asks_for hKeys hTasks.head h hTask
          obtain ⟨more, hMore, hContracts⟩ := ih next hRest hKeys.tail hNext hExec
          refine ⟨events ++ more, ?_, ?_⟩
          · rw [hMore, hEvents, List.append_assoc]
          · rw [Event.contracts_append, hContracts, hDemanded]

/-- The first tasks of a plan that succeeds succeed. -/
theorem exec_take {last : Progress σ} (h : exec settings explorer p tasks = (.ok (), last))
    (count : Nat) : ∃ middle, exec settings explorer p (tasks.take count) = (.ok (), middle) := by
  rw [← List.take_append_drop count tasks, exec_append] at h
  rcases hFirst : exec settings explorer p (tasks.take count) with ⟨result, middle⟩
  rw [hFirst] at h
  cases result with
  | error e => cases h
  | ok _ => exact ⟨middle, rfl⟩

theorem Covers.take (h : Covers settings keys tasks) (count : Nat) :
    Covers settings keys (tasks.take count) := by
  intro record hMem
  refine h record ?_
  have hSplit := congrArg records (List.take_append_drop count tasks)
  rw [records_append] at hSplit
  exact hSplit ▸ List.mem_append_left _ hMem

/-- A scan that succeeds has asked for what it had to and for nothing else: the contracts
of the records that have to be judged and had no answer in the cache at its start, once
each, in the order of their first records. The same holds at every moment for the records
that were reached. A record that does not have to be judged gets its outcome without the
cache, the explorer, the keys or the files, and changes none of them. A cache on disk is
one in which the contracts have files of their own, and it is given answers that were read
from text, which it can give back. -/
theorem run_asks_for (settings : Settings) (explorer : Explorer σ) (desk : Desk σ)
    (networks : List Network) (keys : List CacheKey) {report : Report} {final : Desk σ}
    (hRun : run settings explorer desk networks = (.ok report, final))
    (hKeys : ∀ record ∈ rows settings desk.files networks, Eligible settings record →
      keyOf record ∈ keys)
    (hOwns : desk.cache.Owns keys) (hStands : desk.cache.Stands desk.files)
    (hLasts : explorer.Lasts keys desk.cache) :
    (∃ events, final.trace = desk.trace ++ events ∧
      Event.contracts events = demanded settings (lacks desk.cache desk.files)
        (rows settings desk.files networks)) ∧
    (∀ count, ∃ events,
      (moment settings explorer desk networks count).desk.trace = desk.trace ++ events ∧
      Event.contracts events = demanded settings (lacks desk.cache desk.files)
        (records ((agenda settings desk.files networks).take count))) ∧
    ∀ record, ¬ Eligible settings record → ∃ outcome, ∀ {τ : Type} (explorer : Explorer τ)
      (desk : Desk τ), process settings explorer desk record = (.ok outcome, desk) := by
  obtain ⟨last, hInputs, hExec, rfl, rfl⟩ := exec_of_run hRun
  have hSteady : Steady explorer keys (start desk).desk.cache (start desk).desk.files :=
    ⟨hOwns, hStands, hLasts⟩
  have hTasks := orderly_plan settings desk.files [] networks
  have hCovers : Covers settings keys (plan settings desk.files networks) :=
    covers_plan fun record hMem hWanted => hKeys record hMem (eligible_iff.mpr hWanted)
  have hRows : records (plan settings desk.files networks) = rows settings desk.files networks :=
    ((records_plan settings desk.files networks).2 (exec_seen hExec).2).1
  have hAgenda : agenda settings desk.files networks = plan settings desk.files networks := by
    rw [agenda, hInputs]
  refine ⟨?_, fun count => ?_, fun record h => process_of_not_eligible h⟩
  · rw [← hRows]
    exact exec_asks_for explorer (start desk) hTasks hCovers hSteady hExec
  · obtain ⟨middle, hMiddle⟩ := exec_take hExec count
    rw [moment, hAgenda, hMiddle]
    exact exec_asks_for explorer (start desk) (hTasks.take count) (hCovers.take count) hSteady hMiddle

end Scan

namespace Scan.Turns

/-- An export with a contract three times, of which the first row declares another
version, and one that is cached. -/
def crowded : Desk Unit :=
  ⟨⟨["w"], [(["w"], .dir), (["w", "in"], .dir), (["w", "in", "poly.csv"],
      .file (Bytes.ofText "0xA,0.2.0\n0xB,0.3.0\n0xA, 0.3.0\n0xA,0.2.15\n"))]⟩,
    .memory [(⟨.poly, "0xB"⟩, document "")], keys, (), []⟩

theorem run_asks_for_turns :
    ∃ report final, run settings thorough crowded [.poly] = (.ok report, final) ∧
      Event.contracts final.trace = [⟨.poly, "0xA"⟩] := by
  have hReport : (run settings thorough crowded [.poly]).1.isOk = true := by decide +kernel
  rcases hRun : run settings thorough crowded [.poly] with ⟨result, final⟩
  rw [hRun] at hReport
  cases result with
  | error e => cases hReport
  | ok report =>
      obtain ⟨⟨events, hTrace, hContracts⟩, _⟩ := run_asks_for settings thorough crowded [.poly]
        ((rows settings crowded.files [.poly]).map keyOf) hRun
        (fun record hMem _ => List.mem_map_of_mem hMem) trivial trivial fun _ _ _ _ _ => trivial
      refine ⟨report, final, rfl, ?_⟩
      rw [hTrace, show crowded.trace = [] from rfl, List.nil_append, hContracts]
      decide +kernel

end Scan.Turns

end LockTriage
