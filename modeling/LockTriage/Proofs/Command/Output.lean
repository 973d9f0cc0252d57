import LockTriage.Proofs.Command.Course
import LockTriage.Proofs.Json.RoundTrip
import LockTriage.Proofs.Scan.Accounts
import Mathlib.Algebra.Order.BigOperators.Group.List

/-!
What a scan does apart from what it shows. The format of the output, quietness, colours and the
level of notes decide what is printed and where, and nothing else: requests, files and the exit code
are settled before anything is printed. A report on standard output stands there alone.
-/

namespace LockTriage

/-- The same web, with a list of the requests that it was sent. -/
def Web.recording {ω : Type} (web : Web ω) : Web (ω × List WebRequest) where
  send := fun request state =>
    let (reply, next) := web.send request state.1
    (reply, (next, state.2 ++ [request]))

/-! ### Standard output -/

namespace Program

/-- What is shown on the way goes to standard error if standard output carries a document, or if
the scan is quiet, and then only notes are shown. -/
theorem flatMap_printShown {options : ScanRequest} (filter : Filter)
    (h : options.format = .json ∨ options.quiet = true) (pieces : List Shown) :
    pieces.flatMap (printShown filter options) =
      Printed.errLines (pieces.flatMap (Shown.lines filter options.quiet)) := by
  rw [Printed.errLines, List.map_flatMap]
  refine List.flatMap_congr fun piece _ => ?_
  cases piece with
  | note n =>
      simp only [printShown, printNotes, Printed.errLines, Shown.lines, List.filter_cons,
        List.filter_nil]
      split <;> rfl
  | line text =>
      rw [printShown, progress, Shown.lines]
      by_cases hQuiet : options.quiet = true
      · rw [if_pos hQuiet, if_pos hQuiet]
        rfl
      · rw [if_neg hQuiet, if_neg hQuiet, h.resolve_right hQuiet]
        rfl

end Program

namespace Printed

theorem standardOutput_append (printed more : List Printed) :
    standardOutput (printed ++ more) = standardOutput printed ++ standardOutput more := by
  rw [standardOutput, List.map_append, String.join_append]
  rfl

theorem standardOutput_out (text : String) : standardOutput [.out text] = text := by
  simp [standardOutput, String.join]

theorem standardOutput_errLines (lines : List String) : standardOutput (errLines lines) = "" := by
  induction lines with
  | nil => rfl
  | cons line lines ih =>
      have hCons : errLines (line :: lines) = [.err (line ++ "\n")] ++ errLines lines := rfl
      rw [hCons, standardOutput_append, ih]
      rfl

end Printed

/-! ### The document of a report -/

namespace Tally

/-- A tally whose number of records fits has only numbers that do. -/
theorem Balanced.exact_document {t : Tally} (h : t.Balanced) (network : Option Network)
    (hFits : (t.records : Int) ≤ JsonNumber.greatestWhole) : (t.document network).Exact := by
  have hNat {n : Nat} (hn : n ≤ t.records) : (Json.nat n).Exact := by
    refine .number ⟨?_, by omega⟩
    have hLeast : JsonNumber.leastWhole ≤ 0 := by decide
    omega
  have hRecords := h.records
  refine .object fun m hm => ?_
  simp only [List.mem_cons, List.not_mem_nil, or_false] at hm
  rcases hm with rfl | rfl | rfl | rfl | rfl | rfl | rfl
  · cases network with
    | none => exact .null
    | some n => exact .text n.name
  all_goals exact hNat (by omega)

end Tally

/-- If the number of all records fits, a report has only numbers that do. -/
theorem Report.exact_document {r : Report} (h : ∀ summary ∈ r.summaries, summary.tally.Balanced)
    (hFits : (r.totals.records : Int) ≤ JsonNumber.greatestWhole) : r.document.Exact := by
  have hTotal := r.totals_eq_sum Tally.records rfl fun _ _ => rfl
  refine .object fun m hm => ?_
  simp only [List.mem_cons, List.not_mem_nil, or_false] at hm
  rcases hm with rfl | rfl
  · refine .list fun item hItem => ?_
    obtain ⟨summary, hMem, rfl⟩ := List.mem_map.mp hItem
    apply (h summary hMem).exact_document
    have hLe : summary.tally.records ≤ r.totals.records := by
      rw [hTotal]
      exact List.le_sum_of_mem (List.mem_map_of_mem hMem)
    omega
  · exact (Report.balanced_totals h).exact_document none hFits

/-! ### Two ways of showing a scan -/

namespace Program

variable {ω : Type} {s s' : Surroundings} {options : ScanRequest} {verbose verbose' : Bool}
variable {web : Web ω} {files : FileTree} {state : ω}

/-- A scan that succeeds has a report with balanced summaries. -/
theorem balanced_of_result [p : Settings.Order] [o : Manifest.Order] {report : Report}
    (h : (course web s files state options).result = .ok report) :
    ∀ summary ∈ report.summaries, summary.tally.Balanced := by
  -- The report does not depend on the order of the manifest, so it may be any.
  rw [← (course_enumerated o (.asEntered _) web s files state options).1] at h
  cases hCourse : course (o := .asEntered _) web s files state options with
  | refused c =>
      rw [hCourse] at h
      cases h
  | unopened settings chosen notes c opened =>
      rw [hCourse] at h
      cases h
  | ran settings chosen notes done desk =>
      rw [hCourse] at h
      obtain ⟨keys, cache, opened, _, hRun⟩ := course_eq_ran (o := .asEntered _) hCourse
      cases done with
      | error e => cases h
      | ok found =>
          cases h
          exact Scan.run_balanced hRun

theorem run_of_scan [p : Settings.Order] [o : Manifest.Order]
    (hScan : Request.parse s.arguments = .ok (.scan options, verbose)) :
    run web s files state = scan web s (noteFilter s verbose) files state options := by
  rw [run, hScan]
  rfl

/-- A scan leaves what its course leaves. -/
theorem left_of_scan [p : Settings.Order] [o : Manifest.Order] (web : Web ω) (files : FileTree)
    (state : ω)
    (hScan : Request.parse s.arguments = .ok (.scan options, verbose)) :
    (run web s files state).exit = (course web s files state options).exit ∧
      (run web s files state).files = ((course web s files state options).left files state).1 ∧
      (run web s files state).web = ((course web s files state options).left files state).2 := by
  rw [run_of_scan hScan, scan_eq]
  exact ⟨rfl, rfl, rfl⟩

/-- What a scan does is the same however it is shown, and whatever orders it meets its tables and the
entries of its manifest in. -/
theorem scan_alike {p p' : Settings.Order} (o o' : Manifest.Order) (web : Web ω) (files : FileTree)
    (state : ω) {format : Format} {quiet noColor : Bool} (hEnvironment : s'.environment = s.environment)
    (hScan : Request.parse s.arguments = .ok (.scan options, verbose))
    (hOther : Request.parse s'.arguments =
      .ok (.scan (options.showing format quiet noColor), verbose'))
    (hTables : SameTables p p' files options) :
    (run (p := p') (o := o') web s' files state).exit = (run (p := p) (o := o) web s files state).exit ∧
      (run (p := p') (o := o') web s' files state).web = (run (p := p) (o := o) web s files state).web ∧
      FileTree.SameButOrder (ManifestPlace (p := p) files options)
        (run (p := p) (o := o) web s files state).files
        (run (p := p') (o := o') web s' files state).files ∧
      (o' = o → (run (p := p') (o := o') web s' files state).files =
        (run (p := p) (o := o) web s files state).files) := by
  obtain ⟨hExit, hFiles, hWeb⟩ := left_of_scan (p := p) (o := o) web files state hScan
  obtain ⟨hExit', hFiles', hWeb'⟩ := left_of_scan (p := p') (o := o') web files state hOther
  obtain ⟨hSameExit, hSameLeft⟩ := course_tables (o := o') hTables web s state
  obtain ⟨hResult, hSameWeb, hSameFiles⟩ :=
    course_enumerated (p := p) o o' web s files state options
  rw [course_showing (p := p') (o := o') web files state options hEnvironment] at hExit' hFiles' hWeb'
  rw [hSameLeft] at hFiles' hWeb'
  rw [hExit, hFiles, hWeb, hExit', hFiles', hWeb', hSameExit]
  refine ⟨?_, hSameWeb, hSameFiles, ?_⟩
  · rw [Course.exit, Course.exit, hResult]
  · rintro rfl
    rfl

/-- Standard output of a scan that succeeds carries a document alone, or nothing if it is quiet. -/
theorem output_of_success [p : Settings.Order] [o : Manifest.Order]
    (hScan : Request.parse s.arguments = .ok (.scan options, verbose))
    (hSuccess : (run web s files state).exit = 0) :
    ∃ report, (course web s files state options).result = .ok report ∧
      (options.format = .json →
        (run web s files state).printed =
            Printed.errLines (((course web s files state options).shown
              (styled s options.noColor)).flatMap
                (Shown.lines (noteFilter s verbose) options.quiet)) ++
              [.out (report.document.pretty ++ "\n")] ∧
          Printed.standardOutput (run web s files state).printed = report.document.pretty ++ "\n" ∧
          ((report.totals.records : Int) ≤ JsonNumber.greatestWhole →
            Json.Raw.ofText? (Printed.standardOutput (run web s files state).printed).toList =
              some report.document.raw)) ∧
      (options.format = .text → options.quiet = true →
        Printed.standardOutput (run web s files state).printed = "") := by
  rw [(left_of_scan web files state hScan).1] at hSuccess
  obtain ⟨report, hResult⟩ := Course.exit_eq_zero_iff.mp hSuccess
  rw [run_of_scan hScan, scan_eq]
  refine ⟨report, hResult, fun hJson => ?_, fun hText hQuiet => ?_⟩
  · dsimp only
    rw [flatMap_printShown _ (.inl hJson), hResult, printResult, printReport, hJson]
    dsimp only
    rw [Printed.standardOutput_append, Printed.standardOutput_errLines, Printed.standardOutput_out,
      String.empty_append]
    refine ⟨rfl, rfl, fun hFits => ?_⟩
    exact (Report.exact_document (balanced_of_result hResult) hFits).ofText?_pretty_line
  · dsimp only
    rw [flatMap_printShown _ (.inr hQuiet), hResult, printResult, printReport, hText]
    dsimp only
    rw [progress, if_pos hQuiet, List.append_nil, Printed.standardOutput_errLines]

/-- However a scan is shown, it exits with the same code, sends the same requests in the same order and
leaves the same files. Two runs may meet the entries of the cache's manifest in orders of their own; the
files are then the same but for the order of these entries, and all the same if the orders are. They may
also meet the tables of the settings in orders of their own, if the tables of each network say the same.

If the scan succeeds and a document is asked for, its standard output is the report as an indented
document and the end of its line, which reads back as the report, while the progress of the scan goes to
standard error, or nowhere if it is quiet. If it succeeds, is quiet and no document is asked for, its
standard output is empty. -/
theorem showing_changes_nothing_else {p p' : Settings.Order} (o o' : Manifest.Order) (web : Web ω)
    (files : FileTree) (state : ω) {format : Format} {quiet noColor : Bool}
    (hEnvironment : s'.environment = s.environment)
    (hScan : Request.parse s.arguments = .ok (.scan options, verbose))
    (hOther : Request.parse s'.arguments =
      .ok (.scan (options.showing format quiet noColor), verbose'))
    (hTables : SameTables p p' files options) :
    let ran := run (p := p) (o := o) web s files state
    let ran' := run (p := p') (o := o') web s' files state
    ran'.exit = ran.exit ∧
      FileTree.SameButOrder (ManifestPlace (p := p) files options) ran.files ran'.files ∧
      (o' = o → ran'.files = ran.files) ∧
      ran'.web = ran.web ∧
      (run (p := p') (o := o') web.recording s' files (state, [])).web =
        (run (p := p) (o := o) web.recording s files (state, [])).web ∧
      (ran.exit = 0 →
        ∃ report, (course (p := p) (o := o) web s files state options).result = .ok report ∧
          (options.format = .json →
            ran.printed =
                Printed.errLines (((course (p := p) (o := o) web s files state options).shown
                  (styled s options.noColor)).flatMap
                    (Shown.lines (noteFilter s verbose) options.quiet)) ++
                  [.out (report.document.pretty ++ "\n")] ∧
              Printed.standardOutput ran.printed = report.document.pretty ++ "\n" ∧
              ((report.totals.records : Int) ≤ JsonNumber.greatestWhole →
                Json.Raw.ofText? (Printed.standardOutput ran.printed).toList =
                  some report.document.raw)) ∧
          (options.format = .text → options.quiet = true →
            Printed.standardOutput ran.printed = "")) := by
  obtain ⟨hExit, hWeb, hFiles, hSame⟩ := scan_alike o o' web files state hEnvironment hScan hOther
    hTables
  obtain ⟨_, hRequests, _, _⟩ := scan_alike o o' web.recording files (state, []) hEnvironment hScan hOther
    hTables
  exact ⟨hExit, hFiles, hSame, hWeb, hRequests, output_of_success (p := p) (o := o) hScan⟩

/-- A scan that notes everything and prints a document. -/
def wordy : Surroundings where
  arguments := ["-v", "scan", "--format=json", "-n", "poly"]
  environment name := if name = "RUST_LOG" then none else some "k"
  terminal := true

/-- The same scan, without a word. -/
def silent : Surroundings where
  arguments := ["scan", "-qn", "poly", "--no-color"]
  environment name := if name = "RUST_LOG" then none else some "k"
  terminal := true

def wordyOptions : ScanRequest where
  networks := some ["poly"]
  settings := none
  inputDir := none
  outputDir := none
  cacheDir := none
  noCache := false
  format := .json
  quiet := false
  noColor := false

/-- An explorer that has one vulnerable source for every address, and counts the requests. -/
def willing : Web Nat where
  send _ asked :=
    (.answered 200 (Bytes.ofText (Scan.Turns.document Scan.Turns.vulnerable).render), asked + 1)

/-- Settings with tables of two networks, and an export with two contracts to judge. -/
def threeRows : FileTree :=
  let tables := "[networks.poly]\napi_url = \"http://[::1]:8080/api\"\n[networks.op]\nenabled = false\n"
  ⟨["w"], [(["w"], .dir), (["w", ".vyper-guard.toml"], .file (Bytes.ofText tables)),
    (["w", "etherscan-export"], .dir),
    (["w", "etherscan-export", "poly.csv"],
      .file (Bytes.ofText "0xA,0.3.0\n0xB,0.2.16\n0xC,0.2.4\n"))]⟩

/-- The last entry is met first. -/
abbrev backward {α : Type} : Enumeration α := ⟨List.reverse, List.reverse_perm⟩

def twoEntries : Manifest.Entries :=
  [("poly:0xA", "a095f63c05a3d8d8.bin"), ("poly:0xB", "8b1df4f34265053f.bin")]

def twoFlagged : Report := ⟨[⟨.poly, ⟨3, 1, 0, 2, 0, 0⟩⟩]⟩

/-- Both runs fetch and flag two contracts and keep the answers, one of them with everything the other
way round and without a word. -/
theorem showing_changes_nothing_else_silent :
    let ran := run willing wordy threeRows 0
    let ran' := run (p := backward) (o := backward) willing silent threeRows 0
    ran'.exit = 0 ∧ ran'.web = 2 ∧
      FileTree.SameButOrder (ManifestPlace threeRows wordyOptions) ran.files ran'.files ∧
      ran.files.readText ⟨".vyper-guard-cache/manifest.json"⟩ = .ok (Manifest.write twoEntries) ∧
      (∃ lines, lines.length = 12 ∧
        ran.printed = Printed.errLines lines ++ [.out (twoFlagged.document.pretty ++ "\n")]) ∧
      Json.Raw.ofText? (Printed.standardOutput ran.printed).toList = some twoFlagged.document.raw ∧
      Printed.standardOutput ran'.printed = "" := by
  have hCourse : let c := course willing wordy threeRows 0 wordyOptions
      (c.result.toOption, (c.left threeRows 0).1.readText ⟨".vyper-guard-cache/manifest.json"⟩,
        (c.left threeRows 0).2, ((c.shown (styled wordy false)).flatMap
          (Shown.lines (noteFilter wordy true) false)).length) =
        (some twoFlagged, .ok (Manifest.write twoEntries), 2, 12) := by decide +kernel
  have hTables : SameTables (.asEntered _) backward threeRows wordyOptions := by
    refine .inr fun settings hSettings => Settings.tablesAgree_of_distinct ?_
    have hNetworks : (scanSettings threeRows wordyOptions).toOption.map Settings.networks =
        some [("poly", ⟨none, some "http://[::1]:8080/api"⟩), ("op", ⟨some false, none⟩)] := by
      decide +kernel
    rw [hSettings] at hNetworks
    rw [Option.some.inj hNetworks]
    decide +kernel
  have hEnvironment : silent.environment = wordy.environment := rfl
  have hScan : Request.parse wordy.arguments = .ok (.scan wordyOptions, true) := by rfl
  have hOther : Request.parse silent.arguments =
      .ok (.scan (wordyOptions.showing .text true true), false) := by rfl
  obtain ⟨hExit, hFiles, _, hWeb, _, hPrinted⟩ :=
    showing_changes_nothing_else (.asEntered _) backward willing threeRows 0 hEnvironment hScan hOther
      hTables
  obtain ⟨hRanExit, hRanFiles, hRanWeb⟩ :=
    left_of_scan willing threeRows 0 hScan
  simp only [Prod.mk.injEq] at hCourse
  obtain ⟨hResult, hManifest, hAsked, hLines⟩ := hCourse
  have hSuccess : (run willing wordy threeRows 0).exit = 0 := by
    rw [hRanExit, Course.exit_eq_zero_iff]
    exact ⟨_, toOption_eq_some_iff.mp hResult⟩
  obtain ⟨report, hReport, hDocument, _⟩ := hPrinted hSuccess
  rw [hReport] at hResult
  obtain rfl := Option.some.inj hResult
  obtain ⟨hLinesPrinted, _, hReadBack⟩ := hDocument rfl
  have hSuccess' := hExit.trans hSuccess
  obtain ⟨_, _, _, hSilent⟩ := output_of_success (p := backward) (o := backward) hOther hSuccess'
  refine ⟨hSuccess', hWeb.trans (hRanWeb.trans hAsked), hFiles, ?_, ⟨_, hLines, hLinesPrinted⟩,
    hReadBack (by decide), hSilent rfl rfl⟩
  rw [hRanFiles]
  exact hManifest

end Program

end LockTriage
