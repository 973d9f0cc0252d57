import LockTriage.Proofs.Command.Output
import LockTriage.Proofs.Scan.History

/-!
A scan and the judgement of a single file agree. Both judge a text by the calls that the settings
allow and by nothing else, so it makes no difference whether the text was an answer of an explorer,
stood in the cache or is read from a file, and the text of a contract that was flagged is in its file
word for word.
-/

namespace LockTriage

/-- The settings judge by the calls that they allow. -/
theorem Settings.classifier_of_calls {own settings : Settings}
    (h : own.extraSafeCalls = settings.extraSafeCalls) : own.classifier = settings.classifier := by
  rw [Settings.classifier, Settings.classifier, h]

namespace Scan

variable {σ : Type} {settings : Settings} {explorer : Explorer σ} {desk desk' : Desk σ}
variable {record : Record} {outcome : Outcome} {found : VerifiedSource}

/-- The outcome of a source that was judged is flagged, with its assessment, if it is found
vulnerable. -/
theorem judge_isFlagged_iff (h : judge settings desk record found = (.ok outcome, desk')) :
    (outcome.isFlagged = true ↔ (assessment settings found).vulnerable = true) ∧
      ∀ version a, outcome = .flagged version a → a = assessment settings found := by
  obtain ⟨change, t', notes, hFollow, rfl⟩ := judge_eq_ok (congrArg Prod.fst h)
  have hCases := Shelf.updated settings.shelf desk.files record.network record.address found.source
    (assessment settings found).vulnerable
  rw [follow] at hFollow
  rw [hFollow] at hCases
  generalize hVulnerable : (assessment settings found).vulnerable = vulnerable at hCases
  cases hCases with
  | saved => exact ⟨⟨fun _ => rfl, fun _ => rfl⟩, fun version a hSame => by cases hSame; rfl⟩
  | removed | absent =>
      constructor
      · constructor <;> intro hNever <;> cases hNever
      · intro version a hSame
        cases hSame

/-- The outcome of a record is that of the source that was got for it. -/
theorem process_isFlagged_iff {middle : Desk σ} (hWanted : Wanted settings record)
    (hFetch : fetch explorer desk record.network record.address = (.ok found, middle))
    (h : process settings explorer desk record = (.ok outcome, desk')) :
    (outcome.isFlagged = true ↔ (settings.classifier.assess found.source).vulnerable = true) ∧
      ∀ version a, outcome = .flagged version a → a = settings.classifier.assess found.source := by
  rw [process_of_wanted hWanted, hFetch] at h
  exact judge_isFlagged_iff h

/-- A scan wrote the file that a path names: it noted that it saved this file, or it is the file of a
contract and is not what it was. -/
def Wrote (settings : Settings) (t : FileTree) (desk : Desk σ) (file : Path) : Prop :=
  (∃ path ∈ Event.saved desk.trace, desk.files.location file = desk.files.location path) ∨
    ∃ key : CacheKey,
      desk.files.location file = settings.shelf.spot desk.files key.network key.address ∧
        shelved? settings desk.files key ≠ shelved? settings t key

/-- What a scan that succeeds wrote is the text of a vulnerable source, unless it is gone. -/
theorem content?_of_wrote {networks : List Network} {report : Report} {file : Path}
    (hFresh : desk.trace = [])
    (h : run settings explorer desk networks = (.ok report, desk'))
    (hWrote : Wrote settings desk.files desk' file) :
    desk'.files.content? (desk'.files.location file) = none ∨
      ∃ source, desk'.files.content? (desk'.files.location file) = some (Bytes.ofText source) ∧
        (settings.classifier.assess source).vulnerable = true := by
  obtain ⟨_, parts, hParts, ⟨events, hTrace, _, hSaved⟩, hExplained⟩ := run_parts h
  rw [hFresh, List.nil_append] at hTrace
  -- Either way the file is that of a contract which the scan did not leave alone.
  obtain ⟨key, hSpot, hTouched⟩ : ∃ key : CacheKey,
      desk'.files.location file = settings.shelf.spot desk'.files key.network key.address ∧
        ((∃ record version a, (record, .flagged version a) ∈ parts.flatten ∧ keyOf record = key) ∨
          shelved? settings desk'.files key ≠ shelved? settings desk.files key) := by
    rcases hWrote with ⟨path, hPath, hLoc⟩ | ⟨key, hLoc, hOther⟩
    · rw [hTrace, hSaved] at hPath
      obtain ⟨⟨record, outcome⟩, hMem, rfl⟩ := List.mem_map.mp hPath
      obtain ⟨hMem, hFlagged⟩ := List.mem_filter.mp hMem
      refine ⟨keyOf record, hLoc.trans (Shelf.location_place _ _ _ ?_), .inl ?_⟩
      · exact plain_of_parts hParts _ hMem
      · cases outcome with
        | flagged version a => exact ⟨record, version, a, hMem, rfl⟩
        | _ => cases hFlagged
    · exact ⟨key, hLoc, .inr hOther⟩
  rw [hSpot]
  cases hExplained key with
  | saved _ _ hAssessed hVulnerable hAfter => exact .inr ⟨_, hAfter, hAssessed ▸ hVulnerable⟩
  | absent hAfter => exact .inl hAfter
  | untouched hUnflagged hAfter =>
      rcases hTouched with ⟨record, version, a, hMem, hKey⟩ | hOther
      · exact absurd hKey (hUnflagged record version a hMem)
      · exact absurd hAfter hOther

end Scan

/-- The settings, the report and the end of a scan that succeeds. -/
def Course.success? {ω : Type} : Course ω → Option (Settings × Report × Desk ω)
  | ran settings _ _ (.ok report) desk => some (settings, report, desk)
  | _ => none

theorem Course.eq_ran_of_success? {ω : Type} {c : Course ω} {settings : Settings} {report : Report}
    {desk : Desk ω} (h : c.success? = some (settings, report, desk)) :
    ∃ chosen notes, c = .ran settings chosen notes (.ok report) desk := by
  cases c with
  | refused c => cases h
  | unopened settings chosen notes c files => cases h
  | ran settings chosen notes done desk =>
      cases done with
      | error e => cases h
      | ok report =>
          cases h
          exact ⟨chosen, notes, rfl⟩

namespace Program

variable {ω : Type} {s : Surroundings} {files : FileTree} {file : Path} {format : Format}
variable {settingsPath : Option Path} {noColor verbose : Bool} {own settings : Settings}

/-! ### The verdict on a file -/

/-- What is printed about a file that was judged. -/
def printAssessment (styled : Bool) (file : Path) (format : Format) (a : Assessment) : List Printed :=
  match format with
  | .json => [.out (a.document.pretty ++ "\n")]
  | .text => Printed.outLines (Console.assessment styled file a)

/-- How standard output starts if a file is possibly vulnerable. -/
def alarm (styled : Bool) (file : Path) : Format → String
  | .json => "\x7b\n  \"vulnerable\": true"
  | .text =>
      let verdict := Style.boldRed.paint styled "POSSIBLY VULNERABLE"
      s!"  [{verdict}] {file.text}\n"

/-- Texts that differ after the same start do not start each other. -/
theorem not_isPrefix_of_ne {start rest more : List Char} {c d : Char} (h : c ≠ d) :
    ¬ start ++ c :: rest <+: start ++ d :: more := by
  rw [List.prefix_append_right_inj, List.cons_prefix_cons]
  exact fun hSame => h hSame.1

/-- The first member of the document of an assessment is the verdict. -/
theorem pretty_assessment (a : Assessment) :
    ∃ rest, a.document.pretty.toList = "\x7b\n  \"vulnerable\": ".toList ++
      ((if a.vulnerable then "true" else "false").toList ++ rest) := by
  have hOpening : "\x7b\n  \"vulnerable\": ".toList =
      '\x7b' :: (Json.newLine 1 ++ Json.quote "vulnerable" ++ [':', ' ']) := by decide +kernel
  have hVerdict : (if a.vulnerable then "true" else "false").toList =
      Json.indented 1 (.bool a.vulnerable) := by
    cases a.vulnerable <;> rfl
  rw [hOpening, hVerdict, Json.pretty, Assessment.document, Json.indented, String.toList_ofList]
  simp only [List.cons_append, List.append_assoc]
  exact ⟨_, rfl⟩

/-- The first line about a file is the verdict. -/
theorem standardOutput_assessment (styled : Bool) (file : Path) (a : Assessment) :
    ∃ rest, Printed.standardOutput (Printed.outLines (Console.assessment styled file a)) =
      "  [" ++ (if a.vulnerable then Style.boldRed.paint styled "POSSIBLY VULNERABLE"
        else Style.boldGreen.paint styled "LOOKS SAFE") ++ "] " ++ file.text ++ "\n" ++ rest := by
  rw [Console.assessment]
  simp only [Printed.outLines, List.cons_append, List.map_cons]
  rw [← List.singleton_append, Printed.standardOutput_append, Printed.standardOutput_out]
  exact ⟨_, rfl⟩

/-- The two verdicts can be told apart, with and without colours. -/
theorem verdicts_differ (styled : Bool) :
    ∃ start c d rest more, c ≠ d ∧
      (Style.boldRed.paint styled "POSSIBLY VULNERABLE").toList = start ++ c :: rest ∧
      (Style.boldGreen.paint styled "LOOKS SAFE").toList = start ++ d :: more := by
  cases styled with
  | false => exact ⟨[], 'P', 'L', _, _, by decide, rfl, rfl⟩
  | true =>
      have hRed : (Style.boldRed.paint true "POSSIBLY VULNERABLE").toList =
          "\x1b[1;3".toList ++ '1' :: "mPOSSIBLY VULNERABLE\x1b[0m".toList := by decide +kernel
      have hGreen : (Style.boldGreen.paint true "LOOKS SAFE").toList =
          "\x1b[1;3".toList ++ '2' :: "mLOOKS SAFE\x1b[0m".toList := by decide +kernel
      exact ⟨_, '1', '2', _, _, by decide, hRed, hGreen⟩

/-- Standard output starts with the alarm if the verdict is that the source is vulnerable, and only
then. -/
theorem alarm_isPrefix_iff (styled : Bool) (file : Path) (format : Format) (a : Assessment) :
    (alarm styled file format).toList <+:
        (Printed.standardOutput (printAssessment styled file format a)).toList ↔
      a.vulnerable = true := by
  cases format with
  | json =>
      obtain ⟨rest, hRest⟩ := pretty_assessment a
      have hAlarm : (alarm styled file .json).toList =
          "\x7b\n  \"vulnerable\": ".toList ++ "true".toList := by simp [alarm]
      rw [printAssessment, Printed.standardOutput_out, String.toList_append, hRest, hAlarm,
        List.append_assoc, List.append_assoc]
      cases a.vulnerable with
      | true => exact iff_of_true ((List.prefix_append_right_inj _).mpr (List.prefix_append _ _)) rfl
      | false => exact iff_of_false (not_isPrefix_of_ne (by decide : 't' ≠ 'f')) Bool.false_ne_true
  | text =>
      obtain ⟨rest, hRest⟩ := standardOutput_assessment styled file a
      have hAlarm : alarm styled file .text =
          "  [" ++ Style.boldRed.paint styled "POSSIBLY VULNERABLE" ++ "] " ++ file.text ++ "\n" := rfl
      rw [printAssessment, hRest, hAlarm]
      cases a.vulnerable with
      | true => exact iff_of_true ⟨rest.toList, by rw [if_pos rfl, ← String.toList_append]⟩ rfl
      | false =>
          obtain ⟨start, c, d, red, green, hNe, hRed, hGreen⟩ := verdicts_differ styled
          refine iff_of_false ?_ Bool.false_ne_true
          simp only [Bool.false_eq_true, if_false, String.toList_append, hRed, hGreen,
            List.append_assoc, List.cons_append]
          rw [List.prefix_append_right_inj]
          exact not_isPrefix_of_ne hNe

/-! ### Judging a file -/

/-- The judgement of a file is that it is possibly vulnerable: it is printed, and the exit code is 1. -/
structure Warns (s : Surroundings) (noColor : Bool) (file : Path) (format : Format) (f : Finish ω) :
    Prop where
  exit : f.exit = 1
  printed : (alarm (styled s noColor) file format).toList <+:
    (Printed.standardOutput f.printed).toList

section

variable (web : Web ω) (state : ω)
variable (hParse : Request.parse s.arguments = .ok (.classify file format settingsPath noColor, verbose))
variable (hLoad : Settings.load files (settingsPath.getD ⟨Settings.fileName⟩) = .ok own)
include hParse hLoad

/-- What cannot be read as a text is a failure. -/
theorem exit_of_unreadable {fault : Fault} (hText : files.readText file = .error fault) :
    (run web s files state).exit = 1 := by
  have hClassify : classify s files file format settingsPath noColor =
      .error ((Complaint.ofFault fault).within s!"Failed to read file: {file.text}") := by
    unfold classify settingsFor
    rw [hLoad, hText]
    rfl
  rw [run, hParse]
  dsimp only [perform]
  rw [hClassify]
  rfl

variable (hCalls : own.extraSafeCalls = settings.extraSafeCalls)
include hCalls

/-- A text that can be read is judged as a scan judges it. -/
theorem run_of_text {source : String} (hText : files.readText file = .ok source) :
    run web s files state =
      ⟨if (settings.classifier.assess source).vulnerable then 1 else 0,
        printAssessment (styled s noColor) file format (settings.classifier.assess source),
        files, state⟩ := by
  have hClassify : classify s files file format settingsPath noColor =
      .ok ((own.classifier.assess source).vulnerable,
        printAssessment (styled s noColor) file format (own.classifier.assess source)) := by
    unfold classify settingsFor
    rw [hLoad, hText]
    rfl
  rw [run, hParse]
  dsimp only [perform]
  rw [hClassify, Settings.classifier_of_calls hCalls]

/-- A text that can be read is warned of if it is found vulnerable, and only then. -/
theorem warns_iff_of_text {source : String} (hText : files.readText file = .ok source) :
    Warns s noColor file format (run web s files state) ↔
      (settings.classifier.assess source).vulnerable = true := by
  rw [run_of_text web state hParse hLoad hCalls hText]
  have hPrinted := alarm_isPrefix_iff (styled s noColor) file format (settings.classifier.assess source)
  constructor
  · exact fun h => hPrinted.mp h.printed
  · exact fun h => ⟨if_pos h, hPrinted.mpr h⟩

/-- What stands for no text or for a vulnerable one makes the exit code 1, and is warned of if it can
be read. -/
theorem warns_of_content
    (hContent : files.content? (files.location file) = none ∨
      ∃ source, files.content? (files.location file) = some (Bytes.ofText source) ∧
        (settings.classifier.assess source).vulnerable = true) :
    (run web s files state).exit = 1 ∧
      ∀ text, files.readText file = .ok text → Warns s noColor file format (run web s files state) := by
  have hReadable {text : String} (hText : files.readText file = .ok text) :
      (settings.classifier.assess text).vulnerable = true := by
    obtain ⟨content, hRead, hDecoded⟩ := FileTree.readText_eq_ok_iff.mp hText
    obtain ⟨_, _, _, hAt⟩ := FileTree.read_eq_ok_iff.mp hRead
    rw [← FileTree.content?_eq_some_iff] at hAt
    rcases hContent with hNone | ⟨source, hSome, hVulnerable⟩
    · rw [hAt] at hNone
      cases hNone
    · rw [hAt] at hSome
      obtain rfl := Option.some.inj hSome
      rw [Bytes.text?_ofText] at hDecoded
      obtain rfl := Option.some.inj hDecoded
      exact hVulnerable
  have hWarns {text : String} (hText : files.readText file = .ok text) :=
    (warns_iff_of_text web state hParse hLoad hCalls hText).mpr (hReadable hText)
  refine ⟨?_, fun text hText => hWarns hText⟩
  cases hText : files.readText file with
  | error fault => exact exit_of_unreadable web state hParse hLoad hText
  | ok text => exact (hWarns hText).exit

end

/-- Opening a cache for a scan makes directories only. -/
theorem openCache_grown {options : ScanRequest} {opened : FileTree} {notes : List Note}
    {result : Except Complaint Cache}
    (h : openCache options settings files = (result, opened, notes)) : FileTree.Grown files opened := by
  unfold openCache at h
  split at h
  · cases h
    exact FileTree.Grown.refl files
  · cases h
    exact DiskCache.load_grown files settings.cacheDir

/-! ### Scans and single files -/

/-- A scan and the judgement of a single file by the same settings agree.

If a source was got for a record and the record was given an outcome, the record is flagged exactly if
judging a file with this source warns of it, which is the case exactly if it exits with code 1 rather
than 0. A document that is asked for is then the assessment of the flagged record.

After a scan that succeeds, judging any file that the scan wrote exits with code 1, and warns of the
file if it can still be read. -/
theorem scan_and_classify_agree {σ α : Type} (web : Web ω) (state : ω)
    (hParse : Request.parse s.arguments = .ok (.classify file format settingsPath noColor, verbose))
    (hLoad : Settings.load files (settingsPath.getD ⟨Settings.fileName⟩) = .ok own)
    (hCalls : own.extraSafeCalls = settings.extraSafeCalls) :
    (∀ (explorer : Explorer σ) desk middle final record found outcome, Scan.Wanted settings record →
      Scan.fetch explorer desk record.network record.address = (.ok found, middle) →
      Scan.process settings explorer desk record = (.ok outcome, final) →
      files.readText file = .ok found.source →
        (outcome.isFlagged = true ↔ Warns s noColor file format (run web s files state)) ∧
        (outcome.isFlagged = true ↔ (run web s files state).exit = 1) ∧
        (outcome.isFlagged = false ↔ (run web s files state).exit = 0) ∧
        ∀ version a, outcome = .flagged version a → format = .json →
          (run web s files state).printed = [.out (a.document.pretty ++ "\n")]) ∧
    ∀ (scanned : Web α) scanning start begun options verbose report final,
      Request.parse scanning.arguments = .ok (.scan options, verbose) →
      (course scanned scanning start begun options).success? = some (settings, report, final) →
      (run scanned scanning start begun).exit = 0 ∧
        (run scanned scanning start begun).files = final.files ∧
        (final.files = files → Scan.Wrote settings start final file →
          (run web s files state).exit = 1 ∧
            ∀ text, files.readText file = .ok text →
              Warns s noColor file format (run web s files state)) := by
  constructor
  · intro explorer desk middle final record found outcome hWanted hFetch hProcess hText
    obtain ⟨hFlagged, hAssessed⟩ := Scan.process_isFlagged_iff hWanted hFetch hProcess
    have hWarns := warns_iff_of_text web state hParse hLoad hCalls hText
    rw [run_of_text web state hParse hLoad hCalls hText] at hWarns ⊢
    refine ⟨hFlagged.trans hWarns.symm, ?_, ?_, fun version a hOutcome hFormat => ?_⟩
    · rw [hFlagged]
      split <;> simp [*]
    · rw [← Bool.not_eq_true, hFlagged]
      split <;> simp [*]
    · rw [hAssessed version a hOutcome, hFormat]
      rfl
  · intro scanned scanning start begun options verbose report final hScan hSuccess
    obtain ⟨chosen, notes, hCourse⟩ := Course.eq_ran_of_success? hSuccess
    rw [run_of_scan hScan, scan_eq, hCourse]
    refine ⟨rfl, rfl, fun hFiles hWrote => ?_⟩
    subst hFiles
    obtain ⟨keys, cache, opened, hOpen, hRun⟩ := course_eq_ran hCourse
    have hGrown := (openCache_grown hOpen).touches (S := fun _ => False)
    have hOpened (key : CacheKey) :
        Scan.shelved? settings opened key = Scan.shelved? settings start key :=
      Scan.shelved?_of_touches hGrown key id
    apply warns_of_content web state hParse hLoad hCalls
    refine Scan.content?_of_wrote rfl hRun (hWrote.imp_right ?_)
    rintro ⟨key, hSpot, hOther⟩
    exact ⟨key, hSpot, by rwa [hOpened]⟩

/-- An export whose only contract has an affected compiler and a vulnerable source, which is cached. -/
def cachedSource : FileTree :=
  let start : FileTree :=
    ⟨["w"], [(["w"], .dir), (["w", "etherscan-export"], .dir),
      (["w", "etherscan-export", "poly.csv"], .file (Bytes.ofText "0xA,0.3.0"))]⟩
  let directory := Settings.standard.cacheDir
  (DiskCache.put ⟨directory, []⟩ (DiskCache.load start directory).2.1 ⟨.poly, "0xA"⟩
    (Scan.Turns.document Scan.Turns.vulnerable)).2.2

def scanning : Surroundings where
  arguments := ["scan", "-n", "poly"]
  environment := fun _ => some "k"
  terminal := false

def scanOptions : ScanRequest where
  networks := some ["poly"]
  settings := none
  inputDir := none
  outputDir := none
  cacheDir := none
  noCache := false
  format := .text
  quiet := false
  noColor := false

/-- The judgement of the file that this scan saves. -/
def judging : Surroundings where
  arguments := ["classify", "-f", "json", "contracts/poly/0xA.vy"]
  environment := fun _ => none
  terminal := false

def savedFile : Path := ⟨"contracts/poly/0xA.vy"⟩

theorem scan_and_classify_agree_cached :
    ∃ final version a, (run Web.unreachable scanning cachedSource ()).files = final ∧
      (Scan.process Settings.standard Scan.Turns.thorough Scan.Turns.uncached
        ⟨.poly, "0xA", "0.3.0"⟩).1 = .ok (.flagged version a) ∧
      (run Web.unreachable judging final ()).printed = [.out (a.document.pretty ++ "\n")] ∧
      Warns judging false savedFile .json (run Web.unreachable judging final ()) := by
  have hScan : Request.parse scanning.arguments = .ok (.scan scanOptions, false) := by rfl
  have hParse : Request.parse judging.arguments = .ok (.classify savedFile .json none false, false) := by
    rfl
  have hDone : (course Web.unreachable scanning cachedSource () scanOptions).success?.map
      (fun c => (c.1, Event.saved c.2.2.trace, c.2.2.files.pathExists ⟨Settings.fileName⟩,
        c.2.2.files.readText savedFile)) =
        some (Settings.standard, [savedFile], false, .ok Scan.Turns.vulnerable) := by decide +kernel
  obtain ⟨⟨settings, report, final⟩, hSuccess, hFacts⟩ := Option.map_eq_some_iff.mp hDone
  simp only [Prod.mk.injEq] at hFacts
  obtain ⟨rfl, hSaved, hNoSettings, hText⟩ := hFacts
  have hLoad : Settings.load final.files ⟨Settings.fileName⟩ = .ok Settings.standard := by
    rw [Settings.load, hNoSettings]
    rfl
  obtain ⟨hSame, hWritten⟩ :=
    scan_and_classify_agree (σ := Unit) (α := Unit) Web.unreachable () hParse hLoad rfl
  obtain ⟨_, hFiles, hJudged⟩ :=
    hWritten Web.unreachable scanning cachedSource () scanOptions false report final hScan hSuccess
  have hWrote : Scan.Wrote Settings.standard cachedSource final savedFile := by
    refine .inl ⟨savedFile, ?_, rfl⟩
    rw [hSaved]
    exact List.mem_singleton_self _
  have hWarns := (hJudged rfl hWrote).2 _ hText
  have hWanted : Scan.Wanted Settings.standard ⟨.poly, "0xA", "0.3.0"⟩ :=
    ⟨by decide +kernel, by decide +kernel⟩
  have hSource : (Scan.fetch Scan.Turns.thorough Scan.Turns.uncached .poly "0xA").1.toOption.map
      VerifiedSource.source = some Scan.Turns.vulnerable := by decide +kernel
  have hOutcome : (Scan.process Settings.standard Scan.Turns.thorough Scan.Turns.uncached
      ⟨.poly, "0xA", "0.3.0"⟩).1.toOption.isSome = true := by decide +kernel
  rcases hFetch : Scan.fetch Scan.Turns.thorough Scan.Turns.uncached .poly "0xA" with ⟨fetched, middle⟩
  rcases hProcess : Scan.process Settings.standard Scan.Turns.thorough Scan.Turns.uncached
    ⟨.poly, "0xA", "0.3.0"⟩ with ⟨processed, next⟩
  rw [hFetch] at hSource
  rw [hProcess] at hOutcome
  cases fetched with
  | error e => cases hSource
  | ok found =>
      cases processed with
      | error e => cases hOutcome
      | ok outcome =>
          rw [← Option.some.inj hSource] at hText
          obtain ⟨hFlagged, _, _, hPrinted⟩ := hSame Scan.Turns.thorough Scan.Turns.uncached middle next
            _ found outcome hWanted hFetch hProcess hText
          cases outcome with
          | flagged version a =>
              exact ⟨final.files, version, a, hFiles, rfl, hPrinted version a rfl rfl, hWarns⟩
          | _ => cases hFlagged.mpr hWarns

end Program

end LockTriage
