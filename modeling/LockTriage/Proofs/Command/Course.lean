import LockTriage.Command.Run
import LockTriage.Proofs.Result
import LockTriage.Proofs.Scan.Enumerated
import LockTriage.Proofs.Settings.Enumerated

/-!
The course of a scan: what it did and what is to be shown of it, before anything is printed. A scan
prints the notes and lines of its course as they come, and then its result.
-/

namespace LockTriage

/-- The same scan with another way of showing it. -/
def ScanRequest.showing (options : ScanRequest) (format : Format) (quiet noColor : Bool) :
    ScanRequest :=
  { options with format := format, quiet := quiet, noColor := noColor }

/-! ### The course of a scan -/

/-- What a scan did, whatever is shown of it. -/
inductive Course (ω : Type)
  /-- Something is wrong with it. -/
  | refused (c : Complaint)
  /-- The cache could not be opened. -/
  | unopened (settings : Settings) (chosen : List Network) (notes : List Note) (c : Complaint)
      (files : FileTree)
  /-- The networks were scanned, with or without success. -/
  | ran (settings : Settings) (chosen : List Network) (notes : List Note)
      (done : Except ScanError Report) (desk : Desk ω)

/-- A piece of what a scan shows while it runs. -/
inductive Shown
  | note (note : Note)
  | line (text : String)

/-- The lines of a piece, if notes are filtered and a quiet scan shows no progress. -/
def Shown.lines (filter : Filter) (quiet : Bool) : Shown → List String
  | note n => if filter.shows n then [n.line] else []
  | line text => if quiet then [] else [text]

/-- An event is shown as a note, or as the line of an outcome. -/
def Shown.ofEvent (styled : Bool) : Event → List Shown
  | .noted n => [.note n]
  | .asked _ => []
  | .judged record outcome => (Console.outcome? styled record outcome).toList.map .line

namespace Course

variable {ω : Type}

/-- What a scan shows while it runs: who it is, and then its notes and outcomes as they come. -/
def shown (styled : Bool) : Course ω → List Shown
  | refused _ => []
  | unopened settings chosen notes _ _ =>
      (Console.banner styled chosen settings).map .line ++ notes.map .note
  | ran settings chosen notes _ desk =>
      (Console.banner styled chosen settings).map .line ++ notes.map .note ++
        desk.trace.flatMap (Shown.ofEvent styled)

/-- The report of a scan that succeeds, or the complaint of one that does not. -/
def result : Course ω → Except Complaint Report
  | refused c => .error c
  | unopened _ _ _ c _ => .error c
  | ran _ _ _ done _ => done.mapError Complaint.ofError

def exit (c : Course ω) : Nat :=
  match c.result with
  | .error _ => 1
  | .ok _ => 0

/-- A course exits with zero just if it ends in a report. -/
theorem exit_eq_zero_iff {c : Course ω} : c.exit = 0 ↔ ∃ report, c.result = .ok report := by
  unfold exit
  cases c.result <;> simp

/-- The files and the web that a scan leaves, if it was started with some. -/
def left (files : FileTree) (state : ω) : Course ω → FileTree × ω
  | refused _ => (files, state)
  | unopened _ _ _ _ opened => (opened, state)
  | ran _ _ _ _ desk => (desk.files, desk.explorer)

end Course

namespace Program

variable {ω : Type} {s s' : Surroundings} {files : FileTree} {options : ScanRequest}

/-! ### Printing -/

/-- Where a piece of what is shown is printed. -/
def printShown (filter : Filter) (options : ScanRequest) : Shown → List Printed
  | .note n => printNotes filter [n]
  | .line text => progress options [text]

/-- What is printed as progress is what is shown as lines. -/
theorem progress_eq (filter : Filter) (options : ScanRequest) (lines : List String) :
    progress options lines = (lines.map Shown.line).flatMap (printShown filter options) := by
  induction lines with
  | nil => unfold progress; split <;> [rfl; split <;> rfl]
  | cons line lines ih =>
      rw [List.map_cons, List.flatMap_cons, ← ih, printShown]
      unfold progress
      split
      · rfl
      · split <;> rfl

/-- What is printed of notes is what is shown as notes. -/
theorem printNotes_eq (filter : Filter) (options : ScanRequest) (notes : List Note) :
    printNotes filter notes = (notes.map Shown.note).flatMap (printShown filter options) := by
  induction notes with
  | nil => rfl
  | cons note notes ih =>
      rw [List.map_cons, List.flatMap_cons, ← ih, printShown]
      simp only [printNotes, Printed.errLines, List.filter_cons, List.filter_nil]
      split <;> rfl

/-- What is printed of an event is what is shown of it. -/
theorem printEvent_eq (filter : Filter) (styled : Bool) (options : ScanRequest) (event : Event) :
    printEvent filter styled options event =
      (Shown.ofEvent styled event).flatMap (printShown filter options) := by
  cases event with
  | noted note => exact printNotes_eq filter options [note]
  | asked query => rfl
  | judged record outcome => exact progress_eq filter options _

/-- What is printed at the end: the report, or the complaint. -/
def printResult (styled : Bool) (options : ScanRequest) : Except Complaint Report → List Printed
  | .error c => [.err c.text]
  | .ok report => printReport styled options report

/-! ### Scanning -/

section Scanning

variable [p : Settings.Order] [o : Manifest.Order]

/-- The course of a scan. It depends on the environment, but not on how the scan is shown. -/
def course (web : Web ω) (s : Surroundings) (files : FileTree) (state : ω)
    (options : ScanRequest) : Course ω :=
  match prepare s files options with
  | .error c => .refused c
  | .ok (settings, chosen, keys) =>
      match openCache options settings files with
      | (.error c, files, notes) => .unopened settings chosen notes c files
      | (.ok cache, files, notes) =>
          let (done, desk) := Scan.run settings (web.explorer settings.apiUrl)
            ⟨files, cache, keys, state, []⟩ chosen
          .ran settings chosen notes done desk

/-- How a course is shown has no part in the course. -/
theorem course_showing (web : Web ω) (files : FileTree) (state : ω) (options : ScanRequest)
    (hEnvironment : s'.environment = s.environment) (format : Format) (quiet noColor : Bool) :
    course web s' files state (options.showing format quiet noColor) =
      course web s files state options := by
  have hPrepare : prepare s' files (options.showing format quiet noColor) =
      prepare s files options := by
    unfold prepare
    rw [hEnvironment]
    rfl
  unfold course
  rw [hPrepare]
  rfl

/-- Networks that were scanned were scanned with the cache and the files that were opened. -/
theorem course_eq_ran {web : Web ω} {state : ω} {settings : Settings} {chosen : List Network}
    {notes : List Note} {done : Except ScanError Report} {desk : Desk ω}
    (h : course web s files state options = .ran settings chosen notes done desk) :
    ∃ keys cache opened, openCache options settings files = (.ok cache, opened, notes) ∧
      Scan.run settings (web.explorer settings.apiUrl) ⟨opened, cache, keys, state, []⟩ chosen =
        (done, desk) := by
  unfold course at h
  cases hPrepare : prepare s files options with
  | error c =>
      rw [hPrepare] at h
      cases h
  | ok prepared =>
      obtain ⟨settings, chosen, keys⟩ := prepared
      rw [hPrepare] at h
      dsimp only at h
      rcases hOpen : openCache options settings files with ⟨result, opened, notes⟩
      rw [hOpen] at h
      cases result with
      | error c => cases h
      | ok cache =>
          cases h
          exact ⟨keys, cache, opened, hOpen, rfl⟩

/-- A scan prints what its course shows and then its result. -/
theorem scan_eq (web : Web ω) (s : Surroundings) (filter : Filter) (files : FileTree) (state : ω)
    (options : ScanRequest) :
    let c := course web s files state options
    let styled := styled s options.noColor
    scan web s filter files state options =
      ⟨c.exit,
        (c.shown styled).flatMap (printShown filter options) ++ printResult styled options c.result,
        (c.left files state).1, (c.left files state).2⟩ := by
  dsimp only
  unfold scan course
  cases prepare s files options with
  | error c => rfl
  | ok prepared =>
      obtain ⟨settings, chosen, keys⟩ := prepared
      dsimp only
      rcases openCache options settings files with ⟨opened, files', notes⟩
      cases opened with
      | error c =>
          rw [Course.shown, List.flatMap_append, ← progress_eq, ← printNotes_eq]
          rfl
      | ok cache =>
          dsimp only
          rcases Scan.run settings (web.explorer settings.apiUrl) ⟨files', cache, keys, state, []⟩ chosen
            with ⟨done, desk⟩
          have hEvents : desk.trace.flatMap (printEvent filter (styled s options.noColor) options) =
              (desk.trace.flatMap (Shown.ofEvent (styled s options.noColor))).flatMap
                (printShown filter options) := by
            rw [List.flatMap_assoc]
            exact List.flatMap_congr fun event _ => printEvent_eq filter _ options event
          rw [Course.shown, List.flatMap_append, List.flatMap_append, ← progress_eq, ← printNotes_eq,
            ← hEvents]
          cases done with
          | error e => rfl
          | ok report => rfl

end Scanning

/-! ### Runs with orders of their own

The tables of the settings and the entries of the manifest are met in other orders by another run. -/

section Enumerated

variable {p p' : Settings.Order} {o o' : Manifest.Order}

/-- Where a scan writes the manifest of its cache, unless it does without a cache. -/
def ManifestPlace [p : Settings.Order] (files : FileTree) (options : ScanRequest) (loc : Location) :
    Prop :=
  options.noCache = false ∧ ∃ settings, scanSettings files options = .ok settings ∧
    loc = files.location (settings.cacheDir.join "manifest.json")

/-- Tables are met in the same order, or all that name one network say the same. -/
def SameTables (p p' : Settings.Order) (files : FileTree) (options : ScanRequest) : Prop :=
  p' = p ∨ ∀ settings, scanSettings (p := p) files options = .ok settings → settings.TablesAgree

theorem scanSettings_enumerated (p' : Settings.Order) {settings : Settings}
    (h : scanSettings (p := p) files options = .ok settings) :
    ∃ tables, tables.Perm settings.networks ∧
      scanSettings (p := p') files options = .ok (settings.enumerating tables) := by
  unfold scanSettings settingsFor at h ⊢
  cases hLoad : Settings.load (p := p) files (options.settings.getD ⟨Settings.fileName⟩) with
  | error e =>
      rw [hLoad] at h
      cases h
  | ok loaded =>
      rw [hLoad] at h
      cases h
      obtain ⟨tables, hPerm, hLoad'⟩ := Settings.load_enumerated p' hLoad
      rw [hLoad']
      exact ⟨tables, hPerm, rfl⟩

/-- Nothing is wrong with a scan before it starts. -/
theorem prepare_eq_ok_iff [p : Settings.Order] {settings : Settings} {chosen : List Network}
    {keys : KeyRing} :
    prepare s files options = .ok (settings, chosen, keys) ↔
      scanSettings files options = .ok settings ∧
        selectNetworks options.networks settings = .ok chosen ∧
        KeyRing.ofVariables s.environment chosen = .ok keys ∧
        Scan.checkInputs settings files chosen = .ok () := by
  simp only [prepare, bind_eq_ok_iff, mapError_eq_ok_iff, Except.ok.injEq, Prod.mk.injEq]
  constructor
  · rintro ⟨_, hSettings, _, hChosen, _, hKeys, _, hInputs, rfl, rfl, rfl⟩
    exact ⟨hSettings, hChosen, hKeys, hInputs⟩
  · rintro ⟨hSettings, hChosen, hKeys, hInputs⟩
    exact ⟨_, hSettings, _, hChosen, _, hKeys, _, hInputs, rfl, rfl, rfl⟩

/-- What is right before a scan is right in any order, and where tables say the same, the same networks
are scanned with the same keys and endpoints. -/
theorem prepare_enumerated (hTables : SameTables p p' files options) {settings : Settings}
    {chosen : List Network} {keys : KeyRing}
    (h : prepare (p := p) s files options = .ok (settings, chosen, keys)) :
    ∃ tables, prepare (p := p') s files options = .ok (settings.enumerating tables, chosen, keys) ∧
      (settings.enumerating tables).apiUrl = settings.apiUrl := by
  rcases hTables with rfl | hAgree
  · exact ⟨settings.networks, h, rfl⟩
  · obtain ⟨hSettings, hChosen, hKeys, hInputs⟩ := (prepare_eq_ok_iff (p := p)).mp h
    obtain ⟨tables, hPerm, hSettings'⟩ := scanSettings_enumerated p' hSettings
    obtain ⟨hEnabled, hUrl⟩ := (hAgree settings hSettings).enumerating hPerm
    have hChosen' : selectNetworks options.networks (settings.enumerating tables) = .ok chosen := by
      rw [← hChosen]
      unfold selectNetworks
      rw [hEnabled]
    exact ⟨tables, prepare_eq_ok_iff.mpr ⟨hSettings', hChosen', hKeys, hInputs⟩, hUrl⟩

theorem SameTables.symm (h : SameTables p p' files options) : SameTables p' p files options := by
  refine h.imp Eq.symm fun hAgree settings hSettings => ?_
  obtain ⟨tables, hPerm, hOther⟩ := scanSettings_enumerated p hSettings
  intro network
  refine ⟨fun t t' hHas hHas' => ?_, fun t t' hHas hHas' => ?_⟩
  · exact (hAgree _ hOther network).1 t t' ((Settings.hasTable_enumerating hPerm).mpr hHas)
      ((Settings.hasTable_enumerating hPerm).mpr hHas')
  · exact (hAgree _ hOther network).2 t t' ((Settings.hasTable_enumerating hPerm).mpr hHas)
      ((Settings.hasTable_enumerating hPerm).mpr hHas')

/-- The order in which tables are met does not matter to what a scan does, if they say the same. -/
theorem course_tables (hTables : SameTables p p' files options) (web : Web ω) (s : Surroundings)
    (state : ω) :
    (course (p := p') (o := o) web s files state options).exit =
        (course (p := p) (o := o) web s files state options).exit ∧
      (course (p := p') (o := o) web s files state options).left files state =
        (course (p := p) (o := o) web s files state options).left files state := by
  unfold course
  cases hPrepare : prepare (p := p) s files options with
  | error c =>
      cases hPrepare' : prepare (p := p') s files options with
      | error c' => exact ⟨rfl, rfl⟩
      | ok prepared =>
          obtain ⟨tables, hOk, _⟩ := prepare_enumerated hTables.symm hPrepare'
          rw [hPrepare] at hOk
          cases hOk
  | ok prepared =>
      obtain ⟨settings, chosen, keys⟩ := prepared
      obtain ⟨tables, hPrepare', hUrl⟩ := prepare_enumerated hTables hPrepare
      have hOpen : openCache options (settings.enumerating tables) files =
          openCache options settings files := rfl
      rw [hPrepare']
      dsimp only
      rw [hOpen, hUrl]
      rcases openCache options settings files with ⟨opened, tree, notes⟩
      cases opened with
      | error c => exact ⟨rfl, rfl⟩
      | ok cache =>
          dsimp only
          rw [Scan.run_enumerating]
          exact ⟨rfl, rfl⟩

/-- A cache that is opened enters no key twice, and has its manifest where one may be. -/
theorem openCache_manifest [p : Settings.Order] {settings : Settings} {cache : Cache}
    {opened : FileTree} {notes : List Note} (hSettings : scanSettings files options = .ok settings)
    (h : openCache options settings files = (.ok cache, opened, notes)) :
    cache.KeysOnce ∧ ∀ loc, cache.ManifestAt opened loc → ManifestPlace files options loc := by
  unfold openCache at h
  split at h
  · cases h
    exact ⟨trivial, fun _ => False.elim⟩
  · rename_i hCache
    rcases hLoad : DiskCache.load files settings.cacheDir with ⟨loaded, tree, found⟩
    rw [hLoad] at h
    cases loaded with
    | error e => cases h
    | ok c =>
        cases h
        obtain ⟨hMade, hDirectory⟩ := DiskCache.load_eq_ok hLoad
        refine ⟨DiskCache.load_nodup hLoad, fun loc hLoc => ?_⟩
        refine ⟨by simpa using hCache, settings, hSettings, ?_⟩
        rw [← FileTree.location_of_home (FileTree.makeDirectories_grown hMade).home, ← hDirectory]
        exact hLoc

/-- Where a manifest may be no export is read. -/
theorem notExport_of_manifestPlace [p : Settings.Order] {loc : Location}
    (h : ManifestPlace files options loc) : Export.NotExport loc := by
  obtain ⟨_, settings, _, rfl⟩ := h
  rw [FileTree.location_join files _ DiskCache.plain_manifest]
  exact Export.notExport_append (by decide)

/-- In whatever order the entries of its manifest are written, a scan comes to the same. It leaves the
same web and the same files, but for the order of the entries in the manifest. -/
theorem course_enumerated [p : Settings.Order] (o o' : Manifest.Order) (web : Web ω) (s : Surroundings)
    (files : FileTree) (state : ω) (options : ScanRequest) :
    (course (o := o') web s files state options).result =
        (course (o := o) web s files state options).result ∧
      ((course (o := o') web s files state options).left files state).2 =
        ((course (o := o) web s files state options).left files state).2 ∧
      FileTree.SameButOrder (ManifestPlace files options)
        ((course (o := o) web s files state options).left files state).1
        ((course (o := o') web s files state options).left files state).1 := by
  unfold course
  cases hPrepare : prepare s files options with
  | error c => exact ⟨rfl, rfl, .refl _ _⟩
  | ok prepared =>
      obtain ⟨settings, chosen, keys⟩ := prepared
      dsimp only
      rcases hOpen : openCache options settings files with ⟨opened, tree, notes⟩
      cases opened with
      | error c => exact ⟨rfl, rfl, .refl _ _⟩
      | ok cache =>
          obtain ⟨hKeys, hPlace⟩ := openCache_manifest (prepare_eq_ok_iff.mp hPrepare).1 hOpen
          have hStart : Scan.SameButOrder (ManifestPlace files options)
              (⟨tree, cache, keys, state, []⟩ : Desk ω) ⟨tree, cache, keys, state, []⟩ :=
            .refl hKeys hPlace
          obtain ⟨hResult, hDesk⟩ := hStart.run o o'
            (fun _ => notExport_of_manifestPlace) settings (web.explorer settings.apiUrl) chosen
          exact ⟨congrArg (Except.mapError Complaint.ofError) hResult, hDesk.explorer, hDesk.files⟩

end Enumerated

end Program

end LockTriage
