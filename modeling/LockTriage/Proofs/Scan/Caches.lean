import LockTriage.Proofs.Cache.Mirror
import LockTriage.Proofs.Scan.Demand
import LockTriage.Proofs.Shelf.Apart
import Mathlib.Data.List.Find

/-!
A scan with a cache in memory and one with an empty cache directory. As long as the files of
the directory can be written, they cannot be told apart: step by step they ask the same
with the same keys, observe the same outcomes and leave the same files outside the
directory.
-/

namespace LockTriage

namespace FileTree

/-- The location is in the directory of a path, at any depth. The directory itself is not. -/
def Within (t : FileTree) (p : Path) (loc : Location) : Prop :=
  t.location p <+: loc ∧ loc ≠ t.location p

instance (t : FileTree) (p : Path) (loc : Location) : Decidable (t.Within p loc) :=
  inferInstanceAs (Decidable (_ ∧ _))

theorem within_append (t : FileTree) (p : Path) {names : List String} (h : names ≠ []) :
    t.Within p (t.location p ++ names) :=
  ⟨List.prefix_append _ _, by simpa using h⟩

end FileTree

namespace Scan

variable {σ : Type} {settings : Settings} {explorer : Explorer σ} {d d' : Desk σ}
variable {t u u' : FileTree} {directory : Path} {keys : List CacheKey} {network : Network}
variable {record : Record} {records : List Record} {networks : List Network}
variable {S : Location → Prop}

/-! ### Desks that differ in their caches -/

/-- Neither on the way to the export of a network nor on that to its directory on the shelf
is there anything that is in a directory; nor is the one on the shelf that directory. -/
structure Clear (settings : Settings) (t : FileTree) (directory : Path) (network : Network) :
    Prop where
  input : ∀ loc ∈ t.trail (settings.exportPath network), ¬ t.Within directory loc
  output : ∀ loc ∈ t.trail (settings.shelf.directory network), ¬ t.Within directory loc
  other : t.location (settings.shelf.directory network) ≠ t.location directory

/-- Where a shelf is clear of the cache directory, so are its spots. -/
theorem Clear.spot (h : Clear settings t directory network) (address : String) :
    ¬ t.Within directory (settings.shelf.spot t network address) := by
  rintro ⟨hPrefix, hNe⟩
  rw [← Shelf.location_title, List.prefix_concat_iff, or_iff_right] at hPrefix
  · exact h.output _ (t.location_mem_trail _) ⟨hPrefix, h.other⟩
  · rw [Shelf.location_title]
    exact hNe.symm

/-- A desk with a cache in memory and one with a cache directory that has the same answers.
Nothing else differs between them but what is in that directory. -/
structure Twins (t : FileTree) (directory : Path) (keys : List CacheKey) (d d' : Desk σ) : Prop where
  caches : ∃ known c, d.cache = .memory known ∧ d'.cache = .disk c ∧ c.directory = directory ∧
    c.Mirrors d'.files keys known
  home : d.files.home = t.home
  files : FileTree.Agree (fun loc => ¬ t.Within directory loc) d.files d'.files
  ring : d'.keys = d.keys
  explorer : d'.explorer = d.explorer
  trace : d'.trace = d.trace

/-- What both desks put down in their traces leaves them twins. -/
theorem Twins.happened (h : Twins t directory keys d d') (events : List Event) :
    Twins t directory keys (d.happened events) (d'.happened events) :=
  ⟨h.caches, h.home, h.files, h.ring, h.explorer, congrArg (· ++ events) h.trace⟩

/-- The files change alike at both desks, and none among the artifacts of a cache does. -/
theorem Twins.withFiles (h : Twins t directory keys d d') (hHome : u.home = d.files.home)
    (hAgree : FileTree.Agree (fun loc => ¬ t.Within directory loc) u u')
    (hTouches : FileTree.Touches S d'.files u')
    (hOut : ∀ (p : Path) (name : String), ¬ S (d'.files.location p ++ ["artifacts", name])) :
    Twins t directory keys { d with files := u } { d' with files := u' } := by
  obtain ⟨known, c, hMemory, hDisk, hDirectory, hMirrors⟩ := h.caches
  refine ⟨⟨known, c, hMemory, hDisk, hDirectory, hMirrors.of_touches hTouches fun name _ => ?_⟩,
    hHome.trans h.home, hAgree, h.ring, h.explorer, h.trace⟩
  rw [DiskCache.location_artifacts, List.append_assoc]
  exact hOut c.directory name

/-! ### Fetches -/

/-- The explorer gives twins the same answer. -/
theorem Twins.ask (h : Twins t directory keys d d') (explorer : Explorer σ) (network : Network)
    (address : String) :
    EndAlike (Twins t directory keys) (ask explorer d network address)
      (ask explorer d' network address) := by
  cases hDraw : d.keys.draw? network with
  | none =>
      rw [Scan.ask, Scan.ask, h.ring, hDraw]
      exact ⟨rfl, h⟩
  | some drawn =>
      obtain ⟨key, ring⟩ := drawn
      rw [ask_of_draw hDraw, ask_of_draw (h.ring ▸ hDraw)]
      have hAnswer : explorer.answer (queryFor explorer network address key) d'.explorer =
          explorer.answer (queryFor explorer network address key) d.explorer := by
        rw [h.explorer]
      refine ⟨by rw [answerTo, answerTo, hAnswer], ?_⟩
      have hAsked : Twins t directory keys
          { d with keys := ring, explorer := (explorer.answer _ d.explorer).2 }
          { d' with keys := ring, explorer := (explorer.answer _ d'.explorer).2 } :=
        ⟨h.caches, h.home, h.files, rfl, congrArg Prod.snd hAnswer, h.trace⟩
      exact hAsked.happened _

/-- Keeping an answer changes nothing but what is in the cache directory. -/
theorem Twins.keep (h : Twins t directory keys d d') {key : CacheKey} {response : Json}
    (hMem : key ∈ keys) (hLasting : DiskCache.Lasting key response) :
    AlikeUnless (DiskCache.WriteError directory keys) (Twins t directory keys)
      (keep d key response) (keep d' key response) := by
  obtain ⟨known, c, hMemory, hDisk, rfl, hMirrors⟩ := h.caches
  have hAlters := c.put_alters d'.files key response
  have hDirectory := c.put_directory d'.files key response
  have hPutMemory : d.cache.put d.files key response =
      (.ok (), .memory (Assoc.set key response known), d.files) := by
    rw [hMemory]
    rfl
  rw [keep_eq, keep_eq, keeping, keeping, hPutMemory, hDisk, Cache.put_disk]
  rcases hPut : c.put d'.files key response with ⟨done, c', u'⟩
  rw [hPut] at hAlters hDirectory
  cases done with
  | error e => exact .failed (DiskCache.writeError_of_put hMem hPut)
  | ok _ =>
      refine .ok ⟨⟨_, c', rfl, rfl, hDirectory, hMirrors.put hMem hLasting hPut⟩, h.home,
        ⟨hAlters.home.trans h.files.home, fun loc hLoc => ?_⟩, h.ring, h.explorer, h.trace⟩
      have hHome : d'.files.home = t.home := h.files.home.trans h.home
      refine (hAlters.same loc fun hWrites => hLoc ?_).trans (h.files.same loc hLoc)
      rw [DiskCache.Writes, DiskCache.location_artifacts, FileTree.location_of_home hHome] at hWrites
      rcases hWrites with rfl | rfl
      · rw [List.append_assoc]
        exact FileTree.within_append t _ (by simp)
      · exact FileTree.within_append t _ (by simp)

/-- What is brought is what the explorer answered to a query for the contract. -/
private theorem ask_eq_ok {address : String} {response : Json} {next : Desk σ}
    (h : ask explorer d network address = (.ok response, next)) :
    ∃ query state, query.network = network ∧ query.address = address ∧
      (explorer.answer query state).1 = .ok response := by
  cases hDraw : d.keys.draw? network with
  | none =>
      rw [ask, hDraw] at h
      cases h
  | some drawn =>
      obtain ⟨key, ring⟩ := drawn
      rw [ask_of_draw hDraw, answerTo] at h
      obtain ⟨hResponse, _⟩ := Prod.mk.inj h
      cases hAnswer : (explorer.answer (queryFor explorer network address key) d.explorer).1 with
      | error fault =>
          rw [hAnswer] at hResponse
          cases hResponse
      | ok answer =>
          rw [hAnswer] at hResponse
          cases hResponse
          exact ⟨_, _, rfl, rfl, hAnswer⟩

/-- A contract is fetched afresh alike by twins, unless the cache directory refuses a file. -/
theorem Twins.fetchFresh (h : Twins t directory keys d d')
    (hLasts : explorer.Lasts keys (.disk ⟨directory, []⟩)) {address : String}
    (hMem : ⟨network, address⟩ ∈ keys) :
    AlikeUnless (DiskCache.WriteError directory keys) (Twins t directory keys)
      (fetchFresh explorer d network address) (fetchFresh explorer d' network address) := by
  unfold Scan.fetchFresh
  rcases (h.ask explorer network address).cases with
    ⟨e, next, next', hAsk, hAsk', hNext⟩ | ⟨response, next, next', hAsk, hAsk', hNext⟩
  · rw [hAsk, hAsk']
    exact .error hNext
  · rw [hAsk, hAsk']
    dsimp only
    cases sourceOf network address response with
    | error e => exact .error hNext
    | ok found =>
        obtain ⟨query, state, rfl, rfl, hAnswer⟩ := ask_eq_ok hAsk
        exact (hNext.keep hMem (hLasts query state response hMem hAnswer)).map _

/-- A contract is fetched alike by twins, unless the cache directory refuses a file. -/
theorem Twins.fetch (h : Twins t directory keys d d')
    (hLasts : explorer.Lasts keys (.disk ⟨directory, []⟩)) {address : String}
    (hMem : ⟨network, address⟩ ∈ keys) :
    AlikeUnless (DiskCache.WriteError directory keys) (Twins t directory keys)
      (fetch explorer d network address) (fetch explorer d' network address) := by
  obtain ⟨known, c, hMemory, hDisk, _, hMirrors⟩ := h.caches
  have hGet : d.cache.get? d.files ⟨network, address⟩ =
      (Assoc.get? ⟨network, address⟩ known, []) := by
    rw [hMemory]
    rfl
  have hGet' : d'.cache.get? d'.files ⟨network, address⟩ =
      (Assoc.get? ⟨network, address⟩ known, []) := by
    rw [hDisk]
    exact hMirrors.get? hMem
  unfold Scan.fetch
  rw [hGet, hGet']
  cases Assoc.get? ⟨network, address⟩ known with
  | none => exact (h.happened []).fetchFresh hLasts hMem
  | some response =>
      exact EndAlike.unless ⟨rfl, h.happened [.noted (.cacheHit ⟨network, address⟩)]⟩

/-! ### Records -/

/-- Twins judge a contract alike. -/
theorem Twins.judge (h : Twins t directory keys d d')
    (hClear : Clear settings t directory record.network) (hAddress : '/' ∉ record.address.toList)
    (found : VerifiedSource) :
    EndAlike (Twins t directory keys) (judge settings d record found)
      (judge settings d' record found) := by
  have hTrail := hClear.output
  have hSpot := hClear.spot record.address
  rw [← FileTree.trail_of_home h.home] at hTrail
  rw [← Shelf.spot_of_home h.home] at hSpot
  obtain ⟨hChange, hNotes, hAgree⟩ := Shelf.update_agree_of_trail h.files hTrail hAddress hSpot
    found.source (assessment settings found).vulnerable
  have hTouches := Shelf.update_touches settings.shelf d'.files record.network hAddress found.source
    (assessment settings found).vulnerable
  have hHome := follow_home settings d.files hAddress found
  rw [judge_eq, judge_eq, follow, follow, hChange, hNotes]
  refine ⟨rfl, (h.withFiles hHome hAgree hTouches fun p name => ?_).happened _⟩
  exact spot_ne_artifact settings.shelf d'.files record.network record.address p name

/-- Twins process a record alike, unless the cache directory refuses a file. -/
theorem Twins.process (h : Twins t directory keys d d')
    (hLasts : explorer.Lasts keys (.disk ⟨directory, []⟩))
    (hClear : Clear settings t directory record.network) (hAddress : '/' ∉ record.address.toList)
    (hMem : Wanted settings record → keyOf record ∈ keys) :
    AlikeUnless (DiskCache.WriteError directory keys) (Twins t directory keys)
      (process settings explorer d record) (process settings explorer d' record) := by
  refine process_beside h (fun hWanted => ?_) fun found _ _ hNext => ?_
  · exact h.fetch hLasts (hMem hWanted)
  · exact (hNext.judge hClear hAddress found).unless

/-! ### Networks -/

/-- Twins scan a network alike, unless the cache directory refuses a file. -/
theorem Twins.scanNetwork (h : Twins t directory keys d d')
    (hLasts : explorer.Lasts keys (.disk ⟨directory, []⟩))
    (hClear : Clear settings t directory network) (hRecords : ∀ r ∈ records, r.Proper network)
    (hKeys : ∀ r ∈ records, Wanted settings r → keyOf r ∈ keys) :
    AlikeUnless (DiskCache.WriteError directory keys) (Twins t directory keys)
      (scanNetwork settings explorer d network records)
      (scanNetwork settings explorer d' network records) := by
  have hTrail := hClear.output
  rw [← FileTree.trail_of_home h.home] at hTrail
  obtain ⟨hDone, hMade⟩ := Shelf.prepare_agree h.files hTrail
  have hGrown : FileTree.Grown d.files (settings.shelf.prepare d.files network).2 :=
    Shelf.prepare_grown rfl
  have hGrown' : FileTree.Grown d'.files (settings.shelf.prepare d'.files network).2 :=
    Shelf.prepare_grown rfl
  refine scanNetwork_beside hDone ?_ (fun events _ _ hNext => hNext.happened events)
    fun r hr _ _ hNext => ?_
  · exact h.withFiles hGrown.home hMade (hGrown'.touches (S := fun _ => False)) fun _ _ => id
  · have hRecord := hRecords r hr
    exact hNext.process hLasts (hRecord.network ▸ hClear) hRecord.noSeparator (hKeys r hr)

/-- Both desks find the export of a network as it was at the start. -/
theorem Twins.load (h : Twins t directory keys d d') (hClear : Clear settings t directory network) :
    d'.files.isFile (settings.exportPath network) = d.files.isFile (settings.exportPath network) ∧
      Export.load d'.files network (settings.exportPath network) =
        Export.load d.files network (settings.exportPath network) := by
  have hTrail := hClear.input
  rw [← FileTree.trail_of_home h.home] at hTrail
  have hFinds := FileTree.Agree.findsSame h.files hTrail
  exact ⟨hFinds.findsAlike.isFile, by rw [Export.load, Export.load, hFinds.readText]⟩

/-- Twins scan an export alike, unless the cache directory refuses a file. -/
theorem Twins.scanExport (h : Twins t directory keys d d')
    (hLasts : explorer.Lasts keys (.disk ⟨directory, []⟩))
    (hClear : Clear settings t directory network)
    (hKeys : ∀ records, Export.load d.files network (settings.exportPath network) = .ok records →
      ∀ r ∈ records, Wanted settings r → keyOf r ∈ keys) :
    AlikeUnless (DiskCache.WriteError directory keys) (Twins t directory keys)
      (scanExport settings explorer d network) (scanExport settings explorer d' network) := by
  obtain ⟨_, hSame⟩ := h.load hClear
  cases hLoad : Export.load d.files network (settings.exportPath network) with
  | error e =>
      rw [scanExport_of_error hLoad, scanExport_of_error (hSame.trans hLoad)]
      exact .error h
  | ok records =>
      rw [scanExport_of_load hLoad, scanExport_of_load (hSame.trans hLoad)]
      exact h.scanNetwork hLasts hClear (Export.proper_of_load hLoad) (hKeys records hLoad)

/-- While the exports stay as they were at the start, the keys are those of their records. -/
theorem Twins.scanExports (h : Twins t directory keys d d')
    (hLasts : explorer.Lasts keys (.disk ⟨directory, []⟩))
    (hClear : ∀ n ∈ networks, Clear settings t directory n)
    (hTouches : FileTree.Touches Export.NotExport t d.files)
    (hFiles : ∀ n ∈ networks, t.isFile (settings.exportPath n) = true)
    (hKeys : ∀ r ∈ rows settings t networks, Wanted settings r → keyOf r ∈ keys) :
    AlikeUnless (DiskCache.WriteError directory keys) (Twins t directory keys)
      (scanExports settings explorer d networks) (scanExports settings explorer d' networks) := by
  refine (scanExports_beside
    (R := fun d d' => Twins t directory keys d d' ∧ FileTree.Touches Export.NotExport t d.files)
    ⟨h, hTouches⟩ fun n hn {d d'} hNext => ?_).imp And.left
  obtain ⟨hTwins, hTouched⟩ := hNext
  refine (hTwins.scanExport hLasts (hClear n hn) fun records hLoad => ?_).also
    (hTouched.trans (scanExport_touches settings explorer d n))
  rw [(Settings.load_of_touches hTouched (hFiles n hn)).2] at hLoad
  exact fun r hr => hKeys r (List.mem_flatMap.mpr ⟨n, hn, by rw [hLoad]; exact hr⟩)

/-- Whole runs of twins end alike, unless the cache directory refuses a file. -/
theorem Twins.run (h : Twins t directory keys d d') (hStart : d.files = t)
    (hLasts : explorer.Lasts keys (.disk ⟨directory, []⟩))
    (hClear : ∀ n ∈ networks, Clear settings t directory n)
    (hKeys : ∀ r ∈ rows settings t networks, Wanted settings r → keyOf r ∈ keys) :
    AlikeUnless (DiskCache.WriteError directory keys) (Twins t directory keys)
      (run settings explorer d networks) (run settings explorer d' networks) := by
  subst hStart
  have hInputs : checkInputs settings d'.files networks = checkInputs settings d.files networks := by
    unfold checkInputs
    rw [List.find?_congr fun n hn => by rw [(h.load (hClear n hn)).1]]
  unfold Scan.run
  rw [hInputs]
  cases hChecked : checkInputs settings d.files networks with
  | error e => exact .error h
  | ok _ =>
      exact (h.scanExports hLasts hClear (FileTree.Touches.refl d.files)
        (checkInputs_eq_ok_iff.mp hChecked) hKeys).map _

/-! ### The same scan -/

/-- A cache directory that was just opened, and in which there is no manifest, is the twin of a
cache in memory. -/
theorem twins_of_load {c : DiskCache} {notes : List Note} (hWalks : t.Walks directory)
    (hFresh : DiskCache.Fresh t directory)
    (hLoad : DiskCache.load t directory = (.ok c, u, notes))
    (hNames : ∀ k ∈ keys, ∀ k' ∈ keys, k.artifactName = k'.artifactName → k = k') (pools : KeyRing)
    (state : σ) (trace : List Event) :
    Twins t directory keys ⟨t, .empty, pools, state, trace⟩ ⟨u, .disk c, pools, state, trace⟩ := by
  obtain rfl := DiskCache.load_fresh hFresh hLoad
  have hStands : DiskCache.Stands ⟨directory, []⟩ u := DiskCache.load_artifacts hLoad
  obtain ⟨hMade, _⟩ := DiskCache.load_eq_ok hLoad
  have hAlters := FileTree.makeDirectories_alters DiskCache.plain_artifacts hWalks hMade
  refine ⟨⟨[], _, rfl, rfl, rfl, DiskCache.mirrors_empty hStands hNames⟩, rfl,
    ⟨hAlters.home, fun loc hLoc => hAlters.same loc ?_⟩, rfl, rfl, rfl⟩
  rintro rfl
  exact hLoc (FileTree.within_append t directory (by simp))

/-- A scan with a cache in memory and one with a cache directory that was empty when it was
opened come to the same, be it a report or an error: the same outcomes are observed, the
same is asked with the same keys and in the same order, and the same files stand outside
the directory, the saved sources among them. This holds for any settings, files, keys and
explorer, if no two contracts that are fetched have the same file in the directory, the
files in it can be written, answers are read from text, and neither the exports nor the
shelf are in the directory or reached through it. -/
theorem run_with_either_cache (settings : Settings) (explorer : Explorer σ) (networks : List Network)
    (keys : List CacheKey) (files opened : FileTree) (directory : Path) {c : DiskCache}
    {notes : List Note} (pools : KeyRing) (state : σ) (trace : List Event)
    {result result' : Except ScanError Report} {final final' : Desk σ}
    (hWalks : files.Walks directory) (hFresh : DiskCache.Fresh files directory)
    (hLoad : DiskCache.load files directory = (.ok c, opened, notes))
    (hClear : ∀ n ∈ networks, Clear settings files directory n)
    (hKeys : ∀ r ∈ rows settings files networks, Wanted settings r → keyOf r ∈ keys)
    (hNames : ∀ k ∈ keys, ∀ k' ∈ keys, k.artifactName = k'.artifactName → k = k')
    (hLasts : explorer.Lasts keys (.disk c))
    (hRun : run settings explorer ⟨files, .empty, pools, state, trace⟩ networks = (result, final))
    (hRun' : run settings explorer ⟨opened, .disk c, pools, state, trace⟩ networks =
      (result', final'))
    (hWrites : ∀ e, result' = .error e → ¬ DiskCache.WriteError directory keys e) :
    result' = result ∧ final'.trace = final.trace ∧ final'.keys = final.keys ∧
      final'.explorer = final.explorer ∧
      (∀ n ∈ networks, ∀ address, settings.shelf.kept? final'.files n address =
        settings.shelf.kept? final.files n address) ∧
      ∀ loc, ¬ files.Within directory loc → final'.files.at? loc = final.files.at? loc := by
  have hTwins := twins_of_load hWalks hFresh hLoad hNames pools state trace
  have hLasts' : explorer.Lasts keys (.disk ⟨directory, []⟩) := hLasts
  have hEnd := hTwins.run rfl hLasts' hClear hKeys
  rw [hRun, hRun'] at hEnd
  have hSame : result' = result ∧ Twins files directory keys final final' := by
    cases hEnd with
    | failed hFailure => exact absurd hFailure (hWrites _ rfl)
    | error hLast => exact ⟨rfl, hLast⟩
    | ok hLast => exact ⟨rfl, hLast⟩
  obtain ⟨hResult, hLast⟩ := hSame
  refine ⟨hResult, hLast.trace, hLast.ring, hLast.explorer, fun n hn address => ?_, hLast.files.same⟩
  have hSpot := (hClear n hn).spot address
  rw [← Shelf.spot_of_home hLast.home] at hSpot
  rw [Shelf.kept?_eq, Shelf.kept?_eq, Shelf.spot_of_home hLast.files.home, FileTree.content?,
    FileTree.content?, hLast.files.same _ hSpot]

end Scan

namespace Scan.Turns

/-- The files with an empty directory for the cache. -/
def bare : FileTree := files.put ["w", "cache"] .dir

theorem fresh_bare : DiskCache.Fresh bare ⟨"cache"⟩ := by
  have hNone : bare.child? ⟨"cache"⟩ "manifest.json" = none := by decide +kernel
  intro content text entries hFile
  rw [hNone] at hFile
  cases hFile

theorem clear_bare : Clear settings bare ⟨"cache"⟩ .poly :=
  ⟨by decide +kernel, by decide +kernel, by decide +kernel⟩

theorem keyOf_rows_bare : ∀ record ∈ rows settings bare [.poly], keyOf record ∈ both := by
  decide +kernel

theorem lasts_thorough (c : DiskCache) : thorough.Lasts both (.disk c) := by
  intro query state response hKey hAnswer
  obtain rfl := Except.ok.inj hAnswer
  exact lasting_document c _ _ hKey (by split <;> simp)

/-- Over both caches a scan flags one contract and removes the file of another. -/
theorem run_with_either_cache_turns :
    ∃ report opened final final', report = ⟨[⟨.poly, ⟨2, 0, 0, 1, 1, 0⟩⟩]⟩ ∧
      run settings thorough ⟨bare, .empty, Turns.keys, (), []⟩ [.poly] = (.ok report, final) ∧
      run settings thorough ⟨opened, .disk ⟨⟨"cache"⟩, []⟩, Turns.keys, (), []⟩ [.poly] =
        (.ok report, final') ∧
      final'.trace = final.trace ∧
      final'.files.content? ["w", "out", "poly", "0xA.vy"] =
        final.files.content? ["w", "out", "poly", "0xA.vy"] := by
  have hLoad : DiskCache.load bare ⟨"cache"⟩ =
      (.ok ⟨⟨"cache"⟩, []⟩, (DiskCache.load bare ⟨"cache"⟩).2.1, (DiskCache.load bare ⟨"cache"⟩).2.2) :=
    Prod.ext (by decide +kernel) rfl
  have hReport : (run settings thorough ⟨(DiskCache.load bare ⟨"cache"⟩).2.1,
      .disk ⟨⟨"cache"⟩, []⟩, Turns.keys, (), []⟩ [.poly]).1.toOption =
        some ⟨[⟨.poly, ⟨2, 0, 0, 1, 1, 0⟩⟩]⟩ := by decide +kernel
  generalize (DiskCache.load bare ⟨"cache"⟩).2.1 = opened at hLoad hReport
  rcases hRun : run settings thorough ⟨bare, .empty, Turns.keys, (), []⟩ [.poly] with ⟨result, final⟩
  rcases hRun' : run settings thorough ⟨opened, .disk ⟨⟨"cache"⟩, []⟩, Turns.keys, (), []⟩ [.poly]
    with ⟨result', final'⟩
  rw [hRun'] at hReport
  cases result' with
  | error e => cases hReport
  | ok report =>
      obtain rfl := Option.some.inj hReport
      obtain ⟨hResult, hTrace, _, _, _, hSame⟩ := run_with_either_cache settings thorough [.poly] both
        bare opened ⟨"cache"⟩ Turns.keys () [] (by decide +kernel) fresh_bare hLoad
        (by simpa using clear_bare) (fun record hMem _ => keyOf_rows_bare record hMem)
        (by decide +kernel) (lasts_thorough _) hRun hRun' (fun _ hError => by cases hError)
      refine ⟨_, opened, final, final', rfl, by rw [← hResult], hRun', hTrace, ?_⟩
      rw [FileTree.content?, FileTree.content?, hSame _ (by decide +kernel)]

end Scan.Turns

end LockTriage
