import LockTriage.Proofs.Cache.Enumerated
import LockTriage.Proofs.Export
import LockTriage.Proofs.Scan.Process
import LockTriage.Proofs.Shelf.Apart
import Mathlib.Data.List.Find

/-!
The order in which a scan writes the entries of its manifest. Two scans with orders of their own go
side by side: nothing that either of them reads or decides depends on the order, so they ask the same,
observe the same and end alike, and the files that they leave are the same but for the order of the
entries in the manifest of the cache directory. What is shown elsewhere of scans whose entries are
handed out as they were entered therefore holds in every order, as far as it says nothing about the
text of a manifest.
-/

namespace LockTriage

namespace Scan

variable {σ : Type} {d d' : Desk σ} {P : Location → Prop} {network : Network} {record : Record}
variable (o o' : Manifest.Order)

/-! ### Desks that differ in the order of manifests -/

/-- Between two desks nothing differs but the order of the entries in manifests at some locations, and
what was noted. The manifest of the cache is at one of these locations. -/
structure SameButOrder (P : Location → Prop) (d d' : Desk σ) : Prop where
  files : FileTree.SameButOrder P d.files d'.files
  cache : d'.cache = d.cache
  keysOnce : d.cache.KeysOnce
  manifest : ∀ loc, d.cache.ManifestAt d.files loc → P loc
  ring : d'.keys = d.keys
  explorer : d'.explorer = d.explorer
  queries : Event.queries d'.trace = Event.queries d.trace
  outcomes : Event.outcomes d'.trace = Event.outcomes d.trace

/-- A desk is the same as itself where its manifest may be, if no key is entered twice. -/
theorem SameButOrder.refl (hKeys : d.cache.KeysOnce)
    (hManifest : ∀ loc, d.cache.ManifestAt d.files loc → P loc) : SameButOrder P d d :=
  ⟨.refl P d.files, rfl, hKeys, hManifest, rfl, rfl, rfl, rfl⟩

/-- What happens on both desks leaves them the same but for the order, if it asks and finds the
same. -/
theorem SameButOrder.happened (h : SameButOrder P d d') {events events' : List Event}
    (hQueries : Event.queries events' = Event.queries events)
    (hOutcomes : Event.outcomes events' = Event.outcomes events) :
    SameButOrder P (d.happened events) (d'.happened events') := by
  refine ⟨h.files, h.cache, h.keysOnce, h.manifest, h.ring, h.explorer, ?_, ?_⟩
  · rw [Desk.happened_trace, Desk.happened_trace, Event.queries_append, Event.queries_append,
      h.queries, hQueries]
  · rw [Desk.happened_trace, Desk.happened_trace, Event.outcomes_append, Event.outcomes_append,
      h.outcomes, hOutcomes]

/-- Notes may differ. -/
theorem SameButOrder.noting (h : SameButOrder P d d') (notes notes' : List Note) :
    SameButOrder P (d.noting notes) (d'.noting notes') :=
  h.happened (by rw [Event.queries_noted, Event.queries_noted])
    (by rw [Event.outcomes_noted, Event.outcomes_noted])

theorem SameButOrder.withFiles (h : SameButOrder P d d') {t t' : FileTree}
    (hFiles : FileTree.SameButOrder P t t') (hHome : t.home = d.files.home) :
    SameButOrder P { d with files := t } { d' with files := t' } := by
  refine ⟨hFiles, h.cache, h.keysOnce, ?_, h.ring, h.explorer, h.queries, h.outcomes⟩
  rw [Cache.manifestAt_of_home hHome]
  exact h.manifest

/-! ### Fetches -/

/-- The explorer gives both desks the same answer, whichever order entries are written in. -/
theorem SameButOrder.ask (h : SameButOrder P d d') (explorer : Explorer σ) (network : Network)
    (address : String) :
    EndAlike (SameButOrder P) (ask explorer d network address) (ask explorer d' network address) := by
  cases hDraw : d.keys.draw? network with
  | none =>
      rw [Scan.ask, Scan.ask, h.ring, hDraw]
      exact ⟨rfl, h⟩
  | some drawn =>
      obtain ⟨key, ring⟩ := drawn
      rw [ask_of_draw hDraw, ask_of_draw (h.ring ▸ hDraw)]
      have hAnswer : explorer.answer (queryFor explorer network address key) d'.explorer =
          explorer.answer (queryFor explorer network address key) d.explorer := by
        rw [h.explorer]
      have hAsked : SameButOrder P
          { d with keys := ring, explorer := (explorer.answer _ d.explorer).2 }
          { d' with keys := ring, explorer := (explorer.answer _ d'.explorer).2 } :=
        ⟨h.files, h.cache, h.keysOnce, h.manifest, rfl, congrArg Prod.snd hAnswer, h.queries,
          h.outcomes⟩
      exact ⟨by rw [answerTo, answerTo, hAnswer], hAsked.happened rfl rfl⟩

/-- Both caches keep an answer, each in its own order, or neither does. -/
theorem SameButOrder.keep (h : SameButOrder P d d') (key : CacheKey) (response : Json) :
    EndAlike (SameButOrder P) (keep (o := o) d key response) (keep (o := o') d' key response) := by
  obtain ⟨hDone, hCache, hFiles⟩ :=
    Cache.put_enumerated o o' h.files h.keysOnce h.manifest key response
  have hPlace := Cache.manifestAt_put o d.cache d.files key response
  unfold Scan.keep
  rw [h.cache]
  refine ⟨hDone, hFiles, hCache, h.keysOnce.put o d.files key response, ?_, h.ring, h.explorer,
    h.queries, h.outcomes⟩
  dsimp only
  rw [hPlace]
  exact h.manifest

/-- A contract is fetched afresh alike in both orders. -/
theorem SameButOrder.fetchFresh (h : SameButOrder P d d') (explorer : Explorer σ) (network : Network)
    (address : String) :
    EndAlike (SameButOrder P) (fetchFresh (o := o) explorer d network address)
      (fetchFresh (o := o') explorer d' network address) := by
  unfold Scan.fetchFresh
  rcases (h.ask explorer network address).cases with
    ⟨e, next, next', hAsk, hAsk', hNext⟩ | ⟨response, next, next', hAsk, hAsk', hNext⟩
  · rw [hAsk, hAsk']
    exact ⟨rfl, hNext⟩
  · rw [hAsk, hAsk']
    dsimp only
    cases sourceOf network address response with
    | error e => exact ⟨rfl, hNext⟩
    | ok found =>
        obtain ⟨hDone, hKept⟩ := hNext.keep o o' ⟨network, address⟩ response
        dsimp only
        rw [hDone]
        exact ⟨rfl, hKept⟩

/-- A contract is fetched alike in both orders. -/
theorem SameButOrder.fetch (h : SameButOrder P d d') (explorer : Explorer σ) (network : Network)
    (address : String) :
    EndAlike (SameButOrder P) (fetch (o := o) explorer d network address)
      (fetch (o := o') explorer d' network address) := by
  have hGet := Cache.get?_enumerated h.files d.cache ⟨network, address⟩
  unfold Scan.fetch
  rw [h.cache]
  generalize d.cache.get? d.files ⟨network, address⟩ = got at hGet ⊢
  generalize d.cache.get? d'.files ⟨network, address⟩ = got' at hGet ⊢
  obtain ⟨cached, notes⟩ := got
  obtain ⟨cached', notes'⟩ := got'
  obtain rfl : cached' = cached := hGet
  cases cached' with
  | some response => exact ⟨rfl, h.noting _ _⟩
  | none => exact (h.noting notes notes').fetchFresh o o' explorer network address

/-! ### Records -/

/-- Judging a contract has nothing to do with the order of a manifest. -/
theorem SameButOrder.judge (h : SameButOrder P d d') (settings : Settings)
    (hAddress : '/' ∉ record.address.toList) (found : VerifiedSource) :
    EndAlike (SameButOrder P) (judge settings d record found) (judge settings d' record found) := by
  obtain ⟨hChange, hNotes, hFiles⟩ := Shelf.update_matches h.files (fun _ _ => .inl rfl) settings.shelf
    record.network record.address found.source (assessment settings found).vulnerable
  have hHome := follow_home settings d.files hAddress found
  rw [judge_eq, judge_eq, follow, follow, hChange, hNotes]
  exact ⟨rfl, (h.withFiles hFiles hHome).happened rfl rfl⟩

/-- A record is processed alike in both orders. -/
theorem SameButOrder.process (h : SameButOrder P d d') (settings : Settings) (explorer : Explorer σ)
    (hAddress : '/' ∉ record.address.toList) :
    EndAlike (SameButOrder P) (process (o := o) settings explorer d record)
      (process (o := o') settings explorer d' record) := by
  refine AlikeUnless.endAlike (process_beside h (fun _ => ?_) fun found _ _ hNext => ?_)
  · exact (h.fetch o o' explorer record.network record.address).unless
  · exact (hNext.judge settings hAddress found).unless

/-! ### Networks -/

/-- A network is scanned alike in both orders. -/
theorem SameButOrder.scanNetwork (h : SameButOrder P d d') (settings : Settings)
    (explorer : Explorer σ) {records : List Record} (hRecords : ∀ r ∈ records, r.Proper network) :
    EndAlike (SameButOrder P) (scanNetwork (o := o) settings explorer d network records)
      (scanNetwork (o := o') settings explorer d' network records) := by
  obtain ⟨hDone, hMade⟩ := Shelf.prepare_matches h.files settings.shelf network
  have hGrown : FileTree.Grown d.files (settings.shelf.prepare d.files network).2 :=
    Shelf.prepare_grown rfl
  refine AlikeUnless.endAlike (scanNetwork_beside hDone (h.withFiles hMade hGrown.home)
    (fun _ _ _ hNext => hNext.happened rfl rfl) fun r hr _ _ hNext => ?_)
  exact (hNext.process o o' settings explorer (hRecords r hr).noSeparator).unless

/-- No manifest is at the place of an export. -/
theorem SameButOrder.export_findsSame (h : SameButOrder P d d')
    (hPlaces : ∀ loc, P loc → Export.NotExport loc) (settings : Settings) (network : Network) :
    FileTree.FindsSame (settings.exportPath network) d.files d'.files :=
  h.files.findsSame fun hPlace => settings.not_notExport_exportPath d.files network (hPlaces _ hPlace)

/-- An export is scanned alike in both orders, if it is not read where a manifest may be. -/
theorem SameButOrder.scanExport (h : SameButOrder P d d')
    (hPlaces : ∀ loc, P loc → Export.NotExport loc) (settings : Settings) (explorer : Explorer σ)
    (network : Network) :
    EndAlike (SameButOrder P) (scanExport (o := o) settings explorer d network)
      (scanExport (o := o') settings explorer d' network) := by
  have hSame : Export.load d'.files network (settings.exportPath network) =
      Export.load d.files network (settings.exportPath network) := by
    rw [Export.load, Export.load, (h.export_findsSame hPlaces settings network).readText]
  cases hLoad : Export.load d.files network (settings.exportPath network) with
  | error e =>
      rw [scanExport_of_error (o := o) hLoad, scanExport_of_error (o := o') (hSame.trans hLoad)]
      exact ⟨rfl, h⟩
  | ok records =>
      rw [scanExport_of_load (o := o) hLoad, scanExport_of_load (o := o') (hSame.trans hLoad)]
      exact h.scanNetwork o o' settings explorer (Export.proper_of_load hLoad)

/-- A list of networks is scanned alike in both orders. -/
theorem SameButOrder.scanExports (h : SameButOrder P d d')
    (hPlaces : ∀ loc, P loc → Export.NotExport loc) (settings : Settings) (explorer : Explorer σ)
    (networks : List Network) :
    EndAlike (SameButOrder P) (scanExports (o := o) settings explorer d networks)
      (scanExports (o := o') settings explorer d' networks) :=
  AlikeUnless.endAlike (scanExports_beside h fun network _ _ _ hNext =>
    (hNext.scanExport o o' hPlaces settings explorer network).unless)

/-- In whatever order a scan writes the entries of its manifest, it comes to the same report or error.
It asks the same in the same order, with the same keys, observes the same outcomes and leaves the same
cache and the same files, but for the order of the entries in the manifest of the cache. -/
theorem SameButOrder.run (h : SameButOrder P d d') (hPlaces : ∀ loc, P loc → Export.NotExport loc)
    (settings : Settings) (explorer : Explorer σ) (networks : List Network) :
    EndAlike (SameButOrder P) (run (o := o) settings explorer d networks)
      (run (o := o') settings explorer d' networks) := by
  have hInputs : checkInputs settings d'.files networks = checkInputs settings d.files networks := by
    unfold checkInputs
    rw [List.find?_congr fun n _ => by
      rw [(h.export_findsSame hPlaces settings n).findsAlike.isFile]]
  unfold Scan.run
  rw [hInputs]
  cases checkInputs settings d.files networks with
  | error e => exact ⟨rfl, h⟩
  | ok _ =>
      obtain ⟨hResult, hDesk⟩ :=
        h.scanExports o o' hPlaces settings explorer networks
      dsimp only
      rw [hResult]
      exact ⟨rfl, hDesk⟩

/-! ### The order of tables -/

/-- A scan does not look at the tables of the settings, once its networks and endpoints are chosen. -/
theorem run_enumerating [o : Manifest.Order] (settings : Settings)
    (tables : List (String × NetworkTable)) (explorer : Explorer σ) (d : Desk σ)
    (networks : List Network) :
    run (settings.enumerating tables) explorer d networks = run settings explorer d networks := by
  have hProcess (desk : Desk σ) (record : Record) :
      process (settings.enumerating tables) explorer desk record =
        process settings explorer desk record := rfl
  exact run_of_process hProcess rfl rfl d networks

end Scan

end LockTriage
