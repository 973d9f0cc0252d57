import LockTriage.Log.Filter
import LockTriage.Proofs.Explorer
import LockTriage.Proofs.Scan.Again
import LockTriage.Proofs.Scan.Process
import LockTriage.Proofs.Scan.Requests

/-!
Keys are told to the explorers and to nobody else. Two scans that differ in the texts and
numbers of their keys go through the same steps, on keys that stand elsewhere in their
pools: they end alike, leave the same files and the same cache, and have done the same but
for the keys in their queries.
-/

namespace LockTriage

/-! ### What has happened, without keys -/

def Note.withoutKey : Note → Note
  | .asking query => .asking query.withoutKey
  | note => note

/-- No key is printed in a note. -/
theorem Note.line_withoutKey (note : Note) : note.withoutKey.line = note.line := by
  cases note <;> rfl

namespace Event

def withoutKey : Event → Event
  | .noted note => .noted note.withoutKey
  | .asked query => .asked query.withoutKey
  | .judged record outcome => .judged record outcome

/-- The lines that the notes among some events are printed as. -/
def lines (events : List Event) : List String :=
  events.filterMap fun
    | .noted note => some note.line
    | _ => none

variable {events events' : List Event}

/-- Outcomes hold no keys. -/
theorem outcomes_withoutKey (events : List Event) :
    outcomes (events.map withoutKey) = outcomes events := by
  rw [outcomes, outcomes, List.filterMap_map]
  congr 1
  funext e
  cases e <;> rfl

/-- Without its key an event asks for the same. -/
theorem queries_withoutKey (events : List Event) :
    queries (events.map withoutKey) = (queries events).map Query.withoutKey := by
  rw [queries, queries, List.filterMap_map, List.map_filterMap]
  congr 1
  funext e
  cases e <;> rfl

/-- No key is printed. -/
theorem lines_withoutKey (events : List Event) : lines (events.map withoutKey) = lines events := by
  rw [lines, lines, List.filterMap_map]
  congr 1
  funext e
  cases e with
  | noted note => exact congrArg some note.line_withoutKey
  | asked query => rfl
  | judged record outcome => rfl

end Event

namespace Scan

variable {σ : Type} {explorer : Explorer σ} {settings : Settings} {d d' : Desk σ}
variable {network : Network} {address : String}

/-! ### Two desks -/

/-- Two desks that differ in their keys only, and in what the explorers remember of them.
The same networks have keys. -/
structure SameButKeys (explorer : Explorer σ) (d d' : Desk σ) : Prop where
  files : d'.files = d.files
  cache : d'.cache = d.cache
  explorer : explorer.Indistinct d.explorer d'.explorer
  pools : ∀ network, d'.keys.contains network = d.keys.contains network
  trace : d'.trace.map Event.withoutKey = d.trace.map Event.withoutKey

/-- What happens at both desks may differ in keys. -/
theorem SameButKeys.happened (h : SameButKeys explorer d d') {events events' : List Event}
    (hEvents : events'.map Event.withoutKey = events.map Event.withoutKey) :
    SameButKeys explorer (d.happened events) (d'.happened events') := by
  refine ⟨h.files, h.cache, h.explorer, h.pools, ?_⟩
  rw [Desk.happened_trace, Desk.happened_trace, List.map_append, List.map_append, h.trace, hEvents]

theorem SameButKeys.noting (h : SameButKeys explorer d d') (notes : List Note) :
    SameButKeys explorer (d.noting notes) (d'.noting notes) := h.happened rfl

theorem SameButKeys.withFiles (h : SameButKeys explorer d d') (files : FileTree) :
    SameButKeys explorer { d with files := files } { d' with files := files } :=
  ⟨rfl, h.cache, h.explorer, h.pools, h.trace⟩

/-! ### Fetches -/

/-- Queries for one contract differ in their keys at most. -/
private theorem withoutKey_queryFor (explorer : Explorer σ) (network : Network) (address : String)
    (key key' : String) :
    (queryFor explorer network address key').withoutKey =
      (queryFor explorer network address key).withoutKey := rfl

/-- Asking brings the same with any key. -/
theorem SameButKeys.ask (h : SameButKeys explorer d d') (network : Network) (address : String) :
    EndAlike (SameButKeys explorer) (ask explorer d network address) (ask explorer d' network address) := by
  have hPools := h.pools network
  rw [← KeyRing.isSome_draw?, ← KeyRing.isSome_draw?] at hPools
  cases hDraw : d.keys.draw? network with
  | none =>
      have hDraw' : d'.keys.draw? network = none := by
        rwa [hDraw, Option.isSome_none, Option.isSome_eq_false_iff, Option.isNone_iff_eq_none]
          at hPools
      rw [Scan.ask, Scan.ask, hDraw, hDraw']
      exact ⟨rfl, h⟩
  | some drawn =>
      rw [hDraw, Option.isSome_some, Option.isSome_iff_exists] at hPools
      obtain ⟨⟨key', ring'⟩, hDraw'⟩ := hPools
      obtain ⟨key, ring⟩ := drawn
      have hQuery := withoutKey_queryFor explorer network address key key'
      have hAnswer := h.explorer.answer hQuery
      rw [ask_of_draw hDraw, ask_of_draw hDraw']
      refine ⟨?_, ?_⟩
      · -- An error names the network, the address and the fault, all of them the same.
        show (answerTo explorer d' _).mapError _ = (answerTo explorer d _).mapError _
        rw [answerTo, answerTo, hAnswer]
        rfl
      · have hAsked : SameButKeys explorer
            { d with keys := ring, explorer := (explorer.answer _ d.explorer).2 }
            { d' with keys := ring', explorer := (explorer.answer _ d'.explorer).2 } :=
          ⟨h.files, h.cache, h.explorer.next hQuery,
            fun other => by
            rw [KeyRing.contains_of_draw? hDraw, KeyRing.contains_of_draw? hDraw', h.pools], h.trace⟩
        exact hAsked.happened rfl

/-- Keys are not cached. -/
theorem SameButKeys.keep (h : SameButKeys explorer d d') (key : CacheKey) (response : Json) :
    EndAlike (SameButKeys explorer) (keep d key response) (keep d' key response) := by
  rw [keep_eq, keep_eq, keeping, keeping, h.cache, h.files]
  exact ⟨rfl, rfl, rfl, h.explorer, h.pools, h.trace⟩

theorem SameButKeys.fetchFresh (h : SameButKeys explorer d d') (network : Network)
    (address : String) :
    EndAlike (SameButKeys explorer) (fetchFresh explorer d network address)
      (fetchFresh explorer d' network address) := by
  unfold Scan.fetchFresh
  rcases (h.ask network address).cases with
    ⟨e, next, next', hAsk, hAsk', hDesk⟩ | ⟨response, next, next', hAsk, hAsk', hDesk⟩
  · rw [hAsk, hAsk']
    exact ⟨rfl, hDesk⟩
  · rw [hAsk, hAsk']
    dsimp only
    cases sourceOf network address response with
    | error e => exact ⟨rfl, hDesk⟩
    | ok found =>
        obtain ⟨hDone, hKept⟩ := hDesk.keep ⟨network, address⟩ response
        dsimp only
        rw [hDone]
        exact ⟨rfl, hKept⟩

theorem SameButKeys.fetch (h : SameButKeys explorer d d') (network : Network) (address : String) :
    EndAlike (SameButKeys explorer) (fetch explorer d network address) (fetch explorer d' network address) := by
  unfold Scan.fetch
  rw [h.files, h.cache]
  rcases d.cache.get? d.files ⟨network, address⟩ with ⟨cached, notes⟩
  cases cached with
  | some response => exact ⟨rfl, h.noting _⟩
  | none => exact (h.noting notes).fetchFresh network address

/-- Any sequence of fetches brings the same sources and errors. -/
theorem SameButKeys.fetchAll (h : SameButKeys explorer d d') (requests : List CacheKey) :
    gains explorer d' requests = gains explorer d requests ∧
      SameButKeys explorer (fetchAll explorer d requests) (fetchAll explorer d' requests) := by
  induction requests generalizing d d' with
  | nil => exact ⟨rfl, h⟩
  | cons key requests ih =>
      obtain ⟨hResult, hDesk⟩ := h.fetch key.network key.address
      obtain ⟨hGains, hLast⟩ := ih hDesk
      refine ⟨?_, hLast⟩
      rw [gains, gains, hResult, hGains]

/-! ### Scans -/

/-- A verdict knows no key. -/
theorem SameButKeys.judge (h : SameButKeys explorer d d') (settings : Settings) (record : Record)
    (found : VerifiedSource) :
    EndAlike (SameButKeys explorer) (judge settings d record found) (judge settings d' record found) := by
  rw [judge_eq, judge_eq, h.files]
  exact ⟨rfl, (h.withFiles _).noting _⟩

theorem SameButKeys.process (h : SameButKeys explorer d d') (settings : Settings)
    (record : Record) :
    EndAlike (SameButKeys explorer) (process settings explorer d record)
      (process settings explorer d' record) := by
  refine AlikeUnless.endAlike (process_beside h (fun _ => ?_) fun found _ _ hNext => ?_)
  · exact (h.fetch record.network record.address).unless
  · exact (hNext.judge settings record found).unless

theorem SameButKeys.scanNetwork (h : SameButKeys explorer d d') (settings : Settings)
    (network : Network) (records : List Record) :
    EndAlike (SameButKeys explorer) (scanNetwork settings explorer d network records)
      (scanNetwork settings explorer d' network records) := by
  have hMade := h.withFiles (settings.shelf.prepare d.files network).2
  refine AlikeUnless.endAlike (scanNetwork_beside ?_ ?_ (fun _ _ _ hNext => hNext.happened rfl)
    fun record _ _ _ hNext => (hNext.process settings record).unless)
  · rw [h.files]
  · rwa [h.files]

theorem SameButKeys.scanExport (h : SameButKeys explorer d d') (settings : Settings)
    (network : Network) :
    EndAlike (SameButKeys explorer) (scanExport settings explorer d network)
      (scanExport settings explorer d' network) := by
  cases hLoad : Export.load d.files network (settings.exportPath network) with
  | error e =>
      rw [scanExport_of_error hLoad, scanExport_of_error (h.files ▸ hLoad)]
      exact ⟨rfl, h⟩
  | ok records =>
      rw [scanExport_of_load hLoad, scanExport_of_load (h.files ▸ hLoad)]
      exact h.scanNetwork settings network records

theorem SameButKeys.scanExports (h : SameButKeys explorer d d') (settings : Settings)
    (networks : List Network) :
    EndAlike (SameButKeys explorer) (scanExports settings explorer d networks)
      (scanExports settings explorer d' networks) :=
  AlikeUnless.endAlike (scanExports_beside h fun network _ _ _ hNext =>
    (hNext.scanExport settings network).unless)

/-- A whole scan ends alike with any keys. -/
theorem SameButKeys.run (h : SameButKeys explorer d d') (settings : Settings)
    (networks : List Network) :
    EndAlike (SameButKeys explorer) (run settings explorer d networks) (run settings explorer d' networks) := by
  unfold Scan.run
  rw [h.files]
  cases checkInputs settings d.files networks with
  | error e => exact ⟨rfl, h⟩
  | ok _ =>
      obtain ⟨hResult, hDesk⟩ := h.scanExports settings networks
      dsimp only
      rw [hResult]
      exact ⟨rfl, hDesk⟩

/-! ### Secrecy -/

/-- On two desks the same can be seen: the files, with the cache if it is on disk and the
saved sources, the cached answers, the outcomes in their order, the printed lines, and
everything that was asked but for its keys. -/
structure SeenAlike (d d' : Desk σ) : Prop where
  files : d'.files = d.files
  cache : d'.cache = d.cache
  outcomes : Event.outcomes d'.trace = Event.outcomes d.trace
  lines : Event.lines d'.trace = Event.lines d.trace
  queries : (Event.queries d'.trace).map Query.withoutKey =
    (Event.queries d.trace).map Query.withoutKey
  order : d'.trace.map Event.withoutKey = d.trace.map Event.withoutKey

/-- Desks that differ in keys only cannot be told apart by what is seen of them. -/
theorem SameButKeys.seenAlike (h : SameButKeys explorer d d') : SeenAlike d d' where
  files := h.files
  cache := h.cache
  outcomes := by rw [← Event.outcomes_withoutKey, h.trace, Event.outcomes_withoutKey]
  lines := by rw [← Event.lines_withoutKey, h.trace, Event.lines_withoutKey]
  queries := by rw [← Event.queries_withoutKey, h.trace, Event.queries_withoutKey]
  order := h.trace

/-- Keys reach the explorers and nothing else. With any other keys for the same networks,
and explorers whose answers do not depend on keys, fetches bring the same sources and
errors, and a scan ends with the same report or error. Either way the same files and the same
cache are left, the same outcomes are observed, the same lines are printed, and what is asked
differs in the keys at most. -/
theorem keys_stay_secret {desk : Desk σ} {ring : KeyRing} (hBlind : explorer.Blind desk.explorer)
    (hPools : ∀ network, ring.contains network = desk.keys.contains network) :
    (∀ requests,
      gains explorer { desk with keys := ring } requests = gains explorer desk requests ∧
      SeenAlike (fetchAll explorer desk requests)
        (fetchAll explorer { desk with keys := ring } requests)) ∧
    ∀ settings networks,
      (run settings explorer { desk with keys := ring } networks).1 =
        (run settings explorer desk networks).1 ∧
      SeenAlike (run settings explorer desk networks).2
        (run settings explorer { desk with keys := ring } networks).2 := by
  have hStart : SameButKeys explorer desk { desk with keys := ring } :=
    ⟨rfl, rfl, hBlind, hPools, rfl⟩
  constructor
  · intro requests
    obtain ⟨hGains, hDesk⟩ := hStart.fetchAll requests
    exact ⟨hGains, hDesk.seenAlike⟩
  · intro settings networks
    obtain ⟨hResult, hDesk⟩ := hStart.run settings networks
    exact ⟨hResult, hDesk.seenAlike⟩

end Scan

namespace Scan.Turns

/-- Other keys for the same network, one more of them, and none of them used yet. -/
def otherKeys : KeyRing := ⟨[(.poly, ⟨["secret", "spare"], 0, by decide⟩)]⟩

/-- The explorer fails for the second contract, so the scan ends with an error. -/
theorem keys_stay_secret_turns :
    (run settings (explorer "0xA" vulnerable) { first with keys := otherKeys } [.poly]).1 =
      .error (.status .poly "0xB" 500) ∧
    ((Event.queries (run settings (explorer "0xA" vulnerable) { first with keys := otherKeys }
      [.poly]).2.trace).map Query.withoutKey).map (·.address) = ["0xA", "0xB"] ∧
    (fetchAll (explorer "0xA" vulnerable) { first with keys := otherKeys } both).files =
      (fetchAll (explorer "0xA" vulnerable) first both).files := by
  have hBlind : (explorer "0xA" vulnerable).Blind first.explorer :=
    Explorer.blind_of_answer (fun _ _ => rfl) _
  have hPools (network : Network) : otherKeys.contains network = first.keys.contains network := by
    cases network <;> rfl
  obtain ⟨hFetches, hRuns⟩ := keys_stay_secret hBlind hPools
  obtain ⟨hResult, hSeen⟩ := hRuns settings [.poly]
  refine ⟨?_, ?_, (hFetches both).2.files⟩
  · rw [hResult]
    decide +kernel
  · rw [hSeen.queries]
    decide +kernel

end Scan.Turns

end LockTriage
