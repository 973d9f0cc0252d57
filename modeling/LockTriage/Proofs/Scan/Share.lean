import LockTriage.Proofs.Explorer
import LockTriage.Proofs.Scan.Requests

/-!
The share of a network in what fetches use: the cached answers for its contracts, its pool
of keys, and what its explorer goes by. A fetch for the network depends on its share and
changes nothing else, so fetches for other networks can be left out.
-/

namespace LockTriage

/-- The cached answer of a contract, without the notes about it. -/
def Desk.cached? {σ : Type} (desk : Desk σ) (key : CacheKey) : Option Json :=
  (desk.cache.get? desk.files key).1

namespace Scan

variable {σ : Type} {explorer : Explorer σ} {d d' last : Desk σ} {network : Network}

/-! ### Shares -/

/-- On two desks, both with a cache in memory, the network has the same share, and its
explorer has been asked the same. -/
structure SameShare (explorer : Explorer σ) (network : Network) (d d' : Desk σ) : Prop where
  memory : ∃ known, d.cache = .memory known
  memory' : ∃ known, d'.cache = .memory known
  cached : ∀ address, d'.cached? ⟨network, address⟩ = d.cached? ⟨network, address⟩
  pool : d'.keys.pool? network = d.keys.pool? network
  explorer : explorer.AgreeOn network d.explorer d'.explorer
  queries : Event.queriesTo network d'.trace = Event.queriesTo network d.trace

theorem SameShare.symm (h : SameShare explorer network d d') : SameShare explorer network d' d :=
  ⟨h.memory', h.memory, fun address => (h.cached address).symm, h.pool.symm, h.explorer.symm,
    h.queries.symm⟩

theorem SameShare.trans (h : SameShare explorer network d d')
    (h' : SameShare explorer network d' last) : SameShare explorer network d last :=
  ⟨h.memory, h'.memory', fun address => (h'.cached address).trans (h.cached address),
    h'.pool.trans h.pool, h.explorer.trans h'.explorer, h'.queries.trans h.queries⟩

/-- The answers in memory do not depend on files. -/
private theorem cached?_memory {known : List (CacheKey × Json)} (h : d.cache = .memory known)
    (key : CacheKey) : d.cached? key = Assoc.get? key known := by
  rw [Desk.cached?, h]
  rfl

theorem SameShare.withFiles (h : SameShare explorer network d d') (files files' : FileTree) :
    SameShare explorer network { d with files := files } { d' with files := files' } := by
  obtain ⟨known, hKnown⟩ := h.memory
  obtain ⟨known', hKnown'⟩ := h.memory'
  refine ⟨⟨known, hKnown⟩, ⟨known', hKnown'⟩, fun address => ?_, h.pool, h.explorer, h.queries⟩
  have hCached := h.cached address
  rw [cached?_memory hKnown, cached?_memory hKnown'] at hCached
  rw [cached?_memory (d := { d with files := files }) hKnown,
    cached?_memory (d := { d' with files := files' }) hKnown', hCached]

/-- What is recorded on both desks makes no difference if it asks the same of the network. -/
theorem SameShare.happened (h : SameShare explorer network d d') {events events' : List Event}
    (hEvents : Event.queriesTo network events' = Event.queriesTo network events) :
    SameShare explorer network (d.happened events) (d'.happened events') := by
  refine ⟨h.memory, h.memory', h.cached, h.pool, h.explorer, ?_⟩
  rw [Desk.happened_trace, Desk.happened_trace, Event.queriesTo_append, Event.queriesTo_append,
    h.queries, hEvents]

/-- What happens at the second desk alone leaves the share when it asks nothing of the network. -/
theorem SameShare.happened_there (h : SameShare explorer network d d') {events : List Event}
    (hEvents : Event.queriesTo network events = []) :
    SameShare explorer network d (d'.happened events) := by
  refine ⟨h.memory, h.memory', h.cached, h.pool, h.explorer, ?_⟩
  rw [Desk.happened_trace, Event.queriesTo_append, hEvents, List.append_nil, h.queries]

theorem SameShare.noting (h : SameShare explorer network d d') (notes notes' : List Note) :
    SameShare explorer network (d.noting notes) (d'.noting notes') := by
  refine h.happened ?_
  rw [Event.queriesTo_of_none (Event.queries_noted notes),
    Event.queriesTo_of_none (Event.queries_noted notes')]

/-! ### Fetches for the network -/

/-- The explorer answers alike on desks with the same share of a network. -/
theorem SameShare.ask (h : SameShare explorer network d d') (address : String) :
    EndAlike (SameShare explorer network) (ask explorer d network address)
      (ask explorer d' network address) := by
  cases hPool : d.keys.pool? network with
  | none =>
      have hDraw : d.keys.draw? network = none := by rw [KeyRing.draw?, hPool, Option.map_none]
      have hDraw' : d'.keys.draw? network = none := by
        rw [KeyRing.draw?, h.pool, hPool, Option.map_none]
      rw [Scan.ask, Scan.ask, hDraw, hDraw']
      exact ⟨rfl, h⟩
  | some pool =>
      have hQuery : (queryFor explorer network address (pool.nth 0)).network = network := rfl
      have hAnswer := h.explorer.answer hQuery
      rw [ask_of_draw (KeyRing.draw?_of_pool hPool),
        ask_of_draw (KeyRing.draw?_of_pool (h.pool.trans hPool))]
      refine ⟨by dsimp only; rw [answerTo, answerTo, hAnswer], ?_⟩
      have hAsked : SameShare explorer network
          { d with
            keys := d.keys.insert network (pool.advance 1)
            explorer := (explorer.answer _ d.explorer).2 }
          { d' with
            keys := d'.keys.insert network (pool.advance 1)
            explorer := (explorer.answer _ d'.explorer).2 } :=
        ⟨h.memory, h.memory', h.cached, by rw [KeyRing.pool?_insert, KeyRing.pool?_insert, h.pool],
          h.explorer.next hQuery, h.queries⟩
      exact hAsked.happened rfl

private theorem put_memory {known : List (CacheKey × Json)} (h : d.cache = .memory known)
    (key : CacheKey) (response : Json) :
    d.cache.put d.files key response = (.ok (), .memory (Assoc.set key response known), d.files) := by
  rw [h]
  rfl

private theorem cache_keeping {known : List (CacheKey × Json)} (h : d.cache = .memory known)
    (key : CacheKey) (response : Json) :
    (keeping d key response).cache = .memory (Assoc.set key response known) :=
  congrArg (fun put => put.2.1) (put_memory h key response)

private theorem cached?_keeping {known : List (CacheKey × Json)} (h : d.cache = .memory known)
    (key other : CacheKey) (response : Json) :
    (keeping d key response).cached? other =
      if other = key then some response else d.cached? other := by
  rw [cached?_memory (cache_keeping h key response), cached?_memory h, Assoc.get?_set]

/-- An answer is kept alike on desks with the same share of a network. -/
theorem SameShare.keep (h : SameShare explorer network d d') (key : CacheKey) (response : Json) :
    EndAlike (SameShare explorer network) (keep d key response) (keep d' key response) := by
  obtain ⟨known, hKnown⟩ := h.memory
  obtain ⟨known', hKnown'⟩ := h.memory'
  rw [keep_eq, keep_eq]
  refine ⟨by rw [put_memory hKnown, put_memory hKnown'], ⟨_, cache_keeping hKnown key response⟩,
    ⟨_, cache_keeping hKnown' key response⟩, fun address => ?_, h.pool, h.explorer, h.queries⟩
  dsimp only
  rw [cached?_keeping hKnown, cached?_keeping hKnown', h.cached]

/-- A contract is fetched afresh alike on desks with the same share of its network. -/
theorem SameShare.fetchFresh (h : SameShare explorer network d d') (address : String) :
    EndAlike (SameShare explorer network) (fetchFresh explorer d network address)
      (fetchFresh explorer d' network address) := by
  unfold Scan.fetchFresh
  rcases (h.ask address).cases with
    ⟨e, next, next', hAsk, hAsk', hShare⟩ | ⟨response, next, next', hAsk, hAsk', hShare⟩
  · rw [hAsk, hAsk']
    exact ⟨rfl, hShare⟩
  · rw [hAsk, hAsk']
    dsimp only
    cases sourceOf network address response with
    | error e => exact ⟨rfl, hShare⟩
    | ok found =>
        obtain ⟨hDone, hKept⟩ := hShare.keep ⟨network, address⟩ response
        dsimp only
        rw [hDone]
        exact ⟨rfl, hKept⟩

/-- A fetch for the network depends on its share. -/
theorem SameShare.fetch (h : SameShare explorer network d d') (address : String) :
    EndAlike (SameShare explorer network) (fetch explorer d network address)
      (fetch explorer d' network address) := by
  have hCached := h.cached address
  unfold Desk.cached? at hCached
  unfold Scan.fetch
  generalize d.cache.get? d.files ⟨network, address⟩ = got at hCached ⊢
  generalize d'.cache.get? d'.files ⟨network, address⟩ = got' at hCached ⊢
  obtain ⟨cached, notes⟩ := got
  obtain ⟨cached', notes'⟩ := got'
  obtain rfl : cached' = cached := hCached
  cases cached' with
  | some response => exact ⟨rfl, h.noting _ _⟩
  | none => exact (h.noting notes notes').fetchFresh address

/-! ### Fetches for other networks -/

private theorem queriesTo_asked {query : Query} (h : query.network ≠ network) :
    Event.queriesTo network [.noted (.asking query), .asked query] = [] := by
  rw [Event.queriesTo_of_one (Event.queries_asked query), if_neg h]

/-- A query about another network leaves the share. -/
private theorem SameShare.afterQuery (h : SameShare explorer network d d') {query : Query}
    {keys : KeyRing} {key : String} (hQuery : query.network ≠ network)
    (hKeys : d'.keys.draw? query.network = some (key, keys)) :
    SameShare explorer network d (Scan.afterQuery explorer d' query keys) := by
  have hAsked : SameShare explorer network d
      { d' with keys := keys, explorer := (explorer.answer query d'.explorer).2 } :=
    ⟨h.memory, h.memory', h.cached, (KeyRing.pool?_of_draw? hKeys (Ne.symm hQuery)).trans h.pool,
      h.explorer.other hQuery, h.queries⟩
  exact hAsked.happened_there (queriesTo_asked hQuery)

/-- A fetch for another network leaves the share. -/
theorem SameShare.fetch_other (h : SameShare explorer network d d') {other : Network}
    (hOther : other ≠ network) (address : String) :
    SameShare explorer network d (Scan.fetch explorer d' other address).2 := by
  have hCases := fetched explorer d' other address
  generalize Scan.fetch explorer d' other address = result at hCases ⊢
  have hNoted (notes : List Note) : SameShare explorer network d (d'.noting notes) :=
    h.happened_there (Event.queriesTo_of_none (Event.queries_noted notes))
  cases hCases with
  | known => exact hNoted _
  | keyless => exact hNoted _
  | refused _ hKeys => exact (hNoted _).afterQuery hOther hKeys
  | malformed _ hKeys => exact (hNoted _).afterQuery hOther hKeys
  | @kept notes key keys response found _ hKeys =>
      have hAsked : SameShare explorer network d
          (Scan.afterQuery explorer (d'.noting notes) (queryFor explorer other address key) keys) :=
        (hNoted notes).afterQuery hOther hKeys
      obtain ⟨known, hKnown⟩ := hAsked.memory'
      refine ⟨h.memory, ⟨_, cache_keeping hKnown ⟨other, address⟩ response⟩, fun found => ?_,
        hAsked.pool, hAsked.explorer, hAsked.queries⟩
      dsimp only
      rw [cached?_keeping hKnown, if_neg fun hSame => hOther (CacheKey.mk.inj hSame).1.symm,
        hAsked.cached]

/-! ### Fetches of one network among those of others -/

/-- Fetches for other networks can be left out. -/
theorem SameShare.fetchAll (h : SameShare explorer network d d') (requests : List CacheKey) :
    (gains explorer d' requests).filter (·.1.network = network) =
        gains explorer d (requests.filter (·.network = network)) ∧
      SameShare explorer network (Scan.fetchAll explorer d (requests.filter (·.network = network)))
        (Scan.fetchAll explorer d' requests) := by
  induction requests generalizing d d' with
  | nil => exact ⟨rfl, h⟩
  | cons key requests ih =>
      obtain ⟨other, address⟩ := key
      by_cases hOwn : other = network
      · subst hOwn
        obtain ⟨hResult, hShare⟩ := h.fetch address
        obtain ⟨hGains, hLast⟩ := ih hShare
        rw [List.filter_cons_of_pos (by simp), gains, gains, List.filter_cons_of_pos (by simp),
          hGains, hResult]
        exact ⟨rfl, hLast⟩
      · obtain ⟨hGains, hLast⟩ := ih (h.fetch_other hOwn address)
        rw [List.filter_cons_of_neg (by simpa using hOwn), gains,
          List.filter_cons_of_neg (by simpa using hOwn), hGains]
        exact ⟨rfl, hLast⟩

end Scan

end LockTriage
