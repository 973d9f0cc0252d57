import LockTriage.Proofs.KeyRing
import LockTriage.Proofs.Scan.Fetch

/-!
Any number of fetches, one after another, for any networks. A query takes the next
key of its network and nothing else takes one, so the keys of a network share its
queries in turn, whatever happens in between.
-/

namespace LockTriage

namespace Event

/-- The queries to the explorer of a network, in their order. -/
def queriesTo (network : Network) (events : List Event) : List Query :=
  (queries events).filter (·.network = network)

variable {network : Network} {events more : List Event}

/-- The requests to a network during two stretches are those of the one and then those of the other.
-/
@[simp] theorem queriesTo_append :
    queriesTo network (events ++ more) = queriesTo network events ++ queriesTo network more := by
  simp [queriesTo]

/-- Where nothing is asked, no network is asked. -/
theorem queriesTo_of_none (h : queries events = []) : queriesTo network events = [] := by
  simp [queriesTo, h]

/-- A single request goes to its own network. -/
theorem queriesTo_of_one {query : Query} (h : queries events = [query]) :
    queriesTo network events = if query.network = network then [query] else [] := by
  by_cases hNetwork : query.network = network <;> simp [queriesTo, h, hNetwork]

@[simp] theorem queries_asked (query : Query) :
    queries [.noted (.asking query), .asked query] = [query] := rfl

end Event

namespace Scan

variable {σ : Type}

/-- The desk after some fetches. One that fails does not keep the next from being tried. -/
def fetchAll (explorer : Explorer σ) (desk : Desk σ) (requests : List CacheKey) : Desk σ :=
  requests.foldl (fun desk key => (fetch explorer desk key.network key.address).2) desk

/-- What some fetches bring, one after another, each with its contract. -/
def gains (explorer : Explorer σ) (desk : Desk σ) :
    List CacheKey → List (CacheKey × Except ScanError VerifiedSource)
  | [] => []
  | key :: requests =>
      (key, (fetch explorer desk key.network key.address).1) ::
        gains explorer (fetch explorer desk key.network key.address).2 requests

variable {explorer : Explorer σ} {desk : Desk σ}

theorem fetchAll_cons (key : CacheKey) (requests : List CacheKey) :
    fetchAll explorer desk (key :: requests) =
      fetchAll explorer (fetch explorer desk key.network key.address).2 requests := rfl

/-- Fetching two lists in a row is fetching them as one. -/
theorem fetchAll_append (before after : List CacheKey) :
    fetchAll explorer desk (before ++ after) =
      fetchAll explorer (fetchAll explorer desk before) after := List.foldl_append

/-! ### The key of one fetch -/

/-- What a fetch asks: one query with the next key of the network, or nothing if the
answer is cached or the network has no pool. -/
theorem fetch_queries (explorer : Explorer σ) (desk : Desk σ) (network : Network)
    (address : String) :
    ∃ events, (fetch explorer desk network address).2.trace = desk.trace ++ events ∧
      ((∃ drawn ring, (desk.cache.get? desk.files ⟨network, address⟩).1 = none ∧
          desk.keys.draw? network = some (drawn, ring) ∧
          (fetch explorer desk network address).2.keys = ring ∧
          Event.queries events = [queryFor explorer network address drawn]) ∨
        (((desk.cache.get? desk.files ⟨network, address⟩).1 ≠ none ∨
            desk.keys.draw? network = none) ∧
          (fetch explorer desk network address).2.keys = desk.keys ∧
          Event.queries events = [])) := by
  have hCases := fetched explorer desk network address
  generalize fetch explorer desk network address = result at hCases ⊢
  cases hCases with
  | @known response notes hFound =>
      exact ⟨notes.map .noted, rfl, .inr ⟨.inl (by simp [hFound]), rfl, Event.queries_noted _⟩⟩
  | @keyless notes hNew hKeys =>
      exact ⟨notes.map .noted, rfl, .inr ⟨.inr hKeys, rfl, Event.queries_noted _⟩⟩
  | refused hNew hKeys =>
      exact ⟨_, List.append_assoc _ _ _, .inl ⟨_, _, hNew, hKeys, rfl, by simp⟩⟩
  | malformed hNew hKeys =>
      exact ⟨_, List.append_assoc _ _ _, .inl ⟨_, _, hNew, hKeys, rfl, by simp⟩⟩
  | kept hNew hKeys =>
      exact ⟨_, List.append_assoc _ _ _, .inl ⟨_, _, hNew, hKeys, rfl, by simp⟩⟩

/-- The fetch for a contract draws no more than it has to: it asks once, with the next
key of the network, if nothing is cached and the network has a pool, and else it
neither asks nor draws. It draws no key of another network. -/
structure Draws (explorer : Explorer σ) (desk : Desk σ) (key : CacheKey) : Prop where
  asked : (desk.cache.get? desk.files key).1 = none →
    ∀ drawn ring, desk.keys.draw? key.network = some (drawn, ring) →
      (fetch explorer desk key.network key.address).2.keys = ring ∧
        ∃ events, (fetch explorer desk key.network key.address).2.trace = desk.trace ++ events ∧
          Event.queries events = [queryFor explorer key.network key.address drawn]
  unasked : (desk.cache.get? desk.files key).1 ≠ none ∨ desk.keys.contains key.network = false →
    (fetch explorer desk key.network key.address).2.keys = desk.keys ∧
      ∃ events, (fetch explorer desk key.network key.address).2.trace = desk.trace ++ events ∧
        Event.queries events = []
  others : ∀ network, network ≠ key.network →
    (fetch explorer desk key.network key.address).2.keys.pool? network = desk.keys.pool? network

/-- A fetch draws at most one key, and draws it from its network's pool. -/
theorem draws (explorer : Explorer σ) (desk : Desk σ) (key : CacheKey) :
    Draws explorer desk key := by
  have hContains := KeyRing.isSome_draw? desk.keys key.network
  obtain ⟨events, hTrace, ⟨drawn, ring, hNew, hDraw, hKeys, hQueries⟩ | ⟨hNot, hKeys, hQueries⟩⟩ :=
    fetch_queries explorer desk key.network key.address
  · refine ⟨fun _ drawn' ring' hDraw' => ?_, fun hNot => ?_, fun network hNe => ?_⟩
    · rw [hDraw] at hDraw'
      cases hDraw'
      exact ⟨hKeys, events, hTrace, hQueries⟩
    · rw [hDraw, Option.isSome_some] at hContains
      rcases hNot with hCached | hNone
      · exact absurd hNew hCached
      · rw [← hContains] at hNone
        cases hNone
    · rw [hKeys]
      exact KeyRing.pool?_of_draw? hDraw hNe
  · refine ⟨fun hNew drawn ring hDraw => ?_, fun _ => ⟨hKeys, events, hTrace, hQueries⟩,
      fun network _ => by rw [hKeys]⟩
    rcases hNot with hCached | hNone
    · exact absurd hNew hCached
    · rw [hNone] at hDraw
      cases hDraw

/-! ### The keys of many fetches -/

/-- The queries took their keys in turn: those of a network are the next ones of its
pool, and the pool has moved on by as many. -/
structure InTurn (before after : KeyRing) (events : List Event) : Prop where
  pools : ∀ network, after.pool? network =
    (before.pool? network).map (·.advance (Event.queriesTo network events).length)
  keys : ∀ network count query, (Event.queriesTo network events)[count]? = some query →
    ∃ pool, before.pool? network = some pool ∧ query.key = pool.nth count

/-- No turn is taken where nothing is asked. -/
theorem InTurn.of_unasked {ring : KeyRing} {events : List Event}
    (h : Event.queries events = []) : InTurn ring ring events := by
  refine ⟨fun network => ?_, fun network count query hQuery => ?_⟩
  · rw [Event.queriesTo_of_none h]
    cases ring.pool? network <;> simp
  · rw [Event.queriesTo_of_none h] at hQuery
    cases hQuery

/-- If turns are kept in two stretches, they are kept in both together. -/
theorem InTurn.trans {first second third : KeyRing} {events later : List Event}
    (h : InTurn first second events) (hLater : InTurn second third later) :
    InTurn first third (events ++ later) := by
  refine ⟨fun network => ?_, fun network count query hQuery => ?_⟩
  · rw [hLater.pools, h.pools, Event.queriesTo_append, List.length_append]
    cases first.pool? network <;> simp
  · rw [Event.queriesTo_append, List.getElem?_append] at hQuery
    split at hQuery
    · exact h.keys network count query hQuery
    · -- The count starts anew with the later queries, where the pool has moved on.
      rename_i hCount
      obtain ⟨pool, hPool, hKey⟩ := hLater.keys network _ query hQuery
      rw [h.pools, Option.map_eq_some_iff] at hPool
      obtain ⟨earlier, hEarlier, rfl⟩ := hPool
      refine ⟨earlier, hEarlier, ?_⟩
      rw [hKey, KeyPool.nth_advance, Nat.add_sub_cancel' (Nat.not_lt.mp hCount)]

/-- A request made with the key just drawn keeps the turn. -/
theorem InTurn.of_asked {ring next : KeyRing} {events : List Event} {query : Query}
    (hDraw : ring.draw? query.network = some (query.key, next))
    (hQueries : Event.queries events = [query]) : InTurn ring next events := by
  obtain ⟨pool, hPool, hKey, rfl⟩ := KeyRing.draw?_eq_some hDraw
  refine ⟨fun network => ?_, fun network count other hOther => ?_⟩
  · rw [KeyRing.pool?_insert, Event.queriesTo_of_one hQueries]
    by_cases hNetwork : network = query.network
    · subst hNetwork
      simp [hPool]
    · simp only [if_neg hNetwork, if_neg (Ne.symm hNetwork), List.length_nil]
      cases ring.pool? network <;> simp
  · rw [Event.queriesTo_of_one hQueries] at hOther
    split at hOther
    · rename_i hNetwork
      subst hNetwork
      obtain ⟨rfl, rfl⟩ : count = 0 ∧ query = other := by
        cases count <;> simp_all
      exact ⟨pool, hPool, hKey⟩
    · cases hOther

/-- A fetch keeps the turn of the keys. -/
theorem fetch_inTurn (explorer : Explorer σ) (desk : Desk σ) (network : Network)
    (address : String) :
    ∃ events, (fetch explorer desk network address).2.trace = desk.trace ++ events ∧
      InTurn desk.keys (fetch explorer desk network address).2.keys events := by
  obtain ⟨events, hTrace, ⟨drawn, ring, _, hDraw, hKeys, hQueries⟩ | ⟨_, hKeys, hQueries⟩⟩ :=
    fetch_queries explorer desk network address
  · exact ⟨events, hTrace, hKeys ▸ .of_asked hDraw hQueries⟩
  · exact ⟨events, hTrace, hKeys ▸ .of_unasked hQueries⟩

/-- Any series of fetches keeps the turn of the keys. -/
theorem fetchAll_inTurn (explorer : Explorer σ) (desk : Desk σ) (requests : List CacheKey) :
    ∃ events, (fetchAll explorer desk requests).trace = desk.trace ++ events ∧
      InTurn desk.keys (fetchAll explorer desk requests).keys events := by
  induction requests generalizing desk with
  | nil => exact ⟨[], by simp [fetchAll], .of_unasked rfl⟩
  | cons key requests ih =>
      obtain ⟨events, hTrace, hTurn⟩ := fetch_inTurn explorer desk key.network key.address
      obtain ⟨later, hLater, hRest⟩ := ih (fetch explorer desk key.network key.address).2
      refine ⟨events ++ later, ?_, hTurn.trans hRest⟩
      rw [fetchAll_cons, hLater, hTrace, List.append_assoc]

/-- However many contracts of however many networks are fetched, from whatever cache
and with whatever answers and failures: query number `count` of a network carries the
key at that place of the network's pool, counted round and round, and the pool stands
where the number of the network's queries puts it, so a key can always be drawn. A
fetch makes a query and draws a key exactly if nothing is cached and the network has a
pool, and leaves the pools of all other networks as they were. -/
theorem fetchAll_round_robin (explorer : Explorer σ) (desk : Desk σ) (requests : List CacheKey)
    (hFresh : desk.keys.Fresh) :
    ∃ events, (fetchAll explorer desk requests).trace = desk.trace ++ events ∧
      (∀ network count query, (Event.queriesTo network events)[count]? = some query →
        ∃ pool, desk.keys.pool? network = some pool ∧
          pool.keys[count % pool.size]? = some query.key) ∧
      (∀ network pool, desk.keys.pool? network = some pool →
        ∃ now, (fetchAll explorer desk requests).keys.pool? network = some now ∧
          now.keys = pool.keys ∧ now.cursor < now.size ∧
          now.cursor = (Event.queriesTo network events).length % pool.size) ∧
      (∀ network, ((fetchAll explorer desk requests).keys.draw? network).isSome =
        desk.keys.contains network) ∧
      ∀ before key after, requests = before ++ key :: after →
        Draws explorer (fetchAll explorer desk before) key := by
  obtain ⟨events, hTrace, hTurn⟩ := fetchAll_inTurn explorer desk requests
  refine ⟨events, hTrace, fun network count query hQuery => ?_, fun network pool hPool => ?_,
    fun network => ?_, fun before key after _ => draws explorer _ key⟩
  · obtain ⟨pool, hPool, hKey⟩ := hTurn.keys network count query hQuery
    exact ⟨pool, hPool, hKey ▸ pool.getElem?_nth (hFresh network pool hPool) count⟩
  · have hNow := hTurn.pools network
    rw [hPool, Option.map_some] at hNow
    refine ⟨_, hNow, rfl, KeyPool.cursor_lt _, ?_⟩
    rw [KeyPool.advance_cursor, hFresh network pool hPool, Nat.zero_add]
  · rw [KeyRing.isSome_draw?, KeyRing.contains, KeyRing.contains, hTurn.pools, Option.isSome_map]

end Scan

namespace Scan.Errands

/-- An explorer that fails for one contract. -/
def explorer : Explorer Unit where
  endpoint := Network.defaultApiUrl
  answer query state :=
    (if query.address = "0xB" then .error (.status 500)
      else .ok (.object [("result", .list
        [.object [("CompilerVersion", .text "vyper:0.3.0"), ("SourceCode", .text "")]])]),
      state)

/-- Two networks with keys, of which one has two. -/
def desk : Desk Unit :=
  ⟨.withHome [], .memory [], ⟨[(.poly, ⟨["a", "b"], 0, by decide⟩), (.op, ⟨["c"], 0, by decide⟩)]⟩,
    (), []⟩

/-- Among them a contract that is fetched again, and one of a network without keys. -/
def requests : List CacheKey :=
  [⟨.poly, "0xA"⟩, ⟨.op, "0xA"⟩, ⟨.poly, "0xB"⟩, ⟨.poly, "0xA"⟩, ⟨.arb, "0xA"⟩, ⟨.poly, "0xC"⟩]

theorem fetchAll_errands :
    ((Event.queriesTo .poly (fetchAll explorer desk requests).trace)[2]?.map (·.key)) = some "a" ∧
      ((fetchAll explorer desk requests).keys.pool? .poly).map (·.cursor) = some 1 := by
  have hFirst : KeyPool.ofList? ["a", "b"] = some ⟨["a", "b"], 0, by decide⟩ := rfl
  have hSecond : KeyPool.ofList? ["c"] = some ⟨["c"], 0, by decide⟩ := rfl
  have hKeys : ((KeyRing.empty.insert .poly _).insert .op _).Fresh :=
    (KeyRing.fresh_empty.insert hFirst).insert hSecond
  have hFresh : desk.keys.Fresh := hKeys
  obtain ⟨events, hTrace, hDrawn, hPools, _⟩ := fetchAll_round_robin explorer desk requests hFresh
  rw [show desk.trace = [] from rfl, List.nil_append] at hTrace
  have hCount : (Event.queriesTo .poly events).length = 3 := by
    rw [← hTrace]
    decide +kernel
  obtain ⟨pool, hPool, hKey⟩ := hDrawn .poly 2 _ (List.getElem?_eq_getElem (by omega))
  obtain ⟨now, hNow, _, _, hCursor⟩ := hPools .poly _ rfl
  rw [hTrace, hNow, List.getElem?_eq_getElem (by omega)]
  cases hPool
  refine ⟨hKey.symm, ?_⟩
  rw [Option.map_some, hCursor, hCount]
  rfl

end Scan.Errands

end LockTriage
