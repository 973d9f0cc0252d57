import LockTriage.Proofs.Scan.Asked
import LockTriage.Proofs.Scan.Requests

/-!
Fetching again after a failure. When no source came of a query, the key that it took is all that
is gone: nothing was cached, no other network is affected, and the next attempt asks anew with
the next key. What it gets it also has to keep, so it can still fail for a file of the cache.
-/

namespace LockTriage

namespace Scan

variable {σ : Type} {explorer : Explorer σ} {desk next : Desk σ} {network : Network}
variable {address : String} {pool : KeyPool} {e : ScanError}

/-- The fetch came to nothing before there was anything to keep: the network has no keys, the
explorer sent no document, or the document that it sent has no source in it. -/
inductive Unanswered (desk : Desk σ) (network : Network) (address : String) : ScanError → Prop where
  | keyless (n : Network) : Unanswered desk network address (.missingKeys n)
  | request (n : Network) (fault : RequestFault) : Unanswered desk network address (.request n fault)
  | status (n : Network) (a : String) (code : Nat) : Unanswered desk network address (.status n a code)
  | malformed (n : Network) (a : String) (what : Malformation)
      (hFresh : (desk.cache.get? desk.files ⟨network, address⟩).1 = none) :
      Unanswered desk network address (.malformed n a what)

/-- Nothing is different but for the keys of the network, the explorer's memory and the trace. -/
structure Spares (network : Network) (desk next : Desk σ) : Prop where
  files : next.files = desk.files
  answers : ∀ key, next.cache.get? next.files key = desk.cache.get? desk.files key
  size : next.cache.size = desk.cache.size
  pools : ∀ other, other ≠ network → next.keys.pool? other = desk.keys.pool? other

/-- The fetch asks the explorer once, with the key, and a source is got exactly if there is one in
the answer and the answer can be kept. -/
structure Asks (explorer : Explorer σ) (desk : Desk σ) (network : Network) (address key : String) :
    Prop where
  once : ∃ events, (fetch explorer desk network address).2.trace = desk.trace ++ events ∧
    Event.queries events = [queryFor explorer network address key]
  succeeds : ∀ found, (fetch explorer desk network address).1 = .ok found ↔
    ∃ response, answerTo explorer desk (queryFor explorer network address key) = .ok response ∧
      sourceOf network address response = .ok found ∧
      (desk.cache.put desk.files ⟨network, address⟩ response).1 = .ok ()

/-! ### One fetch of what is not cached -/

/-- Without a pool no key is drawn. -/
theorem draw?_of_no_pool {ring : KeyRing} (h : ring.pool? network = none) :
    ring.draw? network = none := by
  rw [KeyRing.draw?, h, Option.map_none]

/-- Without keys nobody is asked. -/
theorem fetch_of_keyless (explorer : Explorer σ)
    (hNew : (desk.cache.get? desk.files ⟨network, address⟩).1 = none)
    (hPool : desk.keys.pool? network = none) :
    ∃ notes, fetch explorer desk network address =
      (.error (.missingKeys network), desk.noting notes) := by
  rcases hGet : desk.cache.get? desk.files ⟨network, address⟩ with ⟨cached, notes⟩
  rw [hGet] at hNew
  obtain rfl : cached = none := hNew
  refine ⟨notes, ?_⟩
  unfold fetch
  rw [hGet]
  dsimp only
  rw [fetchFresh, ask, Desk.noting_keys, draw?_of_no_pool hPool]

/-- A contract that is not known is asked for with the pool's next key. -/
theorem asks_of_pool (explorer : Explorer σ)
    (hNew : (desk.cache.get? desk.files ⟨network, address⟩).1 = none)
    (hPool : desk.keys.pool? network = some pool) :
    Asks explorer desk network address (pool.nth 0) := by
  have hDraw := KeyRing.draw?_of_pool hPool
  refine ⟨((draws explorer desk ⟨network, address⟩).asked hNew _ _ hDraw).2, fun found => ?_⟩
  have hCases := fetched explorer desk network address
  generalize fetch explorer desk network address = result at hCases ⊢
  cases hCases with
  | known hFound =>
      rw [hNew] at hFound
      cases hFound
  | keyless _ hKeys =>
      rw [hDraw] at hKeys
      cases hKeys
  | refused _ hKeys hAnswer =>
      rw [hDraw] at hKeys
      cases hKeys
      simp [hAnswer]
  | malformed _ hKeys hAnswer hSource =>
      rw [hDraw] at hKeys
      cases hKeys
      simp [hAnswer, sourceOf_eq_ok_iff, hSource]
  | @kept _ _ _ response got _ hKeys hAnswer hSource =>
      rw [hDraw] at hKeys
      cases hKeys
      simp only [hAnswer, sourceOf_eq_ok_iff, Except.ok.injEq, exists_eq_left', hSource]
      cases (desk.cache.put desk.files ⟨network, address⟩ response).1 <;> simp [Except.map]

/-! ### After a failure -/

/-- A response without source is malformed. -/
theorem malformed_of_sourceOf {response : Json} (h : sourceOf network address response = .error e) :
    ∃ what, e = .malformed network address what := by
  unfold sourceOf at h
  cases hRead : VerifiedSource.ofResponse response with
  | ok found =>
      rw [hRead] at h
      cases h
  | error what =>
      rw [hRead] at h
      cases h
      exact ⟨what, rfl⟩

/-- What a failure of this kind leaves: the desk as it was, where the network has no keys, or the
desk after one query, with the next key drawn. Nothing was cached in either case. -/
theorem cases_of_unanswered (hFetch : fetch explorer desk network address = (.error e, next))
    (hFailed : Unanswered desk network address e) :
    (desk.cache.get? desk.files ⟨network, address⟩).1 = none ∧
      ((∃ notes, desk.keys.pool? network = none ∧ e = .missingKeys network ∧
          next = desk.noting notes) ∨
        ∃ pool notes, desk.keys.pool? network = some pool ∧
          next = afterQuery explorer (desk.noting notes)
            (queryFor explorer network address (pool.nth 0))
            (desk.keys.insert network (pool.advance 1))) := by
  have hCases := fetched explorer desk network address
  generalize fetch explorer desk network address = result at hCases hFetch
  cases hCases with
  | known hFound =>
      obtain ⟨hError, -⟩ := Prod.mk.inj hFetch
      obtain ⟨what, rfl⟩ := malformed_of_sourceOf hError
      cases hFailed with
      | malformed _ _ _ hFresh =>
          rw [hFresh] at hFound
          cases hFound
  | @keyless notes hNew hKeys =>
      cases hFetch
      exact ⟨hNew, .inl ⟨notes, by simpa [KeyRing.draw?] using hKeys, rfl, rfl⟩⟩
  | @refused notes _ _ _ hNew hKeys =>
      cases hFetch
      obtain ⟨pool, hPool, rfl, rfl⟩ := KeyRing.draw?_eq_some hKeys
      exact ⟨hNew, .inr ⟨pool, notes, hPool, rfl⟩⟩
  | @malformed notes _ _ _ _ hNew hKeys =>
      cases hFetch
      obtain ⟨pool, hPool, rfl, rfl⟩ := KeyRing.draw?_eq_some hKeys
      exact ⟨hNew, .inr ⟨pool, notes, hPool, rfl⟩⟩
  | @kept notes _ _ response found hNew hKeys =>
      obtain ⟨hDone, -⟩ := Prod.mk.inj hFetch
      cases hPut : (desk.cache.put desk.files ⟨network, address⟩ response).1 with
      | ok _ =>
          rw [hPut] at hDone
          cases hDone
      | error failure =>
          rw [hPut] at hDone
          cases hDone
          obtain ⟨path, fault, rfl⟩ := Cache.put_eq_error hPut
          cases hFailed

theorem afterQuery_noting (notes : List Note) (query : Query) (keys : KeyRing) :
    afterQuery explorer (desk.noting notes) query keys =
      { desk with keys := keys, explorer := (explorer.answer query desk.explorer).2 }.happened
        (notes.map Event.noted ++ [Event.noted (.asking query), Event.asked query]) := by
  simp [afterQuery, Desk.noting, Desk.happened]

/-- A fetch that failed before there was anything to keep has drawn a key if the explorer was
asked, and has done nothing else: the cache and the files are as they were, and so are the pools
of all other networks. So without keys it fails again in the same way, and nobody is asked; and
otherwise it asks again with the key after that, and gets a source exactly if the new answer has
one and can be kept. -/
theorem failed_fetch_only_draws (explorer : Explorer σ) (desk : Desk σ) (network : Network)
    (address : String) {e : ScanError} {next : Desk σ}
    (hFetch : fetch explorer desk network address = (.error e, next))
    (hFailed : Unanswered desk network address e) :
    Spares network desk next ∧
      ((∃ events, desk.keys.pool? network = none ∧ e = .missingKeys network ∧
          next = desk.happened events ∧ Event.queries events = [] ∧
          ∃ later, fetch explorer next network address = (.error e, next.happened later) ∧
            Event.queries later = []) ∨
        ∃ pool events, desk.keys.pool? network = some pool ∧
          next = { desk with
            keys := desk.keys.insert network (pool.advance 1)
            explorer := (explorer.answer (queryFor explorer network address (pool.nth 0))
              desk.explorer).2 }.happened events ∧
          Event.queries events = [queryFor explorer network address (pool.nth 0)] ∧
          next.keys.pool? network = some (pool.advance 1) ∧
          Asks explorer next network address (pool.nth 1)) := by
  obtain ⟨hNew, ⟨notes, hPool, rfl, rfl⟩ | ⟨pool, notes, hPool, rfl⟩⟩ :=
    cases_of_unanswered hFetch hFailed
  · obtain ⟨later, hLater⟩ : ∃ later, fetch explorer (desk.noting notes) network address =
        (.error (.missingKeys network), (desk.noting notes).noting later) :=
      fetch_of_keyless explorer hNew hPool
    exact ⟨⟨rfl, fun _ => rfl, rfl, fun _ _ => rfl⟩, .inl ⟨notes.map .noted, hPool, rfl, rfl,
      Event.queries_noted notes, later.map .noted, hLater, Event.queries_noted later⟩⟩
  · have hNext : (desk.keys.insert network (pool.advance 1)).pool? network =
        some (pool.advance 1) := by rw [KeyRing.pool?_insert, if_pos rfl]
    have hAsks : Asks explorer (afterQuery explorer (desk.noting notes)
        (queryFor explorer network address (pool.nth 0))
        (desk.keys.insert network (pool.advance 1))) network address ((pool.advance 1).nth 0) :=
      asks_of_pool explorer hNew hNext
    rw [KeyPool.nth_advance] at hAsks
    refine ⟨⟨rfl, fun _ => rfl, rfl, fun other hOther => ?_⟩, .inr ⟨pool, _, hPool,
      afterQuery_noting notes _ _, by simp, hNext, hAsks⟩⟩
    rw [afterQuery_keys, KeyRing.pool?_insert, if_neg hOther]

end Scan

namespace Scan.Retrying

def answer : Json :=
  .object [("result", .list
    [.object [("CompilerVersion", .text "vyper:0.3.0"), ("SourceCode", .text "x = 1")]])]

/-- An explorer that knows nothing at first. -/
def explorer : Explorer Nat where
  endpoint := Network.defaultApiUrl
  answer _ asked := (if asked = 0 then .error (.status 404) else .ok answer, asked + 1)

def keys : KeyRing := ⟨[(.op, ⟨["k1", "k2"], 0, by decide⟩)]⟩

/-- The cache is in memory. -/
def desk : Desk Nat := ⟨.withHome ["w"], .memory [], keys, 0, []⟩

/-- A directory stands where the answer for `op:0xA` goes. -/
def files : FileTree :=
  [["w", "cache"], ["w", "cache", "artifacts"],
    ["w", "cache", "artifacts", "f92969b52e9be010.bin"]].foldl
      (fun tree place => tree.put place .dir) (.withHome ["w"])

/-- The cache is opened there. -/
def blocked : Desk Nat := ⟨files, .disk ⟨⟨"cache"⟩, []⟩, keys, 0, []⟩

private theorem eq_error_of_map {read : Except ScanError VerifiedSource} {e : ScanError}
    (h : read.map (·.source) = .error e) : read = .error e := by
  cases read with
  | error _ =>
      cases h
      rfl
  | ok _ => cases h

/-- A contract that is not found, and the key that is used for it next. -/
theorem failed_fetch_only_draws_first :
    (fetch explorer desk .op "0xA").1 = .error (.status .op "0xA" 404) ∧
      Unanswered desk .op "0xA" (.status .op "0xA" 404) ∧
      Asks explorer (fetch explorer desk .op "0xA").2 .op "0xA" "k2" := by
  have hFailed : (fetch explorer desk .op "0xA").1 = .error (.status .op "0xA" 404) :=
    eq_error_of_map (by decide +kernel)
  have hKind : Unanswered desk .op "0xA" (.status .op "0xA" 404) := .status .op "0xA" 404
  obtain ⟨-, ⟨_, hNone, -⟩ | ⟨pool, _, hPool, -, -, -, hAsks⟩⟩ :=
    failed_fetch_only_draws explorer desk .op "0xA" (Prod.ext hFailed rfl) hKind
  · exact absurd hNone (by decide)
  · cases hPool
    exact ⟨hFailed, hKind, hAsks⟩

/-- After a failure the explorer is asked again and answers with a source, and there is none
still, since the answer cannot be kept. A network without keys fails twice and asks nobody. -/
theorem retry_is_not_kept :
    DiskCache.load files ⟨"cache"⟩ = (.ok ⟨⟨"cache"⟩, []⟩, files, []) ∧
      (fetch explorer blocked .op "0xA").1 = .error (.status .op "0xA" 404) ∧
      answerTo explorer (fetch explorer blocked .op "0xA").2
        (queryFor explorer .op "0xA" "k2") = .ok answer ∧
      (sourceOf .op "0xA" answer).isOk = true ∧
      (fetch explorer (fetch explorer blocked .op "0xA").2 .op "0xA").1 =
        .error (.file ⟨"cache/artifacts/f92969b52e9be010.bin"⟩ .isADirectory) ∧
      (fetch explorer blocked .arb "0xA").1 = .error (.missingKeys .arb) ∧
      (fetch explorer (fetch explorer blocked .arb "0xA").2 .arb "0xA").1 =
        .error (.missingKeys .arb) ∧
      Event.queries
        (fetch explorer (fetch explorer blocked .arb "0xA").2 .arb "0xA").2.trace = [] :=
  ⟨by decide +kernel, eq_error_of_map (by decide +kernel), rfl, by decide +kernel,
    eq_error_of_map (by decide +kernel), eq_error_of_map (by decide +kernel),
    eq_error_of_map (by decide +kernel), by decide +kernel⟩

end Scan.Retrying

end LockTriage
