import LockTriage.Proofs.Cache.Lasting
import LockTriage.Scan.Fetch

/-!
What getting a source can come to. A known answer costs neither a query nor a
key; any other takes one query, and only an answer with a source in it is kept.
-/

namespace LockTriage

namespace Desk

variable {σ : Type} (d : Desk σ) (events more : List Event) (notes : List Note)

@[simp] theorem happened_files : (d.happened events).files = d.files := rfl

@[simp] theorem happened_cache : (d.happened events).cache = d.cache := rfl

@[simp] theorem happened_keys : (d.happened events).keys = d.keys := rfl

@[simp] theorem happened_explorer : (d.happened events).explorer = d.explorer := rfl

@[simp] theorem happened_trace : (d.happened events).trace = d.trace ++ events := rfl

/-- Events that happen one after the other are appended in their order. -/
@[simp] theorem happened_happened :
    (d.happened events).happened more = d.happened (events ++ more) := by
  simp [happened]

@[simp] theorem happened_nil : d.happened [] = d := by
  simp [happened]

/-- Notes are events like others. -/
theorem noting_eq : d.noting notes = d.happened (notes.map .noted) := rfl

@[simp] theorem noting_files : (d.noting notes).files = d.files := rfl

@[simp] theorem noting_cache : (d.noting notes).cache = d.cache := rfl

@[simp] theorem noting_keys : (d.noting notes).keys = d.keys := rfl

@[simp] theorem noting_explorer : (d.noting notes).explorer = d.explorer := rfl

@[simp] theorem noting_trace : (d.noting notes).trace = d.trace ++ notes.map .noted := rfl

end Desk

namespace Event

/-- The contracts that were asked for, in the order of the queries. -/
def contracts (events : List Event) : List CacheKey :=
  (queries events).map fun q => ⟨q.network, q.address⟩

@[simp] theorem queries_append (events more : List Event) :
    queries (events ++ more) = queries events ++ queries more := List.filterMap_append

@[simp] theorem outcomes_append (events more : List Event) :
    outcomes (events ++ more) = outcomes events ++ outcomes more := List.filterMap_append

@[simp] theorem contracts_append (events more : List Event) :
    contracts (events ++ more) = contracts events ++ contracts more := by
  simp [contracts]

/-- Notes are no queries. -/
@[simp] theorem queries_noted (notes : List Note) : queries (notes.map .noted) = [] := by
  simp [queries, List.filterMap_map]

/-- Notes are no outcomes. -/
@[simp] theorem outcomes_noted (notes : List Note) : outcomes (notes.map .noted) = [] := by
  simp [outcomes, List.filterMap_map]

/-- Notes ask for no contract. -/
@[simp] theorem contracts_noted (notes : List Note) : contracts (notes.map .noted) = [] := by
  simp [contracts]

@[simp] theorem contracts_nil : contracts [] = [] := rfl

/-- A query asks for its contract. -/
@[simp] theorem contracts_asked (query : Query) :
    contracts [.noted (.asking query), .asked query] = [⟨query.network, query.address⟩] := rfl

@[simp] theorem outcomes_nil : outcomes [] = [] := rfl

@[simp] theorem queries_nil : queries [] = [] := rfl

@[simp] theorem outcomes_judged (record : Record) (outcome : Outcome) :
    outcomes [.judged record outcome] = [(record, outcome)] := rfl

@[simp] theorem contracts_judged (record : Record) (outcome : Outcome) :
    contracts [.judged record outcome] = [] := rfl

@[simp] theorem queries_judged (record : Record) (outcome : Outcome) :
    queries [.judged record outcome] = [] := rfl

end Event

/-- The cache answers for the contract with a source. -/
def Cache.Knows (cache : Cache) (t : FileTree) (key : CacheKey) (found : VerifiedSource) : Prop :=
  ∃ response, (cache.get? t key).1 = some response ∧ VerifiedSource.ofResponse response = .ok found

/-- A cache knows one source of a contract at most. -/
theorem Cache.Knows.unique {cache : Cache} {t : FileTree} {key : CacheKey}
    {found found' : VerifiedSource} (h : cache.Knows t key found) (h' : cache.Knows t key found') :
    found = found' := by
  obtain ⟨response, hFound, hSource⟩ := h
  obtain ⟨response', hFound', hSource'⟩ := h'
  rw [hFound] at hFound'
  cases hFound'
  rw [hSource] at hSource'
  exact Except.ok.inj hSource'

/-- What does not touch the directory of the cache leaves what is known. -/
theorem Cache.Knows.of_touches {cache : Cache} {t t' : FileTree} {S : Location → Prop}
    {keys : List CacheKey} {key : CacheKey} {found : VerifiedSource} (h : cache.Knows t key found)
    (hTouches : FileTree.Touches S t t') (hOut : ∀ loc, cache.Inside t loc → ¬ S loc)
    (hKeys : cache.Unshared t keys) (hMem : key ∈ keys) : cache.Knows t' key found := by
  obtain ⟨response, hFound, hSource⟩ := h
  exact ⟨response, Cache.get?_of_touches hTouches hOut hKeys hMem hFound, hSource⟩

/-- Whatever the explorer answers for the keys lasts in the cache. -/
def Explorer.Lasts {σ : Type} (explorer : Explorer σ) (keys : List CacheKey) (cache : Cache) : Prop :=
  ∀ query state response, ⟨query.network, query.address⟩ ∈ keys →
    (explorer.answer query state).1 = .ok response →
    cache.Lasting ⟨query.network, query.address⟩ response

namespace Scan

/-! ### Two steps side by side -/

/-- Two steps with the same result, after which the desks are related as before. -/
structure EndAlike {σ α : Type} (R : Desk σ → Desk σ → Prop)
    (ended ended' : Except ScanError α × Desk σ) : Prop where
  result : ended'.1 = ended.1
  desk : R ended.2 ended'.2

/-- Steps that end alike fail with the same error or bring the same. -/
theorem EndAlike.cases {σ α : Type} {R : Desk σ → Desk σ → Prop}
    {ended ended' : Except ScanError α × Desk σ} (h : EndAlike R ended ended') :
    (∃ e next next', ended = (.error e, next) ∧ ended' = (.error e, next') ∧ R next next') ∨
    ∃ a next next', ended = (.ok a, next) ∧ ended' = (.ok a, next') ∧ R next next' := by
  obtain ⟨result, next⟩ := ended
  obtain ⟨result', next'⟩ := ended'
  obtain rfl : result' = result := h.result
  cases result' with
  | error e => exact .inl ⟨e, next, next', rfl, rfl, h.desk⟩
  | ok a => exact .inr ⟨a, next, next', rfl, rfl, h.desk⟩

/-- Two steps end alike, unless the second has failed for one of some errors. -/
inductive AlikeUnless {σ α : Type} (Failure : ScanError → Prop) (R : Desk σ → Desk σ → Prop) :
    Except ScanError α × Desk σ → Except ScanError α × Desk σ → Prop where
  | failed {ended : Except ScanError α × Desk σ} {e : ScanError} {next' : Desk σ}
      (hFailure : Failure e) : AlikeUnless Failure R ended (.error e, next')
  | error {e : ScanError} {next next' : Desk σ} (h : R next next') :
      AlikeUnless Failure R (.error e, next) (.error e, next')
  | ok {a : α} {next next' : Desk σ} (h : R next next') :
      AlikeUnless Failure R (.ok a, next) (.ok a, next')

section AlikeUnless

variable {σ α β : Type} {Failure : ScanError → Prop} {R : Desk σ → Desk σ → Prop}
variable {ended ended' : Except ScanError α × Desk σ}

/-- Steps that end alike do so whatever errors are set apart. -/
theorem EndAlike.unless (h : EndAlike R ended ended') : AlikeUnless Failure R ended ended' := by
  rcases h.cases with ⟨e, next, next', rfl, rfl, hNext⟩ | ⟨a, next, next', rfl, rfl, hNext⟩
  · exact .error hNext
  · exact .ok hNext

/-- Where no error is set apart, the steps end alike. -/
theorem AlikeUnless.endAlike (h : AlikeUnless (fun _ => False) R ended ended') :
    EndAlike R ended ended' := by
  cases h with
  | failed hFailure => exact hFailure.elim
  | error hNext => exact ⟨rfl, hNext⟩
  | ok hNext => exact ⟨rfl, hNext⟩

/-- What is made of a result does not matter to how the steps end. -/
theorem AlikeUnless.map (h : AlikeUnless Failure R ended ended') (f : α → β) :
    AlikeUnless Failure R (ended.1.map f, ended.2) (ended'.1.map f, ended'.2) := by
  cases h with
  | failed hFailure => exact .failed hFailure
  | error hNext => exact .error hNext
  | ok hNext => exact .ok hNext

/-- What holds of the first desk may be added to what relates the two. -/
theorem AlikeUnless.also {P : Desk σ → Prop} (h : AlikeUnless Failure R ended ended')
    (hFirst : P ended.2) : AlikeUnless Failure (fun d d' => R d d' ∧ P d) ended ended' := by
  cases h with
  | failed hFailure => exact .failed hFailure
  | error hNext => exact .error ⟨hNext, hFirst⟩
  | ok hNext => exact .ok ⟨hNext, hFirst⟩

/-- The relation of the desks may be weakened. -/
theorem AlikeUnless.imp {S : Desk σ → Desk σ → Prop} (h : AlikeUnless Failure R ended ended')
    (hImp : ∀ {d d'}, R d d' → S d d') : AlikeUnless Failure S ended ended' := by
  cases h with
  | failed hFailure => exact .failed hFailure
  | error hNext => exact .error (hImp hNext)
  | ok hNext => exact .ok (hImp hNext)

end AlikeUnless

variable {σ : Type} {explorer : Explorer σ} {desk : Desk σ} {network : Network} {address : String}

/-! ### The cases -/

/-- The query for a contract, with a key. -/
def queryFor (explorer : Explorer σ) (network : Network) (address key : String) : Query :=
  ⟨network, explorer.endpoint network, address, key⟩

/-- What the explorer answers to a query. -/
def answerTo (explorer : Explorer σ) (desk : Desk σ) (query : Query) : Except QueryFault Json :=
  (explorer.answer query desk.explorer).1

/-- The desk after a query was answered. -/
def afterQuery (explorer : Explorer σ) (desk : Desk σ) (query : Query) (keys : KeyRing) : Desk σ :=
  { desk with keys := keys, explorer := (explorer.answer query desk.explorer).2 }.happened
    [.noted (.asking query), .asked query]

@[simp] theorem afterQuery_files (query : Query) (keys : KeyRing) :
    (afterQuery explorer desk query keys).files = desk.files := rfl

@[simp] theorem afterQuery_cache (query : Query) (keys : KeyRing) :
    (afterQuery explorer desk query keys).cache = desk.cache := rfl

@[simp] theorem afterQuery_keys (query : Query) (keys : KeyRing) :
    (afterQuery explorer desk query keys).keys = keys := rfl

@[simp] theorem afterQuery_trace (query : Query) (keys : KeyRing) :
    (afterQuery explorer desk query keys).trace =
      desk.trace ++ [.noted (.asking query), .asked query] := rfl

/-- The desk with an answer in its cache. -/
def keeping (desk : Desk σ) (key : CacheKey) (response : Json) : Desk σ :=
  { desk with
    cache := (desk.cache.put desk.files key response).2.1
    files := (desk.cache.put desk.files key response).2.2 }

/-- What getting the source of a contract can come to. -/
inductive Fetched (explorer : Explorer σ) (desk : Desk σ) (network : Network) (address : String) :
    Except ScanError VerifiedSource × Desk σ → Prop where
  | known {response : Json} {notes : List Note}
      (hFound : (desk.cache.get? desk.files ⟨network, address⟩).1 = some response) :
      Fetched explorer desk network address (sourceOf network address response, desk.noting notes)
  | keyless {notes : List Note}
      (hNew : (desk.cache.get? desk.files ⟨network, address⟩).1 = none)
      (hKeys : desk.keys.draw? network = none) :
      Fetched explorer desk network address (.error (.missingKeys network), desk.noting notes)
  | refused {notes : List Note} {key : String} {keys : KeyRing} {fault : QueryFault}
      (hNew : (desk.cache.get? desk.files ⟨network, address⟩).1 = none)
      (hKeys : desk.keys.draw? network = some (key, keys))
      (hAnswer : answerTo explorer desk (queryFor explorer network address key) = .error fault) :
      Fetched explorer desk network address
        (.error (queryError (queryFor explorer network address key) fault),
          afterQuery explorer (desk.noting notes) (queryFor explorer network address key) keys)
  | malformed {notes : List Note} {key : String} {keys : KeyRing} {response : Json}
      {what : Malformation}
      (hNew : (desk.cache.get? desk.files ⟨network, address⟩).1 = none)
      (hKeys : desk.keys.draw? network = some (key, keys))
      (hAnswer : answerTo explorer desk (queryFor explorer network address key) = .ok response)
      (hSource : VerifiedSource.ofResponse response = .error what) :
      Fetched explorer desk network address
        (.error (.malformed network address what),
          afterQuery explorer (desk.noting notes) (queryFor explorer network address key) keys)
  | kept {notes : List Note} {key : String} {keys : KeyRing} {response : Json}
      {found : VerifiedSource}
      (hNew : (desk.cache.get? desk.files ⟨network, address⟩).1 = none)
      (hKeys : desk.keys.draw? network = some (key, keys))
      (hAnswer : answerTo explorer desk (queryFor explorer network address key) = .ok response)
      (hSource : VerifiedSource.ofResponse response = .ok found) :
      Fetched explorer desk network address
        ((desk.cache.put desk.files ⟨network, address⟩ response).1.map fun _ => found,
          keeping (afterQuery explorer (desk.noting notes)
            (queryFor explorer network address key) keys) ⟨network, address⟩ response)

/-- With a key, asking makes one query and hands on what is answered to it. -/
theorem ask_of_draw {key : String} {keys : KeyRing}
    (hKeys : desk.keys.draw? network = some (key, keys)) :
    ask explorer desk network address =
      ((answerTo explorer desk (queryFor explorer network address key)).mapError
          (queryError (queryFor explorer network address key)),
        afterQuery explorer desk (queryFor explorer network address key) keys) := by
  rw [ask, hKeys]
  rfl

/-- Keeping an answer is putting it in the cache. -/
theorem keep_eq (desk : Desk σ) (key : CacheKey) (response : Json) :
    keep desk key response =
      ((desk.cache.put desk.files key response).1, keeping desk key response) := rfl

/-- Getting a source comes to one of the cases. -/
theorem fetched (explorer : Explorer σ) (desk : Desk σ) (network : Network) (address : String) :
    Fetched explorer desk network address (fetch explorer desk network address) := by
  rcases hGet : desk.cache.get? desk.files ⟨network, address⟩ with ⟨cached, notes⟩
  unfold fetch
  rw [hGet]
  cases cached with
  | some response => exact .known (by rw [hGet])
  | none =>
      have hNew : (desk.cache.get? desk.files ⟨network, address⟩).1 = none := by rw [hGet]
      dsimp only
      unfold fetchFresh
      cases hDraw : desk.keys.draw? network with
      | none =>
          have hAsk : ask explorer (desk.noting notes) network address =
              (.error (.missingKeys network), desk.noting notes) := by
            rw [ask, Desk.noting_keys, hDraw]
          rw [hAsk]
          exact .keyless hNew hDraw
      | some drawn =>
          obtain ⟨key, keys⟩ := drawn
          rw [ask_of_draw (by rw [Desk.noting_keys, hDraw])]
          have hAnswer : answerTo explorer (desk.noting notes) (queryFor explorer network address key) =
              answerTo explorer desk (queryFor explorer network address key) := rfl
          rw [hAnswer]
          cases hResponse : answerTo explorer desk (queryFor explorer network address key) with
          | error fault => exact .refused hNew hDraw hResponse
          | ok response =>
              cases hSource : VerifiedSource.ofResponse response with
              | error what =>
                  simp only [Except.mapError, sourceOf, hSource]
                  exact .malformed hNew hDraw hResponse hSource
              | ok found =>
                  simp only [Except.mapError, sourceOf, hSource, keep_eq]
                  exact .kept hNew hDraw hResponse hSource

/-- The source is that of the answer. -/
theorem sourceOf_eq_ok_iff {response : Json} {found : VerifiedSource} :
    sourceOf network address response = .ok found ↔
      VerifiedSource.ofResponse response = .ok found := by
  unfold sourceOf
  cases VerifiedSource.ofResponse response <;> simp [Except.mapError]

private theorem map_const_eq_ok_iff {done : Except ScanError Unit} {found got : VerifiedSource} :
    (done.map fun _ => found) = .ok got ↔ done = .ok () ∧ found = got := by
  cases done <;> simp [Except.map]

/-! ### What a fetch records and stores -/

/-- Getting a source observes no outcome, and asks for its contract if for any. -/
theorem fetch_trace (explorer : Explorer σ) (desk : Desk σ) (network : Network) (address : String) :
    ∃ events, (fetch explorer desk network address).2.trace = desk.trace ++ events ∧
      Event.outcomes events = [] ∧
      (Event.contracts events = [] ∨ Event.contracts events = [⟨network, address⟩]) := by
  have hCases := fetched explorer desk network address
  generalize fetch explorer desk network address = result at hCases ⊢
  cases hCases with
  | @known response notes => exact ⟨notes.map .noted, rfl, by simp, by simp⟩
  | @keyless notes => exact ⟨notes.map .noted, rfl, by simp, by simp⟩
  | refused => exact ⟨_, List.append_assoc _ _ _, by simp [Event.outcomes], .inr (by simp [queryFor])⟩
  | malformed => exact ⟨_, List.append_assoc _ _ _, by simp [Event.outcomes], .inr (by simp [queryFor])⟩
  | kept => exact ⟨_, List.append_assoc _ _ _, by simp [Event.outcomes], .inr (by simp [queryFor])⟩

/-- A fetch leaves the files and the cache, or it puts an answer that was not
known. A source that is got in this way has its answer in the cache. -/
theorem fetch_stores (explorer : Explorer σ) (desk : Desk σ) (network : Network) (address : String) :
    ((fetch explorer desk network address).2.cache = desk.cache ∧
      (fetch explorer desk network address).2.files = desk.files) ∨
    ∃ query state response, query.network = network ∧ query.address = address ∧
      (explorer.answer query state).1 = .ok response ∧
      (desk.cache.get? desk.files ⟨network, address⟩).1 = none ∧
      (fetch explorer desk network address).2.cache =
        (desk.cache.put desk.files ⟨network, address⟩ response).2.1 ∧
      (fetch explorer desk network address).2.files =
        (desk.cache.put desk.files ⟨network, address⟩ response).2.2 ∧
      ∀ found, (fetch explorer desk network address).1 = .ok found →
        (desk.cache.put desk.files ⟨network, address⟩ response).1 = .ok () ∧
          VerifiedSource.ofResponse response = .ok found := by
  have hCases := fetched explorer desk network address
  generalize fetch explorer desk network address = result at hCases ⊢
  cases hCases with
  | known => exact .inl ⟨rfl, rfl⟩
  | keyless => exact .inl ⟨rfl, rfl⟩
  | refused => exact .inl ⟨rfl, rfl⟩
  | malformed => exact .inl ⟨rfl, rfl⟩
  | @kept notes key keys response found hNew hKeys hAnswer hSource =>
      refine .inr ⟨_, _, response, rfl, rfl, hAnswer, hNew, rfl, rfl, fun got hGot => ?_⟩
      obtain ⟨hPut, rfl⟩ := map_const_eq_ok_iff.mp hGot
      exact ⟨hPut, hSource⟩

/-- A fetch with a cache in memory leaves the files and the answers for other contracts. -/
theorem fetch_memory {known : List (CacheKey × Json)} (explorer : Explorer σ)
    (hMemory : desk.cache = .memory known) (network : Network) (address : String) :
    (fetch explorer desk network address).2.files = desk.files ∧
      ∃ last, (fetch explorer desk network address).2.cache = .memory last ∧
        ∀ key, key ≠ ⟨network, address⟩ → Assoc.get? key last = Assoc.get? key known := by
  rcases fetch_stores explorer desk network address with
    ⟨hCache, hFiles⟩ | ⟨_, _, response, _, _, _, _, hCache, hFiles, _⟩
  · exact ⟨hFiles, known, hCache.trans hMemory, fun _ _ => rfl⟩
  · rw [hMemory] at hCache hFiles
    refine ⟨hFiles, _, hCache, fun key hOther => ?_⟩
    rw [Assoc.get?_set, if_neg hOther]

/-- Getting a source writes where its answer is cached, and nowhere else. -/
theorem fetch_alters (explorer : Explorer σ) (desk : Desk σ) (network : Network)
    (address : String) :
    FileTree.Alters (desk.cache.Writes desk.files ⟨network, address⟩) desk.files
      (fetch explorer desk network address).2.files := by
  rcases fetch_stores explorer desk network address with
    ⟨_, hFiles⟩ | ⟨_, _, response, _, _, _, _, _, hFiles, _⟩
  · rw [hFiles]
    exact FileTree.Alters.refl _
  · rw [hFiles]
    exact Cache.put_alters _ _ _ _

/-- The cache stays apart from the directories that it is apart from. -/
theorem fetch_apart (explorer : Explorer σ) (network : Network) (address : String) {root : Path}
    (h : desk.cache.Apart desk.files root) :
    (fetch explorer desk network address).2.cache.Apart
      (fetch explorer desk network address).2.files root := by
  rcases fetch_stores explorer desk network address with
    ⟨hCache, hFiles⟩ | ⟨_, _, response, _, _, _, _, hCache, hFiles, _⟩
  · rw [hCache, hFiles]
    exact h
  · rw [hCache, hFiles]
    exact h.put _ _

/-- What is inside of the cache directory does not change. -/
theorem fetch_inside {loc : Location} :
    (fetch explorer desk network address).2.cache.Inside
      (fetch explorer desk network address).2.files loc ↔ desk.cache.Inside desk.files loc := by
  rcases fetch_stores explorer desk network address with
    ⟨hCache, hFiles⟩ | ⟨_, _, response, _, _, _, _, hCache, hFiles, _⟩
  · rw [hCache, hFiles]
  · rw [hCache, hFiles]
    exact Cache.inside_put _ _ _ _

/-- Keys that share no file go on sharing none. -/
theorem fetch_unshared {keys : List CacheKey} (h : desk.cache.Unshared desk.files keys)
    (hMem : ⟨network, address⟩ ∈ keys) :
    (fetch explorer desk network address).2.cache.Unshared
      (fetch explorer desk network address).2.files keys := by
  rcases fetch_stores explorer desk network address with
    ⟨hCache, hFiles⟩ | ⟨_, _, response, _, _, _, _, hCache, hFiles, _⟩
  · rw [hCache, hFiles]
    exact h
  · rw [hCache, hFiles]
    exact h.put hMem _

/-- Which answers last does not change. -/
theorem fetch_lasting {key : CacheKey} {answer : Json} :
    (fetch explorer desk network address).2.cache.Lasting key answer ↔
      desk.cache.Lasting key answer := by
  rcases fetch_stores explorer desk network address with
    ⟨hCache, _⟩ | ⟨_, _, response, _, _, _, _, hCache, _, _⟩
  · rw [hCache]
  · rw [hCache]
    exact Cache.lasting_put _ _ _ _

/-- A source that was got leaves a cache that can be opened again. -/
theorem fetch_opens {found : VerifiedSource} (h : desk.cache.Opens desk.files)
    (hFetch : (fetch explorer desk network address).1 = .ok found) :
    (fetch explorer desk network address).2.cache.Opens
      (fetch explorer desk network address).2.files := by
  rcases fetch_stores explorer desk network address with
    ⟨hCache, hFiles⟩ | ⟨_, _, response, _, _, _, _, hCache, hFiles, hDone⟩
  · rw [hCache, hFiles]
    exact h
  · rw [hCache, hFiles]
    exact h.put (hDone found hFetch).1

/-! ### What is known -/

/-- A source that is known is got without a query. -/
theorem fetch_known {found : VerifiedSource}
    (h : desk.cache.Knows desk.files ⟨network, address⟩ found) :
    ∃ notes, fetch explorer desk network address = (.ok found, desk.noting notes) := by
  obtain ⟨response, hFound, hSource⟩ := h
  rcases hGet : desk.cache.get? desk.files ⟨network, address⟩ with ⟨cached, notes⟩
  rw [hGet] at hFound
  obtain rfl : cached = some response := hFound
  refine ⟨notes ++ [.cacheHit ⟨network, address⟩], ?_⟩
  unfold fetch
  rw [hGet]
  simp only [sourceOf, hSource, Except.mapError]

/-- A source that was got is known from then on. -/
theorem knows_of_fetch {keys : List CacheKey} {found : VerifiedSource}
    (hLasts : explorer.Lasts keys desk.cache) (hMem : ⟨network, address⟩ ∈ keys)
    (hFetch : (fetch explorer desk network address).1 = .ok found) :
    (fetch explorer desk network address).2.cache.Knows
      (fetch explorer desk network address).2.files ⟨network, address⟩ found := by
  have hCases := fetched explorer desk network address
  generalize fetch explorer desk network address = result at hCases hFetch ⊢
  cases hCases with
  | known hFound => exact ⟨_, hFound, sourceOf_eq_ok_iff.mp hFetch⟩
  | keyless => cases hFetch
  | refused => cases hFetch
  | malformed => cases hFetch
  | kept hNew hKeys hAnswer hSource =>
      obtain ⟨hPut, rfl⟩ := map_const_eq_ok_iff.mp hFetch
      exact ⟨_, Cache.get?_put_same (hLasts _ _ _ hMem hAnswer) hPut, hSource⟩

/-- Whatever is got for one of the keys, the source of another stays known. -/
theorem knows_fetch (explorer : Explorer σ) {keys : List CacheKey} {key : CacheKey}
    {found : VerifiedSource} (hKeys : desk.cache.Unshared desk.files keys) (hMem : key ∈ keys)
    (hOther : ⟨network, address⟩ ∈ keys) (h : desk.cache.Knows desk.files key found) :
    (fetch explorer desk network address).2.cache.Knows
      (fetch explorer desk network address).2.files key found := by
  rcases fetch_stores explorer desk network address with
    ⟨hCache, hFiles⟩ | ⟨_, _, response, _, _, _, hNew, hCache, hFiles, _⟩
  · rw [hCache, hFiles]
    exact h
  · rw [hCache, hFiles]
    obtain ⟨known, hFound, hSource⟩ := h
    have hNe : ⟨network, address⟩ ≠ key := by
      rintro rfl
      rw [hNew] at hFound
      cases hFound
    exact ⟨known, Cache.get?_put_other hKeys hMem hOther hNe response hFound, hSource⟩

end Scan

end LockTriage
