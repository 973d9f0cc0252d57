import LockTriage.Proofs.Cache.Own
import LockTriage.Proofs.Scan.Again
import LockTriage.Proofs.Scan.Requests

/-!
What was got once stays. A fetch leaves what the cache has for every other contract,
and what it puts there for its own holds a source. So a cached answer never fails,
and a source that was got is got again without a query.
-/

namespace LockTriage

namespace Cache

variable {cache : Cache} {t : FileTree} {key other : CacheKey} {answer : Json}

/-- Something was kept for the key, whether or not it can still be found. -/
def Enters (key : CacheKey) : Cache → Prop
  | memory answers => Assoc.get? key answers ≠ none
  | disk c => Assoc.get? key.text c.entries ≠ none

/-- A cache has an entry for what it answers. -/
theorem enters_of_get? (h : (cache.get? t key).1 = some answer) : cache.Enters key := by
  cases cache with
  | memory answers =>
      intro hNone
      rw [Cache.get?, hNone] at h
      cases h
  | disk c =>
      intro hNone
      rw [Cache.get?, DiskCache.get?_of_no_entry hNone] at h
      cases h

/-- A put enters its own key and no other. -/
theorem enters_put (h : (cache.put t other answer).2.1.Enters key) :
    key = other ∨ cache.Enters key := by
  rw [or_iff_not_imp_left]
  intro hNe
  cases cache with
  | memory answers =>
      rw [Cache.put, Enters, Assoc.get?_set, if_neg hNe] at h
      exact h
  | disk c =>
      simp only [put_disk] at h
      have hCases := DiskCache.kept c t other answer
      generalize c.put t other answer = result at h hCases
      cases hCases with
      | unwritten => exact h
      | written =>
          rw [Enters, DiskCache.enter_entries, Assoc.get?_set,
            if_neg fun hText => hNe (CacheKey.text_injective hText)] at h
          exact h

theorem not_enters_of_size (h : cache.size = 0) (key : CacheKey) : ¬ cache.Enters key := by
  cases cache with
  | memory answers =>
      obtain rfl := List.length_eq_zero_iff.mp h
      exact fun hSome => hSome rfl
  | disk c =>
      have hEntries : c.entries = [] := List.length_eq_zero_iff.mp h
      intro hSome
      rw [Enters, hEntries] at hSome
      exact hSome rfl

end Cache

namespace Scan

variable {σ : Type} {explorer : Explorer σ} {desk : Desk σ} {network : Network} {address : String}
variable {keys : List CacheKey} {key : CacheKey} {found : VerifiedSource}

/-! ### What a fetch does to the cache -/

/-- A fetch leaves the cache the owner of its keys. -/
theorem fetch_owns (explorer : Explorer σ) (h : desk.cache.Owns keys)
    (hMem : ⟨network, address⟩ ∈ keys) :
    (fetch explorer desk network address).2.cache.Owns keys := by
  rcases fetch_stores explorer desk network address with
    ⟨hCache, _⟩ | ⟨_, _, response, _, _, _, _, hCache, _, _⟩
  · rw [hCache]
    exact h
  · rw [hCache]
    exact h.put hMem _ _

/-- A fetch leaves the cache standing. -/
theorem fetch_stands (explorer : Explorer σ) (network : Network) (address : String)
    (h : desk.cache.Stands desk.files) :
    (fetch explorer desk network address).2.cache.Stands
      (fetch explorer desk network address).2.files := by
  rcases fetch_stores explorer desk network address with
    ⟨hCache, hFiles⟩ | ⟨_, _, response, _, _, _, _, hCache, hFiles, _⟩
  · rw [hCache, hFiles]
    exact h
  · rw [hCache, hFiles]
    exact h.put _ _

/-- For every other contract the cache has what it had, be it an answer or none. -/
theorem fetch_get?_of_ne (explorer : Explorer σ) (hOwns : desk.cache.Owns keys)
    (hStands : desk.cache.Stands desk.files) (hMem : key ∈ keys)
    (hOther : ⟨network, address⟩ ∈ keys) (hNe : ⟨network, address⟩ ≠ key) :
    ((fetch explorer desk network address).2.cache.get?
      (fetch explorer desk network address).2.files key).1 = (desk.cache.get? desk.files key).1 := by
  rcases fetch_stores explorer desk network address with
    ⟨hCache, hFiles⟩ | ⟨_, _, response, _, _, _, _, hCache, hFiles, _⟩
  · rw [hCache, hFiles]
  · rw [hCache, hFiles]
    exact Cache.get?_put_of_ne hOwns hStands hMem hOther hNe response

/-- For its own contract the cache has what it had, or an answer with a source. -/
theorem fetch_get?_self (explorer : Explorer σ) (hLasts : explorer.Lasts keys desk.cache)
    (hMem : ⟨network, address⟩ ∈ keys) :
    ((fetch explorer desk network address).2.cache.get?
        (fetch explorer desk network address).2.files ⟨network, address⟩).1 =
      (desk.cache.get? desk.files ⟨network, address⟩).1 ∨
    ∃ found, (fetch explorer desk network address).2.cache.Knows
      (fetch explorer desk network address).2.files ⟨network, address⟩ found := by
  have hCases := fetched explorer desk network address
  generalize fetch explorer desk network address = result at hCases ⊢
  cases hCases with
  | known => exact .inl rfl
  | keyless => exact .inl rfl
  | refused => exact .inl rfl
  | malformed => exact .inl rfl
  | @kept notes drawn ring response found hNew hKeys hAnswer hSource =>
      have hLasting : desk.cache.Lasting ⟨network, address⟩ response := hLasts _ _ _ hMem hAnswer
      rcases Cache.get?_put_self (t := desk.files) hLasting with hSame | hFound
      · left
        change ((desk.cache.put desk.files ⟨network, address⟩ response).2.1.get?
          (desk.cache.put desk.files ⟨network, address⟩ response).2.2 ⟨network, address⟩).1 = _
        rw [hSame]
      · exact .inr ⟨found, response, hFound, hSource⟩

/-- A fetch enters the contract fetched and no other. -/
theorem fetch_enters (explorer : Explorer σ) (network : Network) (address : String)
    (h : (fetch explorer desk network address).2.cache.Enters key) :
    key = ⟨network, address⟩ ∨ desk.cache.Enters key := by
  rcases fetch_stores explorer desk network address with
    ⟨hCache, _⟩ | ⟨_, _, response, _, _, _, _, hCache, _, _⟩
  · rw [hCache] at h
    exact .inr h
  · rw [hCache] at h
    exact Cache.enters_put h

/-- Answers last in the cache that a fetch leaves as they did before. -/
theorem fetch_lasts (h : explorer.Lasts keys desk.cache) :
    explorer.Lasts keys (fetch explorer desk network address).2.cache :=
  fun query state response hMem hAnswer => fetch_lasting.mpr (h query state response hMem hAnswer)

/-! ### Fetches in a row -/

/-- Nothing is cached but answers with a source in them, for some of the keys. -/
structure Vetted (keys : List CacheKey) (cache : Cache) (t : FileTree) : Prop where
  owns : cache.Owns keys
  stands : cache.Stands t
  only : ∀ key, cache.Enters key → key ∈ keys
  sound : ∀ key response, (cache.get? t key).1 = some response → ∃ found, cache.Knows t key found

/-- An empty cache that opens has nothing to be vetted. -/
theorem vetted_of_empty {cache : Cache} {t : FileTree} (hEmpty : cache.size = 0)
    (hOpens : cache.Opens t) (hOwns : cache.Owns keys) : Vetted keys cache t := by
  have hNone := Cache.not_enters_of_size hEmpty
  exact ⟨hOwns, hOpens.stands, fun key h => (hNone key h).elim,
    fun key _ h => (hNone key (Cache.enters_of_get? h)).elim⟩

/-- A vetted cache is vetted still when a contract has been fetched. -/
theorem Vetted.fetch (h : Vetted keys desk.cache desk.files)
    (hLasts : explorer.Lasts keys desk.cache) (hMem : ⟨network, address⟩ ∈ keys) :
    Vetted keys (fetch explorer desk network address).2.cache
      (fetch explorer desk network address).2.files := by
  have hOnly : ∀ key, (Scan.fetch explorer desk network address).2.cache.Enters key → key ∈ keys := by
    intro key hEnters
    rcases fetch_enters explorer network address hEnters with rfl | hOld
    · exact hMem
    · exact h.only key hOld
  refine ⟨fetch_owns explorer h.owns hMem, fetch_stands explorer network address h.stands, hOnly,
    fun key response hFound => ?_⟩
  have hKey := hOnly key (Cache.enters_of_get? hFound)
  -- What the cache had before had a source in it, and it is the same answer still.
  have hOld (hSame : ((Scan.fetch explorer desk network address).2.cache.get?
      (Scan.fetch explorer desk network address).2.files key).1 = (desk.cache.get? desk.files key).1) :
      ∃ found, (Scan.fetch explorer desk network address).2.cache.Knows
        (Scan.fetch explorer desk network address).2.files key found := by
    obtain ⟨found, known, hKnown, hSource⟩ := h.sound key response (hSame ▸ hFound)
    exact ⟨found, known, hSame.trans hKnown, hSource⟩
  by_cases hNe : ⟨network, address⟩ = key
  · subst hNe
    rcases fetch_get?_self explorer hLasts hMem with hSame | hKnows
    · exact hOld hSame
    · exact hKnows
  · exact hOld (fetch_get?_of_ne explorer h.owns h.stands hKey hMem hNe)

/-- What a vetted cache knows it still knows after any fetch. -/
theorem Vetted.knows (h : Vetted keys desk.cache desk.files) (hMem : ⟨network, address⟩ ∈ keys)
    (hKnows : desk.cache.Knows desk.files key found) :
    (Scan.fetch explorer desk network address).2.cache.Knows
      (Scan.fetch explorer desk network address).2.files key found := by
  by_cases hNe : ⟨network, address⟩ = key
  · subst hNe
    obtain ⟨notes, hFetch⟩ : ∃ notes, Scan.fetch explorer desk network address =
        (.ok found, desk.noting notes) := fetch_known hKnows
    rw [hFetch]
    exact hKnows
  · obtain ⟨response, hFound, hSource⟩ := hKnows
    have hKey := h.only key (Cache.enters_of_get? hFound)
    exact ⟨response, (fetch_get?_of_ne explorer h.owns h.stands hKey hMem hNe).trans hFound, hSource⟩

/-- A vetted cache is vetted still after any series of fetches. -/
theorem Vetted.fetchAll {requests : List CacheKey} (h : Vetted keys desk.cache desk.files)
    (hLasts : explorer.Lasts keys desk.cache) (hRequests : ∀ key ∈ requests, key ∈ keys) :
    Vetted keys (fetchAll explorer desk requests).cache (fetchAll explorer desk requests).files ∧
      explorer.Lasts keys (fetchAll explorer desk requests).cache := by
  induction requests generalizing desk with
  | nil => exact ⟨h, hLasts⟩
  | cons key requests ih =>
      rw [fetchAll_cons]
      exact ih (h.fetch hLasts (hRequests key List.mem_cons_self)) (fetch_lasts hLasts)
        fun other hOther => hRequests other (List.mem_cons_of_mem key hOther)

/-- A source that is known stays known through any fetches. -/
theorem Vetted.knows_fetchAll {requests : List CacheKey} (h : Vetted keys desk.cache desk.files)
    (hLasts : explorer.Lasts keys desk.cache) (hRequests : ∀ key ∈ requests, key ∈ keys)
    (hKnows : desk.cache.Knows desk.files key found) :
    (Scan.fetchAll explorer desk requests).cache.Knows
      (Scan.fetchAll explorer desk requests).files key found := by
  induction requests generalizing desk with
  | nil => exact hKnows
  | cons other requests ih =>
      have hOther := hRequests other List.mem_cons_self
      rw [fetchAll_cons]
      exact ih (h.fetch hLasts hOther) (fetch_lasts hLasts)
        (fun key hKey => hRequests key (List.mem_cons_of_mem other hKey)) (h.knows hOther hKnows)

/-- From an empty cache, whatever is fetched and whatever the explorer answers: every
answer in the cache has a source in it, so using it never fails; and a source that was
got is got again, the same with the same answer, without a query and without drawing a
key, whatever was fetched since and whatever an explorer would answer now. -/
theorem fetchAll_stable (explorer : Explorer σ) (desk : Desk σ) (requests : List CacheKey)
    (hEmpty : desk.cache.size = 0) (hOpens : desk.cache.Opens desk.files)
    (hOwns : desk.cache.Owns requests) (hLasts : explorer.Lasts requests desk.cache) :
    (∀ key response,
      ((fetchAll explorer desk requests).cache.get?
        (fetchAll explorer desk requests).files key).1 = some response →
      ∃ found, VerifiedSource.ofResponse response = .ok found ∧
        ∀ now : Explorer σ, ∃ notes,
          fetch now (fetchAll explorer desk requests) key.network key.address =
            (.ok found, (fetchAll explorer desk requests).noting notes)) ∧
    ∀ before key between found, requests = before ++ key :: between →
      (fetch explorer (fetchAll explorer desk before) key.network key.address).1 = .ok found →
      ∀ now : Explorer σ, ∃ notes,
        fetch now (fetchAll explorer desk requests) key.network key.address =
          (.ok found, (fetchAll explorer desk requests).noting notes) := by
  have hFirst : Vetted requests desk.cache desk.files := vetted_of_empty hEmpty hOpens hOwns
  refine ⟨fun key response hFound => ?_, fun before key between found hRequests hFetch now => ?_⟩
  · obtain ⟨hLast, _⟩ := hFirst.fetchAll hLasts fun _ h => h
    obtain ⟨found, hKnows⟩ := hLast.sound key response hFound
    obtain ⟨known, hKnown, hSource⟩ := hKnows
    obtain rfl := Option.some.inj (hFound.symm.trans hKnown)
    exact ⟨found, hSource, fun now => fetch_known ⟨response, hKnown, hSource⟩⟩
  · have hMem : key ∈ requests := by simp [hRequests]
    have hEarlier : ∀ k ∈ before, k ∈ requests := fun k hk => by simp [hRequests, hk]
    have hLater : ∀ k ∈ between, k ∈ requests := fun k hk => by simp [hRequests, hk]
    obtain ⟨hBefore, hLastsBefore⟩ := hFirst.fetchAll hLasts hEarlier
    -- The source is known when it is got, and from then on.
    have hKnows := knows_of_fetch hLastsBefore hMem hFetch
    have hLast := (hBefore.fetch hLastsBefore hMem).knows_fetchAll (fetch_lasts hLastsBefore)
      hLater hKnows
    have hSplit : fetchAll explorer desk requests = fetchAll explorer
        (fetch explorer (fetchAll explorer desk before) key.network key.address).2 between := by
      rw [hRequests, fetchAll_append, fetchAll_cons]
    rw [hSplit]
    exact fetch_known hLast

end Scan

namespace Scan.Turns

theorem owns_first : first.cache.Owns both :=
  ⟨by decide +kernel, by simp, by simp⟩

theorem lasts_explorer : (explorer "0xA" vulnerable).Lasts both first.cache := by
  intro query state response hKey hAnswer
  by_cases hAddress : query.address = "0xA"
  · simp only [explorer, hAddress, if_true, Except.ok.injEq] at hAnswer
    subst hAnswer
    exact lasting_document _ _ _ hKey (by simp)
  · simp [explorer, hAddress] at hAnswer

/-- One contract is got and another is not. Then the first is got again, although
the explorer is out of order. -/
theorem fetchAll_stable_turns :
    ∃ found notes, found.source = vulnerable ∧
      fetch silent (fetchAll (explorer "0xA" vulnerable) first both) .poly "0xA" =
        (.ok found, (fetchAll (explorer "0xA" vulnerable) first both).noting notes) := by
  have hSource : (fetch (explorer "0xA" vulnerable) first .poly "0xA").1.toOption.map (·.source) =
      some vulnerable := by decide +kernel
  cases hFetch : (fetch (explorer "0xA" vulnerable) first .poly "0xA").1 with
  | error e =>
      rw [hFetch] at hSource
      cases hSource
  | ok found =>
      rw [hFetch] at hSource
      obtain ⟨_, hAgain⟩ := fetchAll_stable (explorer "0xA" vulnerable) first both rfl opens_first
        owns_first lasts_explorer
      obtain ⟨notes, hNotes⟩ := hAgain [] ⟨.poly, "0xA"⟩ [⟨.poly, "0xB"⟩] found rfl hFetch silent
      exact ⟨found, notes, Option.some.inj hSource, hNotes⟩

end Scan.Turns

end LockTriage
