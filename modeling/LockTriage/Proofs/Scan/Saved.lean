import LockTriage.Proofs.Scan.Follows

/-!
What a scan saves. The notes of a scan name the files that it saved: those of the contracts that
it flagged, in their order. After a scan that succeeds, the file of a contract holds a source for
which the scan flagged the contract, or it is gone, or it is what it was and the contract was not
flagged. The cache may stand anywhere, as none of its files is named like one on the shelf.
-/

namespace LockTriage

namespace Event

/-- The files that were saved, in their order. -/
def saved (events : List Event) : List Path :=
  events.filterMap fun
    | noted (.sourceSaved path) => some path
    | _ => none

@[simp] theorem saved_nil : saved [] = [] := rfl

@[simp] theorem saved_append (events more : List Event) :
    saved (events ++ more) = saved events ++ saved more := List.filterMap_append

@[simp] theorem saved_asked (query : Query) : saved [.noted (.asking query), .asked query] = [] := rfl

@[simp] theorem saved_judged (record : Record) (outcome : Outcome) :
    saved [.judged record outcome] = [] := rfl

/-- The notes are not about a source that was saved. -/
theorem saved_noted {notes : List Note} (h : ∀ path, .sourceSaved path ∉ notes) :
    saved (notes.map .noted) = [] := by
  rw [saved, List.filterMap_eq_nil_iff]
  rintro event hEvent
  obtain ⟨note, hNote, rfl⟩ := List.mem_map.mp hEvent
  cases note with
  | sourceSaved path => exact absurd hNote (h path)
  | _ => rfl

end Event

/-- Looking into a cache saves nothing. -/
theorem Cache.get?_notes (cache : Cache) (t : FileTree) (key : CacheKey) (path : Path) :
    .sourceSaved path ∉ (cache.get? t key).2 := by
  cases cache with
  | memory answers => exact List.not_mem_nil
  | disk c =>
      change .sourceSaved path ∉ (c.get? t key).2
      unfold DiskCache.get?
      split
      · simp
      · split
        · simp
        · split
          · simp
          · split
            · simp
            · split <;> simp

/-- What stands in the place of a contract's file after a verdict: the source if it is saved, nothing
if it is removed, and what was there if the shelf is unchanged. -/
theorem Shelf.update_content? {s : Shelf} {t t' : FileTree} {network : Network} {address source : String}
    {vulnerable : Bool} {change : Change} {notes : List Note} (hAddress : '/' ∉ address.toList)
    (h : s.update t network address source vulnerable = (.ok change, t', notes)) :
    (change = .written ∧ vulnerable = true ∧
        t'.content? (s.spot t' network address) = some (Bytes.ofText source)) ∨
      (change = .removed ∧ t'.content? (s.spot t' network address) = none) ∨
      (change = .unchanged ∧ t' = t) := by
  have hTitle := plain_title hAddress
  have hCases := updated s t network address source vulnerable
  rw [h] at hCases
  rw [← location_title]
  cases hCases with
  | saved hMade hWrite =>
      have hRead := FileTree.read_write_same hTitle hWrite
      have hChild := ((FileTree.read_join_iff hTitle).mp hRead).2
      exact .inl ⟨rfl, rfl, FileTree.content?_eq_some_iff.mpr hChild⟩
  | removed hRemove =>
      have hGone := FileTree.child?_removeFile hTitle hRemove
      rw [FileTree.child?] at hGone
      exact .inr (.inl ⟨rfl, by rw [FileTree.content?, hGone]⟩)
  | absent => exact .inr (.inr ⟨rfl, rfl⟩)

namespace Scan

variable {σ : Type} {settings : Settings} {explorer : Explorer σ} {desk desk' : Desk σ}
variable {record : Record} {outcome : Outcome} {found : VerifiedSource} {network : Network}

/-! ### The notes of a record -/

/-- Asking the explorer saves no source. -/
theorem ask_unsaved (explorer : Explorer σ) (desk : Desk σ) (network : Network) (address : String) :
    ∃ events, (ask explorer desk network address).2.trace = desk.trace ++ events ∧
      Event.saved events = [] := by
  unfold ask
  split
  · exact ⟨[], by simp, rfl⟩
  · exact ⟨_, rfl, rfl⟩

/-- Fetching a contract afresh saves no source. -/
theorem fetchFresh_unsaved (explorer : Explorer σ) (desk : Desk σ) (network : Network)
    (address : String) :
    ∃ events, (fetchFresh explorer desk network address).2.trace = desk.trace ++ events ∧
      Event.saved events = [] := by
  have hAsk := ask_unsaved explorer desk network address
  unfold fetchFresh
  generalize ask explorer desk network address = asked at hAsk ⊢
  obtain ⟨answer, next⟩ := asked
  cases answer with
  | error e => exact hAsk
  | ok response =>
      dsimp only
      split <;> exact hAsk

/-- A fetch saves nothing on the shelf. -/
theorem fetch_unsaved (explorer : Explorer σ) (desk : Desk σ) (network : Network) (address : String) :
    ∃ events, (fetch explorer desk network address).2.trace = desk.trace ++ events ∧
      Event.saved events = [] := by
  have hNotes := desk.cache.get?_notes desk.files ⟨network, address⟩
  unfold fetch
  generalize desk.cache.get? desk.files ⟨network, address⟩ = looked at hNotes ⊢
  obtain ⟨cached, notes⟩ := looked
  cases cached with
  | some response =>
      refine ⟨(notes ++ [Note.cacheHit ⟨network, address⟩]).map .noted, rfl, Event.saved_noted ?_⟩
      simpa using hNotes
  | none =>
      obtain ⟨events, hTrace, hSaved⟩ := fetchFresh_unsaved explorer (desk.noting notes) network address
      refine ⟨notes.map .noted ++ events, ?_, ?_⟩
      · rw [hTrace, Desk.noting_trace, List.append_assoc]
      · rw [Event.saved_append, Event.saved_noted hNotes, hSaved, List.append_nil]

/-- The files that are saved for some outcomes: those of the records that are flagged. -/
def filesOf (settings : Settings) (seen : List (Record × Outcome)) : List Path :=
  (seen.filter fun o => o.2.isFlagged).map fun o => settings.shelf.place o.1.network o.1.address

/-- The files of two stretches are those of the one and then those of the other. -/
theorem filesOf_append (seen more : List (Record × Outcome)) :
    filesOf settings (seen ++ more) = filesOf settings seen ++ filesOf settings more := by
  simp [filesOf]

/-- Judging a record saves a source just if the outcome says so. -/
theorem judge_saved (h : judge settings desk record found = (.ok outcome, desk')) :
    ∃ events, desk'.trace = desk.trace ++ events ∧
      Event.saved events = filesOf settings [(record, outcome)] := by
  obtain ⟨change, t', notes, hFollow, rfl⟩ := judge_eq_ok (congrArg Prod.fst h)
  rw [judge_eq, hFollow] at h
  obtain rfl := congrArg Prod.snd h
  refine ⟨notes.map .noted, rfl, ?_⟩
  have hCases := Shelf.updated settings.shelf desk.files record.network record.address found.source
    (assessment settings found).vulnerable
  rw [follow] at hFollow
  rw [hFollow] at hCases
  generalize (assessment settings found).vulnerable = vulnerable at hCases
  cases hCases <;> rfl

/-- A record with an outcome was passed over, or its source was got and judged. -/
theorem process_eq_ok (h : process settings explorer desk record = (.ok outcome, desk')) :
    (desk' = desk ∧ ∀ source, outcome.ruling? source = none) ∨
      ∃ found middle, Wanted settings record ∧
        fetch explorer desk record.network record.address = (.ok found, middle) ∧
        judge settings middle record found = (.ok outcome, desk') := by
  have hCases := processed settings explorer desk record
  rw [h] at hCases
  generalize hResult : ((.ok outcome, desk') : Except ScanError Outcome × Desk σ) = result at hCases
  cases hCases with
  | skipped =>
      cases hResult
      exact .inl ⟨rfl, fun _ => rfl⟩
  | suppressed =>
      cases hResult
      exact .inl ⟨rfl, fun _ => rfl⟩
  | unfetched => cases hResult
  | judged hWanted hFetch => exact .inr ⟨_, _, hWanted, hFetch, rfl⟩

/-- What is saved while a record is processed: its file if it is flagged, and no other. -/
theorem process_saved (h : process settings explorer desk record = (.ok outcome, desk')) :
    ∃ events, desk'.trace = desk.trace ++ events ∧ Event.outcomes events = [] ∧
      Event.saved events = filesOf settings [(record, outcome)] := by
  obtain ⟨events, hTrace, hOutcomes, _⟩ := process_trace settings explorer desk record
  rw [h] at hTrace
  refine ⟨events, hTrace, hOutcomes, ?_⟩
  rcases process_eq_ok h with ⟨rfl, hPassed⟩ | ⟨found, middle, _, hFetch, hJudge⟩
  · obtain rfl : events = [] := by simpa using hTrace
    cases outcome with
    | flagged version a => cases hPassed ""
    | _ => rfl
  · obtain ⟨first, hFirst, hNone⟩ := fetch_unsaved explorer desk record.network record.address
    obtain ⟨second, hSecond, hSaved⟩ := judge_saved hJudge
    rw [hFetch] at hFirst
    rw [hSecond, hFirst, List.append_assoc] at hTrace
    rw [← List.append_cancel_left hTrace, Event.saved_append, hNone, hSaved, List.nil_append]

/-! ### The file of a contract -/

/-- What the shelf has for a contract after some outcomes: a source for which the contract was
flagged, no file, or what it had before if the contract was not flagged. -/
inductive Explained (settings : Settings) (key : CacheKey) (seen : List (Record × Outcome))
    (before after : Option Bytes) : Prop where
  | saved {record : Record} {version source : String} {a : Assessment}
      (hMem : (record, .flagged version a) ∈ seen) (hKey : keyOf record = key)
      (hAssessed : settings.classifier.assess source = a) (hVulnerable : a.vulnerable = true)
      (hAfter : after = some (Bytes.ofText source)) : Explained settings key seen before after
  | absent (hAfter : after = none) : Explained settings key seen before after
  | untouched (hUnflagged : ∀ record version a, (record, .flagged version a) ∈ seen → keyOf record ≠ key)
      (hAfter : after = before) : Explained settings key seen before after

/-- A change is explained by two stretches in a row if each explains its own part. -/
theorem Explained.trans {key : CacheKey} {seen more : List (Record × Outcome)}
    {before middle after : Option Bytes} (h : Explained settings key seen before middle)
    (h' : Explained settings key more middle after) :
    Explained settings key (seen ++ more) before after := by
  cases h' with
  | saved hMem hKey hAssessed hVulnerable hAfter =>
      exact .saved (List.mem_append_right _ hMem) hKey hAssessed hVulnerable hAfter
  | absent hAfter => exact .absent hAfter
  | untouched hLater hAfter =>
      subst hAfter
      cases h with
      | saved hMem hKey hAssessed hVulnerable hMiddle =>
          exact .saved (List.mem_append_left _ hMem) hKey hAssessed hVulnerable hMiddle
      | absent hMiddle => exact .absent hMiddle
      | untouched hUnflagged hMiddle =>
          refine .untouched (fun record version a hMem => ?_) hMiddle
          rcases List.mem_append.mp hMem with hMem | hMem
          · exact hUnflagged record version a hMem
          · exact hLater record version a hMem

/-- No file of a cache has a name like those of the shelf. -/
theorem spot_not_written (s : Shelf) (t : FileTree) (network : Network) (address : String)
    {cache : Cache} {key : CacheKey} : ¬ cache.Writes t key (s.spot t network address) := by
  have hOther {loc : Location} {name : String} (hName : name.toList.getLast? = some 'n') :
      s.spot t network address ≠ loc ++ [name] := by
    intro hSame
    rw [← Shelf.location_title] at hSame
    obtain rfl : Shelf.title address = name := by simpa using (List.append_inj' hSame rfl).2
    rw [Shelf.getLast?_title] at hName
    cases hName
  cases cache with
  | memory answers => exact id
  | disk c =>
      rintro (hFile | hManifest)
      · exact hOther key.getLast?_artifactName hFile
      · exact hOther (by decide) hManifest

/-- What stands in the place of a contract's file. -/
def shelved? (settings : Settings) (t : FileTree) (key : CacheKey) : Option Bytes :=
  t.content? (settings.shelf.spot t key.network key.address)

/-- What touches no file of a contract leaves the contract what it had. -/
theorem shelved?_of_touches {S : Location → Prop} {t t' : FileTree} (h : FileTree.Touches S t t')
    (key : CacheKey) (hSpot : ¬ S (settings.shelf.spot t key.network key.address)) :
    shelved? settings t' key = shelved? settings t key := by
  rw [shelved?, shelved?, Shelf.spot_of_home h.home, h.content _ hSpot]

/-- Where a source is judged, its outcome explains the files of all contracts. -/
theorem judge_explained (hAddress : '/' ∉ record.address.toList)
    (h : judge settings desk record found = (.ok outcome, desk')) (key : CacheKey) :
    Explained settings key [(record, outcome)] (shelved? settings desk.files key)
      (shelved? settings desk'.files key) := by
  obtain ⟨change, t', notes, hFollow, rfl⟩ := judge_eq_ok (congrArg Prod.fst h)
  obtain rfl : (judge settings desk record found).2 = desk' := congrArg Prod.snd h
  rw [judge_files, hFollow]
  rw [follow] at hFollow
  by_cases hKey : keyOf record = key
  · subst hKey
    rcases Shelf.update_content? hAddress hFollow with
      ⟨rfl, hVulnerable, hContent⟩ | ⟨rfl, hContent⟩ | ⟨rfl, rfl⟩
    · exact .saved (List.mem_singleton.mpr rfl) rfl rfl hVulnerable hContent
    · exact .absent hContent
    · refine .untouched (fun r version a hMem => ?_) rfl
      cases (Prod.mk.inj (List.mem_singleton.mp hMem)).2
  · have hTouches := Shelf.update_touches settings.shelf desk.files record.network hAddress found.source
      (assessment settings found).vulnerable
    rw [hFollow] at hTouches
    refine .untouched ?_ (shelved?_of_touches hTouches key fun hSame => ?_)
    · intro r version a hMem
      obtain ⟨rfl, _⟩ := Prod.mk.inj (List.mem_singleton.mp hMem)
      exact hKey
    · obtain ⟨hNetwork, hOther⟩ := Shelf.spot_injective hSame
      exact hKey (by rw [keyOf, ← hNetwork, ← hOther])

/-- Where a record is processed, its outcome explains the files of all contracts. -/
theorem process_explained (hAddress : '/' ∉ record.address.toList)
    (h : process settings explorer desk record = (.ok outcome, desk')) (key : CacheKey) :
    Explained settings key [(record, outcome)] (shelved? settings desk.files key)
      (shelved? settings desk'.files key) := by
  rcases process_eq_ok h with ⟨rfl, hPassed⟩ | ⟨found, middle, _, hFetch, hJudge⟩
  · refine .untouched ?_ rfl
    intro r version a hMem
    obtain ⟨rfl, rfl⟩ := Prod.mk.inj (List.mem_singleton.mp hMem)
    cases hPassed ""
  · have hTouches := (fetch_alters explorer desk record.network record.address).touches
    rw [hFetch] at hTouches
    rw [← shelved?_of_touches hTouches key (spot_not_written settings.shelf desk.files _ _)]
    exact judge_explained hAddress hJudge key

/-! ### Accounts -/

/-- The events from one desk to another have some outcomes and name the files that were saved
for them. -/
def Told (settings : Settings) (seen : List (Record × Outcome)) (desk desk' : Desk σ) : Prop :=
  ∃ events, desk'.trace = desk.trace ++ events ∧ Event.outcomes events = seen ∧
    Event.saved events = filesOf settings seen

/-- What is told over two stretches is told over both together. -/
theorem Told.trans {seen more : List (Record × Outcome)} {last : Desk σ}
    (h : Told settings seen desk desk') (h' : Told settings more desk' last) :
    Told settings (seen ++ more) desk last := by
  obtain ⟨events, hTrace, hSeen, hSaved⟩ := h
  obtain ⟨later, hTrace', hMore, hSaved'⟩ := h'
  refine ⟨events ++ later, ?_, ?_, ?_⟩
  · rw [hTrace', hTrace, List.append_assoc]
  · rw [Event.outcomes_append, hSeen, hMore]
  · rw [Event.saved_append, hSaved, hSaved', filesOf_append]

/-- Notes about anything but a source that was saved make no difference. -/
theorem Told.noting {seen : List (Record × Outcome)} {notes : List Note}
    (h : Told settings seen desk desk') (hNotes : ∀ path, .sourceSaved path ∉ notes) :
    Told settings seen desk (desk'.noting notes) := by
  obtain ⟨events, hTrace, hSeen, hSaved⟩ := h
  refine ⟨events ++ notes.map .noted, ?_, ?_, ?_⟩
  · rw [Desk.noting_trace, hTrace, List.append_assoc]
  · rw [Event.outcomes_append, Event.outcomes_noted, List.append_nil, hSeen]
  · rw [Event.saved_append, Event.saved_noted hNotes, List.append_nil, hSaved]

/-- Some outcomes account for what happened between two desks: for the events, and for the file
of every contract if the addresses name files. -/
structure Account (settings : Settings) (seen : List (Record × Outcome)) (desk desk' : Desk σ) :
    Prop where
  told : Told settings seen desk desk'
  files : (∀ o ∈ seen, '/' ∉ o.1.address.toList) → ∀ key, Explained settings key seen
    (shelved? settings desk.files key) (shelved? settings desk'.files key)

theorem Account.refl (settings : Settings) (desk : Desk σ) : Account settings [] desk desk :=
  ⟨⟨[], by simp, rfl, rfl⟩, fun _ _ => .untouched (fun _ _ _ hMem => by cases hMem) rfl⟩

/-- Accounts of two stretches make an account of both together. -/
theorem Account.trans {seen more : List (Record × Outcome)} {last : Desk σ}
    (h : Account settings seen desk desk') (h' : Account settings more desk' last) :
    Account settings (seen ++ more) desk last := by
  refine ⟨h.told.trans h'.told, fun hAddresses key => ?_⟩
  have hFirst := h.files fun o hMem => hAddresses o (List.mem_append_left _ hMem)
  have hSecond := h'.files fun o hMem => hAddresses o (List.mem_append_right _ hMem)
  exact (hFirst key).trans (hSecond key)

/-- The outcome of a record accounts for what processing it and observing the outcome did. -/
theorem process_account (h : process settings explorer desk record = (.ok outcome, desk')) :
    Account settings [(record, outcome)] desk (desk'.happened [.judged record outcome]) := by
  obtain ⟨events, hTrace, hNone, hSaved⟩ := process_saved h
  refine ⟨⟨events ++ [.judged record outcome], ?_, ?_, ?_⟩, fun hAddresses key => ?_⟩
  · rw [Desk.happened_trace, hTrace, List.append_assoc]
  · rw [Event.outcomes_append, hNone, Event.outcomes_judged, List.nil_append]
  · rw [Event.saved_append, hSaved, Event.saved_judged, List.append_nil]
  · exact process_explained (hAddresses _ (List.mem_singleton_self _)) h key

/-- All records that are processed are accounted for by what was seen of them. -/
theorem processAll_account {records : List Record} {outcomes : List Outcome}
    (h : processAll settings explorer desk records = (.ok outcomes, desk')) :
    ∃ seen, seen.map Prod.fst = records ∧ seen.map Prod.snd = outcomes ∧
      Account settings seen desk desk' := by
  induction records generalizing desk outcomes with
  | nil =>
      cases h
      exact ⟨[], rfl, rfl, Account.refl settings _⟩
  | cons record records ih =>
      obtain ⟨outcome, next, later, hProcess, hRest, rfl⟩ := processAll_cons_eq_ok h
      obtain ⟨seen, rfl, rfl, hAccount⟩ := ih hRest
      exact ⟨(record, outcome) :: seen, rfl, rfl, (process_account hProcess).trans hAccount⟩

/-- The outcomes that were observed account for a scan of a network that succeeds, and its summary
counts them. They are what the records came to one after another. -/
theorem scanNetwork_account {records : List Record} {summary : NetworkSummary}
    (h : scanNetwork settings explorer desk network records = (.ok summary, desk')) :
    ∃ seen, seen.map Prod.fst = records ∧ summary = ⟨network, Tally.ofOutcomes (seen.map Prod.snd)⟩ ∧
      (∃ made last, settings.shelf.prepare desk.files network = (.ok (), made) ∧
        processAll settings explorer { desk with files := made } records =
          (.ok (seen.map Prod.snd), last)) ∧
      Account settings seen desk desk' := by
  obtain ⟨files, outcomes, last, hMade, hAll, rfl, rfl⟩ := scanNetwork_eq_ok_iff.mp h
  obtain ⟨seen, rfl, rfl, hAccount⟩ := processAll_account hAll
  have hTold : Told settings seen desk last := hAccount.told
  refine ⟨seen, rfl, rfl, ⟨files, last, hMade, hAll⟩, hTold.noting (by simp), fun hAddresses key => ?_⟩
  have hGrown := (Shelf.prepare_grown hMade).touches (S := fun _ => False)
  rw [← shelved?_of_touches hGrown key id]
  exact hAccount.files hAddresses key

end Scan

end LockTriage
