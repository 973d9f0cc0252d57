import LockTriage.Proofs.Cache.Lasting
import Mathlib.Data.Finset.Card

/-!
A cache directory over a whole history of use. What it answers depends on what
was kept since it was last cleared and on nothing else: not on reading, on
writing the manifest, or on opening it again. Two keys may share a file; then
the one that was kept last is found and the other is a miss.
-/

namespace LockTriage.DiskCache

/-- What a client does with a cache directory. -/
inductive Operation
  | put (key : CacheKey) (answer : Json)
  | get (key : CacheKey)
  | size
  | flush
  | clear
  | reopen
  deriving Repr

/-- A cache with the files around it after an operation that has to succeed.
Answers are not part of it: getting one or counting them changes nothing. -/
def perform (state : DiskCache × FileTree) : Operation → Except ScanError (DiskCache × FileTree)
  | .put key answer =>
      let (done, c, t) := state.1.put state.2 key answer
      done.map fun _ => (c, t)
  | .get _ => .ok state
  | .size => .ok state
  | .flush =>
      let (done, t) := state.1.flush state.2
      done.map fun _ => (state.1, t)
  | .clear =>
      let (done, c, t) := state.1.clear state.2
      done.map fun _ => (c, t)
  | .reopen =>
      let (opened, t, _) := load state.2 state.1.directory
      opened.map fun c => (c, t)

/-- The answers that were kept, oldest first, after one more operation. -/
def remember (kept : List (CacheKey × Json)) : Operation → List (CacheKey × Json)
  | .put key answer => kept ++ [(key, answer)]
  | .clear => []
  | _ => kept

/-- The answers that were kept since the cache was last cleared, oldest first. -/
def sinceClear (ops : List Operation) : List (CacheKey × Json) := ops.foldl remember []

/-- The answer is the last one kept for the key, and none was kept later for a
different key whose file has the same name. -/
def Newest (key : CacheKey) (answer : Json) (kept : List (CacheKey × Json)) : Prop :=
  ∃ before after, kept = before ++ (key, answer) :: after ∧ (∀ p ∈ after, p.1 ≠ key) ∧
    ∀ p ∈ after, p.1 ≠ key → p.1.artifactName ≠ key.artifactName

/-! ### The manifest of a history -/

/-- The entries that answers leave in the manifest. -/
def index (kept : List (CacheKey × Json)) : Manifest.Entries :=
  kept.foldl (fun entries p => Assoc.set p.1.text p.1.artifactName entries) []

/-- The newest answer of a history takes the place of its key in the index. -/
@[simp] theorem index_concat (kept : List (CacheKey × Json)) (key : CacheKey) (answer : Json) :
    index (kept ++ [(key, answer)]) = Assoc.set key.text key.artifactName (index kept) := by
  rw [index, List.foldl_append]
  rfl

theorem nodup_index (kept : List (CacheKey × Json)) : (Assoc.keys (index kept)).Nodup := by
  induction kept using List.reverseRecOn with
  | nil => exact List.nodup_nil
  | append_singleton kept p ih =>
      rw [index_concat]
      exact Assoc.nodup_keys_set ih _ _

/-- The manifest names the file of every key that was kept, and no other. -/
theorem get?_index (kept : List (CacheKey × Json)) (key : CacheKey) :
    Assoc.get? key.text (index kept) =
      if key ∈ kept.map Prod.fst then some key.artifactName else none := by
  induction kept using List.reverseRecOn with
  | nil => rfl
  | append_singleton kept p ih =>
      rw [index_concat, Assoc.get?_set, ih]
      by_cases hKey : key = p.1
      · subst hKey
        simp
      · have hText : key.text ≠ p.1.text := fun hSame => hKey (CacheKey.text_injective hSame)
        have hMem : key ∈ (kept ++ [p]).map Prod.fst ↔ key ∈ kept.map Prod.fst := by simp [hKey]
        simp only [hText, hMem, if_false]

/-- The index has the keys of the history, and no others. -/
theorem keys_index (kept : List (CacheKey × Json)) :
    (Assoc.keys (index kept)).toFinset = (kept.map Prod.fst).toFinset.image CacheKey.text := by
  induction kept using List.reverseRecOn with
  | nil => rfl
  | append_singleton kept p ih =>
      ext text
      have hOld := congrArg (text ∈ ·) ih
      simp only [List.mem_toFinset, Finset.mem_image, eq_iff_iff] at hOld
      rw [index_concat, List.mem_toFinset, Assoc.mem_keys_set, hOld]
      simp only [List.map_append, List.map_cons, List.map_nil, List.toFinset_append,
        Finset.mem_image, Finset.mem_union, List.mem_toFinset, List.mem_singleton]
      constructor
      · rintro (⟨key, hKey, rfl⟩ | rfl)
        · exact ⟨key, .inl hKey, rfl⟩
        · exact ⟨p.1, .inr rfl, rfl⟩
      · rintro ⟨key, hKey | rfl, rfl⟩
        · exact .inl ⟨key, hKey, rfl⟩
        · exact .inr rfl

/-- The manifest has one entry for every key that was kept. -/
theorem length_index (kept : List (CacheKey × Json)) :
    (index kept).length = (kept.map Prod.fst).toFinset.card := by
  have hLength : (index kept).length = (Assoc.keys (index kept)).length := by
    rw [Assoc.keys, List.length_map]
  rw [hLength, ← List.toFinset_card_of_nodup (nodup_index kept), keys_index,
    Finset.card_image_of_injective _ CacheKey.text_injective]

/-! ### The file of a name -/

/-- The last answer that was written to the file of a name. -/
def lastInto (name : String) (kept : List (CacheKey × Json)) : Option (CacheKey × Json) :=
  kept.reverse.find? fun p => p.1.artifactName = name

/-- The answer kept last under a file name is the newest one of that name. -/
theorem lastInto_concat (name : String) (kept : List (CacheKey × Json)) (p : CacheKey × Json) :
    lastInto name (kept ++ [p]) =
      if p.1.artifactName = name then some p else lastInto name kept := by
  rw [lastInto, List.reverse_concat, List.find?_cons]
  split <;> simp_all [lastInto]

/-- The answer kept last under a file name is followed by none of that name. -/
theorem lastInto_eq_some_iff {name : String} {kept : List (CacheKey × Json)}
    {p : CacheKey × Json} :
    lastInto name kept = some p ↔
      p.1.artifactName = name ∧ ∃ before after, kept = before ++ p :: after ∧
        ∀ q ∈ after, q.1.artifactName ≠ name := by
  rw [lastInto, List.find?_eq_some_iff_append]
  simp only [decide_eq_true_eq, Bool.not_eq_true', decide_eq_false_iff_not]
  constructor
  · rintro ⟨hName, after, before, hKept, hAfter⟩
    refine ⟨hName, before.reverse, after.reverse, ?_, by simpa using hAfter⟩
    rw [← List.reverse_reverse kept, hKept]
    simp
  · rintro ⟨hName, before, after, rfl, hAfter⟩
    exact ⟨hName, after.reverse, before.reverse, by simp, by simpa using hAfter⟩

theorem plain_of_lastInto {name : String} {kept : List (CacheKey × Json)} {p : CacheKey × Json}
    (h : lastInto name kept = some p) : Path.Plain name := by
  obtain ⟨rfl, _⟩ := lastInto_eq_some_iff.mp h
  exact p.1.plain_artifactName

/-- An answer is the newest of its key exactly when it is the last one in its file. -/
theorem newest_iff {key : CacheKey} {answer : Json} {kept : List (CacheKey × Json)} :
    Newest key answer kept ↔ lastInto key.artifactName kept = some (key, answer) := by
  rw [lastInto_eq_some_iff]
  constructor
  · rintro ⟨before, after, hKept, hKey, hName⟩
    exact ⟨rfl, before, after, hKept, fun p hp => hName p hp (hKey p hp)⟩
  · rintro ⟨_, before, after, hKept, hName⟩
    refine ⟨before, after, hKept, ?_, fun p hp _ => hName p hp⟩
    intro p hp hKey
    exact hName p hp (by rw [hKey])

/-! ### What a history leaves behind -/

/-- The answer lasts, and it holds whole numbers only. -/
structure Storable (key : CacheKey) (answer : Json) : Prop extends Lasting key answer where
  whole : Json.Whole answer

/-- The cache in memory, the manifest and the files of the answers are in step
with the answers that were kept. -/
structure Follows (kept : List (CacheKey × Json)) (c : DiskCache) (t : FileTree) : Prop where
  storable : ∀ p ∈ kept, Storable p.1 p.2
  entries : c.entries = index kept
  directory : t.isDirectory c.artifacts = true
  reopens : ∃ notes, load t c.directory = (.ok c, t, notes)
  files : ∀ name p, lastInto name kept = some p →
    t.read (c.artifacts.join name) = .ok (record p.1 p.2)

variable {kept : List (CacheKey × Json)} {c c' : DiskCache} {t t' : FileTree}

theorem Follows.nodup (h : Follows kept c t) : (Assoc.keys c.entries).Nodup := by
  rw [h.entries]
  exact nodup_index kept

/-- An answer is found exactly if it is the newest one of its file. -/
theorem Follows.get?_iff (h : Follows kept c t) (key : CacheKey) (answer : Json) :
    (c.get? t key).1 = some answer ↔ Newest key answer kept := by
  rw [newest_iff]
  by_cases hKey : key ∈ kept.map Prod.fst
  · have hEntry : Assoc.get? key.text c.entries = some key.artifactName := by
      rw [h.entries, get?_index, if_pos hKey]
    cases hLast : lastInto key.artifactName kept with
    | none =>
        obtain ⟨p, hp, rfl⟩ := List.mem_map.mp hKey
        have hNone := List.find?_eq_none.mp hLast p (List.mem_reverse.mpr hp)
        simp at hNone
    | some p =>
        -- The file of the key holds the last answer written to it, whose key may be another.
        obtain ⟨_, before, after, hKept, _⟩ := lastInto_eq_some_iff.mp hLast
        have hStorable := h.storable p (by simp [hKept])
        obtain ⟨s, hText⟩ := hStorable.read
        rw [get?_of_entry hEntry (h.files _ p hLast)]
        by_cases hSame : p.1 = key
        · have hAnswer := answerIn?_record hStorable.fits []
          rw [List.append_nil, Json.parse?_render hText hStorable.whole] at hAnswer
          rw [← hSame, hAnswer, Option.some.injEq, Option.some.injEq, Prod.ext_iff]
          simp
        · rw [answerIn?_foreign hSame hStorable.fits]
          constructor
          · intro hNone
            cases hNone
          · intro hPair
            exact absurd (congrArg Prod.fst (Option.some.inj hPair)) hSame
  · have hEntry : Assoc.get? key.text c.entries = none := by
      rw [h.entries, get?_index, if_neg hKey]
    rw [get?_of_no_entry hEntry]
    constructor
    · intro hNone
      cases hNone
    · intro hLast
      obtain ⟨_, before, after, hKept, _⟩ := lastInto_eq_some_iff.mp hLast
      exact absurd (List.mem_map.mpr ⟨(key, answer), by simp [hKept], rfl⟩) hKey

/-- A cache that follows a history follows it with one more answer once that has been put. -/
theorem Follows.put (h : Follows kept c t) {key : CacheKey} {answer : Json}
    (hStorable : Storable key answer) (hPut : c.put t key answer = (.ok (), c', t')) :
    Follows (kept ++ [(key, answer)]) c' t' := by
  have hDir := put_artifacts hPut h.directory
  have hManifest := put_manifest hPut
  have hFile := put_file_same hPut
  have hOthers : ∀ name, Path.Plain name → name ≠ key.artifactName → ∀ bytes,
      t.read (c.artifacts.join name) = .ok bytes → t'.read (c.artifacts.join name) = .ok bytes :=
    fun _ hName hNe _ hRead => put_file_other hPut hName hNe hRead
  obtain ⟨_, _, rfl, _⟩ := put_eq_ok hPut
  have hEntries : Assoc.set key.text key.artifactName c.entries = index (kept ++ [(key, answer)]) := by
    rw [index_concat, h.entries]
  refine ⟨?_, hEntries, hDir, ⟨[], load_manifest hDir hManifest ?_⟩, ?_⟩
  · intro p hp
    rcases List.mem_append.mp hp with hp | hp
    · exact h.storable p hp
    · obtain rfl := List.mem_singleton.mp hp
      exact hStorable
  · rw [hEntries]
    exact nodup_index _
  · intro name p hLast
    rw [lastInto_concat] at hLast
    split at hLast
    · rename_i hName
      cases hLast
      subst hName
      exact hFile
    · rename_i hName
      exact hOthers name (plain_of_lastInto hLast) (Ne.symm hName) _ (h.files name p hLast)

/-- A cache still follows its history when its manifest has been written. -/
theorem Follows.flush (h : Follows kept c t) (hFlush : c.flush t = (.ok (), t')) :
    Follows kept c t' := by
  have hDir := flush_artifacts hFlush h.directory
  have hReopens := load_manifest hDir (flush_manifest hFlush) h.nodup
  refine ⟨h.storable, h.entries, hDir, ⟨[], hReopens⟩, ?_⟩
  intro name p hLast
  exact flush_file hFlush (plain_of_lastInto hLast) (h.files name p hLast)

/-- A cache that has been cleared follows the empty history. -/
theorem follows_clear (hClear : c.clear t = (.ok (), c', t')) : Follows [] c' t' := by
  obtain ⟨rfl, hDir, hManifest⟩ := clear_eq_ok hClear
  have hReopens := load_manifest (c := { c with entries := [] }) hDir hManifest List.nodup_nil
  refine ⟨by simp, rfl, hDir, ⟨[], hReopens⟩, ?_⟩
  intro name p hLast
  cases hLast

/-- A cache that is opened where no current manifest stands has kept nothing. -/
theorem follows_load {directory : Path} {notes : List Note} (hFresh : Fresh t directory)
    (hLoad : load t directory = (.ok c, t', notes)) : Follows [] c t' := by
  have hEmpty := load_fresh hFresh hLoad
  refine ⟨by simp, by rw [hEmpty]; rfl, load_artifacts hLoad, ⟨notes, load_again hLoad⟩, ?_⟩
  intro name p hLast
  cases hLast

/-- One operation keeps the cache in step with what is remembered. -/
theorem Follows.perform (h : Follows kept c t) {op : Operation}
    (hStorable : ∀ key answer, op = .put key answer → Storable key answer)
    (hDone : DiskCache.perform (c, t) op = .ok (c', t')) : Follows (remember kept op) c' t' := by
  cases op with
  | put key answer =>
      rcases hPut : c.put t key answer with ⟨done, next, files⟩
      simp only [DiskCache.perform, hPut] at hDone
      cases done with
      | error fault => cases hDone
      | ok _ =>
          cases hDone
          exact h.put (hStorable key answer rfl) hPut
  | get key =>
      cases hDone
      exact h
  | size =>
      cases hDone
      exact h
  | flush =>
      rcases hFlush : c.flush t with ⟨done, files⟩
      simp only [DiskCache.perform, hFlush] at hDone
      cases done with
      | error fault => cases hDone
      | ok _ =>
          cases hDone
          exact h.flush hFlush
  | clear =>
      rcases hClear : c.clear t with ⟨done, next, files⟩
      simp only [DiskCache.perform, hClear] at hDone
      cases done with
      | error fault => cases hDone
      | ok _ =>
          cases hDone
          exact follows_clear hClear
  | reopen =>
      obtain ⟨notes, hReopens⟩ := h.reopens
      simp only [DiskCache.perform, hReopens] at hDone
      cases hDone
      exact h

/-- A whole history keeps the cache in step. -/
theorem Follows.run {ops : List Operation} (h : Follows kept c t)
    (hStorable : ∀ key answer, .put key answer ∈ ops → Storable key answer)
    (hRun : ops.foldlM DiskCache.perform (c, t) = .ok (c', t')) :
    Follows (ops.foldl remember kept) c' t' := by
  induction ops generalizing kept c t with
  | nil =>
      cases hRun
      exact h
  | cons op ops ih =>
      rw [List.foldlM_cons] at hRun
      cases hFirst : DiskCache.perform (c, t) op with
      | error fault =>
          rw [hFirst] at hRun
          cases hRun
      | ok state =>
          obtain ⟨c₁, t₁⟩ := state
          rw [hFirst] at hRun
          have hNext := h.perform (fun key answer hOp => hStorable key answer (by simp [hOp])) hFirst
          exact ih hNext (fun key answer hOp => hStorable key answer (List.mem_cons_of_mem _ hOp)) hRun

/-- However a cache directory without a current manifest is opened and used, as
long as every operation succeeds: an answer is found exactly if it is the last
one kept for its key since the cache was cleared and its file was not taken over
by a different key; every key that was kept counts once; and opening the
directory again gives the same cache over the same files. -/
theorem persists_history {files t₀ t : FileTree} {directory : Path} {notes : List Note}
    {c₀ c : DiskCache} {ops : List Operation} (hFresh : Fresh files directory)
    (hOpen : load files directory = (.ok c₀, t₀, notes))
    (hStorable : ∀ key answer, .put key answer ∈ ops → Storable key answer)
    (hRun : ops.foldlM DiskCache.perform (c₀, t₀) = .ok (c, t)) :
    (∀ key answer, (c.get? t key).1 = some answer ↔ Newest key answer (sinceClear ops)) ∧
      c.size = ((sinceClear ops).map Prod.fst).toFinset.card ∧
      ∃ notes, load t c.directory = (.ok c, t, notes) := by
  have hFollows := (follows_load hFresh hOpen).run hStorable hRun
  refine ⟨hFollows.get?_iff, ?_, hFollows.reopens⟩
  rw [size, hFollows.entries, length_index]
  rfl

namespace Use

/-- A directory whose manifest cannot be understood. -/
def files : FileTree :=
  ⟨["w"], [(["w"], .dir), (["w", "cache"], .dir),
    (["w", "cache", "manifest.json"], .file (Bytes.ofText "\x7b"))]⟩

def quoted : CacheKey := ⟨.poly, "0x\"é"⟩

def other : CacheKey := ⟨.celo, "0x\"é"⟩

def answer : Json := .list [.number (.whole (-7)), .text "\n"]

def operations : List Operation :=
  [.put other .null, .clear, .put quoted .null, .get quoted, .put quoted answer, .reopen]

/-- What opening the directory gives. -/
def opened : Except ScanError DiskCache × FileTree × List Note := load files ⟨"cache"⟩

theorem fresh_files : Fresh files ⟨"cache"⟩ := by
  intro content text entries hChild hText hRead
  have hFile : files.child? ⟨"cache"⟩ "manifest.json" = some (.file (Bytes.ofText "\x7b")) := by
    decide +kernel
  rw [hFile] at hChild
  cases hChild
  rw [Bytes.text?_ofText] at hText
  cases hText
  have hUnreadable : Manifest.read "\x7b" = .unreadable := by decide +kernel
  rw [hUnreadable] at hRead
  cases hRead

theorem readable_answer : Json.Readable Json.depthLimit answer := by
  change Json.Readable (126 + 1) answer
  refine .list fun item hi => ?_
  simp only [List.mem_cons, List.not_mem_nil, or_false] at hi
  rcases hi with rfl | rfl
  · exact .number _ ⟨by decide, by decide⟩
  · exact .text _ _

/-- An answer that can be read back can be stored, if its artifact fits. -/
theorem storable_of_readable {key : CacheKey} {answer : Json}
    (h : Json.Readable Json.depthLimit answer) (hFits : Artifact.Fits ⟨key.text, answer.render⟩) :
    Storable key answer :=
  ⟨⟨⟨answer.render, h.parse?_render⟩, hFits⟩, h.exact.whole⟩

theorem storable_operations (key : CacheKey) (answer : Json)
    (h : .put key answer ∈ operations) : Storable key answer := by
  simp only [operations, List.mem_cons, Operation.put.injEq, List.not_mem_nil, or_false,
    reduceCtorEq, false_or] at h
  rcases h with ⟨rfl, rfl⟩ | ⟨rfl, rfl⟩ | ⟨rfl, rfl⟩
  · exact storable_of_readable (.null _) (by decide +kernel)
  · exact storable_of_readable (.null _) (by decide +kernel)
  · exact storable_of_readable readable_answer (by decide +kernel)

/-- One answer is dropped, another is replaced, and the directory is opened twice. -/
theorem persists_through_clearing :
    ∃ c t, operations.foldlM DiskCache.perform (⟨⟨"cache"⟩, []⟩, opened.2.1) = .ok (c, t) ∧
      (c.get? t quoted).1 = some answer ∧ (c.get? t other).1 = none ∧ c.size = 1 := by
  have hOpen : load files ⟨"cache"⟩ = (.ok ⟨⟨"cache"⟩, []⟩, opened.2.1, opened.2.2) :=
    Prod.ext (by decide +kernel) rfl
  have hOk :
      (operations.foldlM DiskCache.perform (⟨⟨"cache"⟩, []⟩, opened.2.1)).isOk = true := by
    decide +kernel
  cases hRun : operations.foldlM DiskCache.perform (⟨⟨"cache"⟩, []⟩, opened.2.1) with
  | error fault =>
      rw [hRun] at hOk
      cases hOk
  | ok last =>
      obtain ⟨c, t⟩ := last
      obtain ⟨hGet, hSize, _⟩ :=
        persists_history fresh_files hOpen storable_operations hRun
      refine ⟨c, t, rfl, ?_, ?_, hSize⟩
      · rw [hGet]
        exact ⟨[(quoted, .null)], [], rfl, by simp, by simp⟩
      · cases hOther : (c.get? t other).1 with
        | none => rfl
        | some found =>
            obtain ⟨before, after, hKept, _⟩ := (hGet other found).mp hOther
            have hMem : (other, found) ∈ sinceClear operations := by simp [hKept]
            simp [sinceClear, operations, remember, quoted, other] at hMem

end Use

end LockTriage.DiskCache
