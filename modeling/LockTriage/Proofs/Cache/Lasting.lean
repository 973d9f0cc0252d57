import LockTriage.Cache.Basic
import LockTriage.Proofs.Cache.Disk
import LockTriage.Proofs.Files.Footprint

/-!
How long a cached answer lasts. Keeping an answer writes two files, so whatever
else changes on the disk, and whatever other keys are kept, an answer is found
again as long as no other key takes over its file.
-/

namespace LockTriage

namespace DiskCache

variable {c c' : DiskCache} {t t' : FileTree} {key other : CacheKey} {answer found : Json}
variable {keys : List CacheKey} {S : Location → Prop}

/-! ### What keeping an answer writes -/

/-- Where an answer of the key is written: its file, and the manifest. -/
def Writes (c : DiskCache) (t : FileTree) (key : CacheKey) (loc : Location) : Prop :=
  loc = t.location c.artifacts ++ [key.artifactName] ∨
    loc = t.location c.directory ++ ["manifest.json"]

/-- The cache with the file of the key entered for it. -/
def enter (c : DiskCache) (key : CacheKey) : DiskCache :=
  { c with entries := Assoc.set key.text key.artifactName c.entries }

@[simp] theorem enter_directory (c : DiskCache) (key : CacheKey) :
    (c.enter key).directory = c.directory := rfl

@[simp] theorem enter_entries (c : DiskCache) (key : CacheKey) :
    (c.enter key).entries = Assoc.set key.text key.artifactName c.entries := rfl

/-- The file is written first. If that fails nothing is entered. -/
theorem put_eq [o : Manifest.Order] (c : DiskCache) (t : FileTree) (key : CacheKey) (answer : Json) :
    c.put t key answer =
      match t.write (c.file key) (record key answer) with
      | .error fault => (.error (.file (c.file key) fault), c, t)
      | .ok middle => (((c.enter key).flush middle).1, c.enter key, ((c.enter key).flush middle).2) := by
  unfold put file record
  dsimp only
  cases t.write (c.artifacts.join key.artifactName) (Artifact.encode ⟨key.text, answer.render⟩) <;> rfl

/-- What keeping an answer can come to. If the manifest cannot be written, the
answer counts as kept until the cache is opened again. -/
inductive Kept [o : Manifest.Order] (c : DiskCache) (t : FileTree) (key : CacheKey) (answer : Json) :
    Except ScanError Unit × DiskCache × FileTree → Prop where
  | unwritten (e : ScanError) : Kept c t key answer (.error e, c, t)
  | written {middle : FileTree} (hWrite : t.write (c.file key) (record key answer) = .ok middle) :
      Kept c t key answer
        (((c.enter key).flush middle).1, c.enter key, ((c.enter key).flush middle).2)

/-- Keeping an answer comes to one of the two cases. -/
theorem kept [o : Manifest.Order] (c : DiskCache) (t : FileTree) (key : CacheKey) (answer : Json) :
    Kept c t key answer (c.put t key answer) := by
  rw [put_eq]
  split
  · exact .unwritten _
  · exact .written ‹_›

/-- Writing the manifest alters nothing else. -/
theorem flush_alters [o : Manifest.Order] (c : DiskCache) (t : FileTree) :
    FileTree.Alters (· = t.location c.directory ++ ["manifest.json"]) t (c.flush t).2 := by
  unfold flush
  split
  · exact FileTree.Alters.refl t
  · rename_i t' hWrite
    exact FileTree.write_alters plain_manifest hWrite

/-- Keeping an answer alters its file and the manifest, even if it fails. -/
theorem put_alters [o : Manifest.Order] (c : DiskCache) (t : FileTree) (key : CacheKey) (answer : Json) :
    FileTree.Alters (c.Writes t key) t (c.put t key answer).2.2 := by
  have hCases := kept c t key answer
  generalize c.put t key answer = result at hCases ⊢
  cases hCases with
  | unwritten => exact FileTree.Alters.refl t
  | @written middle hWrite =>
      have hFile := FileTree.write_alters key.plain_artifactName hWrite
      have hManifest := flush_alters (c.enter key) middle
      rw [FileTree.location_of_home hFile.home] at hManifest
      exact (hFile.mono fun _ => .inl).trans (hManifest.mono fun _ => .inr)

/-- Keeping an answer does not move the cache. -/
theorem put_directory [o : Manifest.Order] (c : DiskCache) (t : FileTree) (key : CacheKey)
    (answer : Json) :
    (c.put t key answer).2.1.directory = c.directory := by
  have hCases := kept c t key answer
  generalize c.put t key answer = result at hCases ⊢
  cases hCases <;> rfl

/-! ### Answers that are found again -/

/-- A key is answered by the file that the manifest names for it. -/
theorem get?_eq_some_iff_answerIn? :
    (c.get? t key).1 = some answer ↔
      ∃ name bytes, Assoc.get? key.text c.entries = some name ∧
        t.read (c.artifacts.join name) = .ok bytes ∧ answerIn? key bytes = some answer := by
  constructor
  · intro hAnswer
    cases hEntry : Assoc.get? key.text c.entries with
    | none =>
        rw [get?_of_no_entry hEntry] at hAnswer
        cases hAnswer
    | some name =>
        cases hRead : t.read (c.artifacts.join name) with
        | error fault =>
            rw [get?_of_unreadable hEntry hRead] at hAnswer
            cases hAnswer
        | ok bytes =>
            rw [get?_of_entry hEntry hRead] at hAnswer
            exact ⟨name, bytes, rfl, hRead, hAnswer⟩
  · rintro ⟨name, bytes, hEntry, hRead, hAnswer⟩
    rw [get?_of_entry hEntry hRead, hAnswer]

/-- No two of the keys share a file: the files that the manifest names for them
are among the artifacts, and none is where an answer of another would be written. -/
structure Unshared (c : DiskCache) (t : FileTree) (keys : List CacheKey) : Prop where
  names : ∀ k ∈ keys, ∀ k' ∈ keys, k.artifactName = k'.artifactName → k = k'
  inside : ∀ k ∈ keys, ∀ name, Assoc.get? k.text c.entries = some name →
    t.location c.artifacts <+: t.location (c.artifacts.join name)
  apart : ∀ k ∈ keys, ∀ name, Assoc.get? k.text c.entries = some name →
    ∀ k' ∈ keys, k' ≠ k →
      t.location (c.artifacts.join name) ≠ t.location c.artifacts ++ [k'.artifactName]

/-- The files of answers are in a directory beside the manifest. -/
theorem location_artifacts (c : DiskCache) (t : FileTree) :
    t.location c.artifacts = t.location c.directory ++ ["artifacts"] :=
  FileTree.location_join t _ plain_artifacts

/-- The file of a key is among the artifacts. -/
theorem location_file (c : DiskCache) (t : FileTree) (key : CacheKey) :
    t.location (c.file key) = t.location c.artifacts ++ [key.artifactName] :=
  FileTree.location_join t _ key.plain_artifactName

/-- The manifest is not below the artifacts. -/
private theorem manifest_not_below (c : DiskCache) (t : FileTree) :
    ¬ t.location c.artifacts <+: t.location c.directory ++ ["manifest.json"] := by
  rw [location_artifacts]
  intro hPrefix
  have hSame := (List.prefix_append_right_inj _).mp hPrefix
  simp at hSame

/-- What does not touch the artifacts leaves the answers of the keys as they are. -/
theorem get?_of_touches (h : FileTree.Touches S t t')
    (hOut : ∀ loc, t.location c.artifacts <+: loc → ¬ S loc) (hKeys : c.Unshared t keys)
    (hMem : key ∈ keys) (hFound : (c.get? t key).1 = some found) :
    (c.get? t' key).1 = some found := by
  obtain ⟨name, bytes, hEntry, hRead, hAnswer⟩ := get?_eq_some_iff_answerIn?.mp hFound
  have hLoc := hOut _ (hKeys.inside key hMem name hEntry)
  exact get?_eq_some_iff_answerIn?.mpr ⟨name, bytes, hEntry, h.read hLoc hRead, hAnswer⟩

/-- Where the files of keys are depends on the working directory alone. -/
theorem Unshared.of_home (h : c.Unshared t keys) (hHome : t'.home = t.home) :
    c.Unshared t' keys := by
  refine ⟨h.names, fun k hk name hEntry => ?_, fun k hk name hEntry k' hk' hNe => ?_⟩
  · rw [FileTree.location_of_home hHome, FileTree.location_of_home hHome]
    exact h.inside k hk name hEntry
  · rw [FileTree.location_of_home hHome, FileTree.location_of_home hHome]
    exact h.apart k hk name hEntry k' hk' hNe

/-- Where the manifest names for each key the file that is its own, it is enough that
no two of the keys have the same one. -/
theorem unshared_of_own (t : FileTree)
    (hNames : ∀ k ∈ keys, ∀ k' ∈ keys, k.artifactName = k'.artifactName → k = k')
    (hOwn : ∀ k ∈ keys, ∀ name, Assoc.get? k.text c.entries = some name → name = k.artifactName) :
    c.Unshared t keys := by
  refine ⟨hNames, fun k hk name hEntry => ?_, fun k hk name hEntry k' hk' hNe hLoc => ?_⟩
  · rw [hOwn k hk name hEntry, FileTree.location_join t _ k.plain_artifactName]
    exact List.prefix_append _ _
  · rw [hOwn k hk name hEntry, FileTree.location_join t _ k.plain_artifactName] at hLoc
    have hName := List.append_cancel_left hLoc
    simp only [List.cons.injEq, and_true] at hName
    exact hNe (hNames k' hk' k hk hName.symm)

/-- Entering one of the keys leaves their files unshared. -/
theorem Unshared.enter (h : c.Unshared t keys) (hMem : key ∈ keys) :
    (c.enter key).Unshared t keys := by
  have hFile : t.location ((c.enter key).artifacts.join key.artifactName) =
      t.location c.artifacts ++ [key.artifactName] := location_file c t key
  refine ⟨h.names, fun k hk name hEntry => ?_, fun k hk name hEntry k' hk' hNe => ?_⟩
  · rw [enter_entries, Assoc.get?_set] at hEntry
    split at hEntry
    · obtain rfl := Option.some.inj hEntry
      exact ⟨[key.artifactName], hFile.symm⟩
    · exact h.inside k hk name hEntry
  · rw [enter_entries, Assoc.get?_set] at hEntry
    split at hEntry
    · rename_i hText
      obtain rfl := CacheKey.text_injective hText
      obtain rfl := Option.some.inj hEntry
      intro hSame
      have hLoc : t.location c.artifacts ++ [k.artifactName] =
          t.location c.artifacts ++ [k'.artifactName] := hFile.symm.trans hSame
      have hName : k.artifactName = k'.artifactName := by simpa using hLoc
      exact hNe (h.names k hk k' hk' hName).symm
    · exact h.apart k hk name hEntry k' hk' hNe

/-- Keeping an answer of one of the keys leaves their files unshared. -/
theorem Unshared.put (h : c.Unshared t keys) (hMem : key ∈ keys) (answer : Json) :
    (c.put t key answer).2.1.Unshared (c.put t key answer).2.2 keys := by
  refine Unshared.of_home ?_ (put_alters c t key answer).home
  have hCases := kept c t key answer
  generalize c.put t key answer = result at hCases ⊢
  cases hCases with
  | unwritten => exact h
  | written => exact h.enter hMem

/-- An answer of another key does not take the place of one that is found. -/
theorem get?_put_other (hKeys : c.Unshared t keys) (hMem : key ∈ keys) (hOther : other ∈ keys)
    (hNe : other ≠ key) (answer : Json) (hFound : (c.get? t key).1 = some found) :
    ((c.put t other answer).2.1.get? (c.put t other answer).2.2 key).1 = some found := by
  obtain ⟨name, bytes, hEntry, hRead, hAnswer⟩ := get?_eq_some_iff_answerIn?.mp hFound
  have hLoc : ¬ c.Writes t other (t.location (c.artifacts.join name)) := by
    rintro (hFile | hManifest)
    · exact hKeys.apart key hMem name hEntry other hOther hNe hFile
    · exact manifest_not_below c t (hManifest ▸ hKeys.inside key hMem name hEntry)
  have hRead' := (put_alters c t other answer).touches.read hLoc hRead
  refine get?_eq_some_iff_answerIn?.mpr ⟨name, bytes, ?_, ?_, hAnswer⟩
  · have hCases := kept c t other answer
    generalize c.put t other answer = result at hCases ⊢
    cases hCases with
    | unwritten => exact hEntry
    | written =>
        have hText : key.text ≠ other.text := fun hSame =>
          hNe (CacheKey.text_injective hSame).symm
        rw [enter_entries, Assoc.get?_set, if_neg hText, hEntry]
  · rw [artifacts, put_directory]
    exact hRead'

/-- The answer was read from text, and it and the key are no longer than a text
in memory can be. -/
structure Lasting (key : CacheKey) (answer : Json) : Prop where
  read : ∃ s, Json.parse? s = some answer
  fits : Artifact.Fits ⟨key.text, answer.render⟩

/-- An answer that was kept is found. -/
theorem get?_put_same (hLasting : Lasting key answer)
    (hPut : c.put t key answer = (.ok (), c', t')) : (c'.get? t' key).1 = some answer := by
  have hEntry := put_entry hPut
  have hFile := put_file_same hPut
  obtain ⟨_, _, rfl, _⟩ := put_eq_ok hPut
  obtain ⟨s, hText⟩ := hLasting.read
  have hAnswer := answerIn?_record hLasting.fits []
  rw [List.append_nil, Json.parse?_render_again hText] at hAnswer
  exact get?_eq_some_iff_answerIn?.mpr ⟨_, _, hEntry, hFile, hAnswer⟩

/-! ### Opening again -/

/-- Opening the directory of the cache gives this cache and changes nothing. -/
def Opens (c : DiskCache) (t : FileTree) : Prop :=
  ∃ notes, load t c.directory = (.ok c, t, notes)

/-- A cache that was opened opens as itself. -/
theorem opens_of_load {directory : Path} {notes : List Note}
    (h : load t directory = (.ok c, t', notes)) : c.Opens t' :=
  ⟨notes, load_again h⟩

/-- The directory of the answers of such a cache is there. -/
theorem Opens.isDirectory (h : c.Opens t) : t.isDirectory c.artifacts = true := by
  obtain ⟨notes, hLoad⟩ := h
  exact load_artifacts hLoad

/-- Such a cache has each key once. -/
theorem Opens.nodup (h : c.Opens t) : (Assoc.keys c.entries).Nodup := by
  obtain ⟨notes, hLoad⟩ := h
  exact load_nodup hLoad

/-- A cache with one more answer still opens as itself. -/
theorem Opens.put (h : c.Opens t) (hPut : c.put t key answer = (.ok (), c', t')) :
    c'.Opens t' := by
  have hDir := put_artifacts hPut h.isDirectory
  have hManifest := put_manifest hPut
  obtain ⟨_, _, rfl, _⟩ := put_eq_ok hPut
  exact ⟨[], load_manifest hDir hManifest (Assoc.nodup_keys_set h.nodup _ _)⟩

/-- What leaves the manifest alone does not matter to opening the cache. -/
theorem Opens.of_alters (h : c.Opens t) (hAlters : FileTree.Alters S t t')
    (hOut : ¬ S (t.location c.directory ++ ["manifest.json"])) : c.Opens t' := by
  obtain ⟨notes, hLoad⟩ := h
  have hDir := load_artifacts hLoad
  have hDir' := hAlters.toKeepsDirectories.isDirectory plain_artifacts hDir
  have hWalks := FileTree.walks_parent plain_artifacts hDir
  have hStat := hAlters.stat_join plain_manifest hWalks hOut
  exact ⟨notes, load_of_stat hLoad hDir' hStat⟩

end DiskCache

namespace Cache

variable {cache : Cache} {t t' : FileTree} {key other : CacheKey} {answer found : Json}
variable {keys : List CacheKey} {S : Location → Prop} {root : Path}

/-- A cache on disk keeps answers in its directory. -/
theorem put_disk [o : Manifest.Order] (c : DiskCache) (t : FileTree) (key : CacheKey) (answer : Json) :
    (disk c).put t key answer =
      ((c.put t key answer).1, disk (c.put t key answer).2.1, (c.put t key answer).2.2) := by
  rw [Cache.put]

/-! ### Where a cache writes -/

/-- Where an answer of the key is written. A cache in memory writes nothing. -/
def Writes (t : FileTree) (key : CacheKey) : Cache → Location → Prop
  | memory _, _ => False
  | disk c, loc => c.Writes t key loc

/-- Keeping an answer alters nothing but what the cache writes for it. -/
theorem put_alters [o : Manifest.Order] (cache : Cache) (t : FileTree) (key : CacheKey) (answer : Json) :
    FileTree.Alters (cache.Writes t key) t (cache.put t key answer).2.2 := by
  cases cache with
  | memory answers => exact FileTree.Alters.refl t
  | disk c =>
      simp only [put_disk]
      exact c.put_alters t key answer

/-- The location is in the directory of the cache. A cache in memory has none. -/
def Inside (t : FileTree) : Cache → Location → Prop
  | memory _, _ => False
  | disk c, loc => t.location c.directory <+: loc

/-- A cache writes inside of its directory. -/
theorem Writes.inside {loc : Location} (h : cache.Writes t key loc) : cache.Inside t loc := by
  cases cache with
  | memory answers => exact h.elim
  | disk c =>
      rcases h with rfl | rfl
      · rw [DiskCache.location_artifacts]
        exact (List.prefix_append _ _).trans (List.prefix_append _ _)
      · exact List.prefix_append _ _

/-- What is inside of the directory depends on the working directory alone. -/
theorem inside_of_home (hHome : t'.home = t.home) {loc : Location} :
    cache.Inside t' loc ↔ cache.Inside t loc := by
  cases cache with
  | memory answers => exact Iff.rfl
  | disk c =>
      rw [Inside, Inside, FileTree.location_of_home hHome]

/-- Keeping an answer does not move the directory. -/
theorem inside_put (cache : Cache) (t : FileTree) (key : CacheKey) (answer : Json) {loc : Location} :
    (cache.put t key answer).2.1.Inside (cache.put t key answer).2.2 loc ↔ cache.Inside t loc := by
  rw [inside_of_home (put_alters cache t key answer).home]
  cases cache with
  | memory answers => exact Iff.rfl
  | disk c =>
      rw [put_disk, Inside, Inside, DiskCache.put_directory]

/-- Nothing is both in the directory of the cache and below the path: neither of
them is inside the other. -/
def Apart (cache : Cache) (t : FileTree) (root : Path) : Prop :=
  ∀ loc, cache.Inside t loc → ¬ t.location root <+: loc

theorem Apart.of_home (h : cache.Apart t root) (hHome : t'.home = t.home) :
    cache.Apart t' root := by
  intro loc hInside
  rw [FileTree.location_of_home hHome]
  exact h loc ((inside_of_home hHome).mp hInside)

/-- Keeping an answer leaves the directories apart. -/
theorem Apart.put (h : cache.Apart t root) (key : CacheKey) (answer : Json) :
    (cache.put t key answer).2.1.Apart (cache.put t key answer).2.2 root := by
  intro loc hInside
  rw [FileTree.location_of_home (put_alters cache t key answer).home]
  exact h loc ((inside_put cache t key answer).mp hInside)

/-- Two directories are apart if neither is in the other. -/
theorem apart_disk {c : DiskCache} (hOutside : ¬ t.location c.directory <+: t.location root)
    (hAround : ¬ t.location root <+: t.location c.directory) : (disk c).Apart t root := by
  intro loc hInside hBelow
  rcases List.prefix_or_prefix_of_prefix hInside hBelow with hPrefix | hPrefix
  · exact hOutside hPrefix
  · exact hAround hPrefix

/-! ### Answers that are found again -/

/-- No two of the keys share a file. In memory there are no files. -/
def Unshared (t : FileTree) (keys : List CacheKey) : Cache → Prop
  | memory _ => True
  | disk c => c.Unshared t keys

theorem Unshared.of_home (h : cache.Unshared t keys) (hHome : t'.home = t.home) :
    cache.Unshared t' keys := by
  cases cache with
  | memory answers => trivial
  | disk c => exact DiskCache.Unshared.of_home h hHome

theorem Unshared.put (h : cache.Unshared t keys) (hMem : key ∈ keys) (answer : Json) :
    (cache.put t key answer).2.1.Unshared (cache.put t key answer).2.2 keys := by
  cases cache with
  | memory answers => trivial
  | disk c =>
      simp only [put_disk]
      exact DiskCache.Unshared.put h hMem answer

/-- The cache gives the answer back as it is. In memory it is not written as text. -/
def Lasting (key : CacheKey) (answer : Json) : Cache → Prop
  | memory _ => True
  | disk _ => DiskCache.Lasting key answer

/-- Keeping an answer does not matter to which answers last. -/
theorem lasting_put (cache : Cache) (t : FileTree) (other : CacheKey) (kept : Json) :
    (cache.put t other kept).2.1.Lasting key answer ↔ cache.Lasting key answer := by
  cases cache with
  | memory answers => exact Iff.rfl
  | disk c => simp only [put_disk, Lasting]

theorem get?_put_same (hLasting : cache.Lasting key answer)
    (hPut : (cache.put t key answer).1 = .ok ()) :
    ((cache.put t key answer).2.1.get? (cache.put t key answer).2.2 key).1 = some answer := by
  cases cache with
  | memory answers => simp [Cache.put, Cache.get?, Assoc.get?_set]
  | disk c =>
      rw [put_disk] at hPut ⊢
      rcases hResult : c.put t key answer with ⟨done, c', t'⟩
      rw [hResult] at hPut
      obtain rfl : done = .ok () := hPut
      exact DiskCache.get?_put_same hLasting hResult

/-- An answer of another key does not take the place of one that is found. -/
theorem get?_put_other (hKeys : cache.Unshared t keys) (hMem : key ∈ keys) (hOther : other ∈ keys)
    (hNe : other ≠ key) (answer : Json) (hFound : (cache.get? t key).1 = some found) :
    ((cache.put t other answer).2.1.get? (cache.put t other answer).2.2 key).1 = some found := by
  cases cache with
  | memory answers =>
      rw [Cache.put, Cache.get?, Assoc.get?_set, if_neg hNe.symm]
      exact hFound
  | disk c =>
      simp only [put_disk]
      exact DiskCache.get?_put_other hKeys hMem hOther hNe answer hFound

/-- What does not touch the directory of the cache leaves its answers as they are. -/
theorem get?_of_touches (h : FileTree.Touches S t t') (hOut : ∀ loc, cache.Inside t loc → ¬ S loc)
    (hKeys : cache.Unshared t keys) (hMem : key ∈ keys) (hFound : (cache.get? t key).1 = some found) :
    (cache.get? t' key).1 = some found := by
  cases cache with
  | memory answers => exact hFound
  | disk c =>
      refine DiskCache.get?_of_touches h (fun loc hLoc => hOut loc ?_) hKeys hMem hFound
      rw [DiskCache.location_artifacts] at hLoc
      exact (List.prefix_append _ _).trans hLoc

/-! ### Opening again -/

/-- Opening the directory of the cache gives this cache and changes nothing. A
cache in memory is not opened. -/
def Opens (t : FileTree) : Cache → Prop
  | memory _ => True
  | disk c => c.Opens t

theorem Opens.put (h : cache.Opens t) (hPut : (cache.put t key answer).1 = .ok ()) :
    (cache.put t key answer).2.1.Opens (cache.put t key answer).2.2 := by
  cases cache with
  | memory answers => trivial
  | disk c =>
      rw [put_disk] at hPut ⊢
      rcases hResult : c.put t key answer with ⟨done, c', t'⟩
      rw [hResult] at hPut
      obtain rfl : done = .ok () := hPut
      exact DiskCache.Opens.put h hResult

/-- What happens outside of the directory does not matter to opening the cache. -/
theorem Opens.of_alters (h : cache.Opens t) (hAlters : FileTree.Alters S t t')
    (hOut : ∀ loc, cache.Inside t loc → ¬ S loc) : cache.Opens t' := by
  cases cache with
  | memory answers => trivial
  | disk c =>
      exact DiskCache.Opens.of_alters h hAlters (hOut _ (List.prefix_append _ _))

end Cache

end LockTriage
