import LockTriage.Proofs.Cache.Lasting

/-!
What a cache answers for keys that have files of their own: exactly what it answered
before, whatever was kept for other keys and whatever changed outside those files.
This holds for misses as for answers.
-/

namespace LockTriage

/-- A file elsewhere than where a tree was touched is still the same. -/
theorem FileTree.Touches.file? {S : Location → Prop} {t t' : FileTree} {p : Path} {name : String}
    (h : Touches S t t') (hLoc : ¬ S (t.location p ++ [name])) : t'.file? p name = t.file? p name := by
  rw [FileTree.file?, FileTree.file?, location_of_home h.home, h.content _ hLoc]

/-- Where a directory can be walked, what is read under a name is the file that it lists. -/
theorem FileTree.read_iff_file? {t : FileTree} {p : Path} {name : String} {content : Bytes}
    (hName : Path.Plain name) (hWalks : t.Walks p) :
    t.read (p.join name) = .ok content ↔ t.file? p name = some content := by
  refine ⟨file?_of_read hName, fun h => ?_⟩
  unfold FileTree.file? at h
  split at h
  · rename_i hAdmits
    exact (read_join_iff hName).mpr
      ⟨(place_join_iff hName).mpr ⟨hAdmits, hWalks⟩, content?_eq_some_iff.mp h⟩
  · cases h

namespace DiskCache

variable {c : DiskCache} {t t' : FileTree} {key other : CacheKey} {answer : Json}
variable {keys : List CacheKey} {S : Location → Prop}

/-- Each of the keys has a file of its own: what the manifest names for it is a file
among the artifacts, and not the one that would hold an answer of another key. -/
structure Owns (c : DiskCache) (keys : List CacheKey) : Prop where
  names : ∀ k ∈ keys, ∀ k' ∈ keys, k.artifactName = k'.artifactName → k = k'
  plain : ∀ k ∈ keys, ∀ name, Assoc.get? k.text c.entries = some name → Path.Plain name
  apart : ∀ k ∈ keys, ∀ name, Assoc.get? k.text c.entries = some name →
    ∀ k' ∈ keys, k' ≠ k → name ≠ k'.artifactName

/-- The directory of the artifacts is there. -/
def Stands (c : DiskCache) (t : FileTree) : Prop := t.isDirectory c.artifacts = true

theorem Stands.walks (h : c.Stands t) : t.Walks c.artifacts :=
  FileTree.walks_of_isDirectory plain_artifacts h

/-- A cache stands as long as no directory is lost. -/
theorem Stands.keep (h : c.Stands t) (hKeeps : FileTree.KeepsDirectories t t') : c.Stands t' :=
  hKeeps.isDirectory plain_artifacts h

/-- A cache still stands after an answer was put. -/
theorem Stands.put (h : c.Stands t) (key : CacheKey) (answer : Json) :
    (c.put t key answer).2.1.Stands (c.put t key answer).2.2 := by
  rw [Stands, artifacts, put_directory]
  exact h.keep (put_alters c t key answer).toKeepsDirectories

/-- A cache that owns its keys still does when one of them is put. -/
theorem Owns.put (h : c.Owns keys) (hMem : key ∈ keys) (t : FileTree) (answer : Json) :
    (c.put t key answer).2.1.Owns keys := by
  have hCases := kept c t key answer
  generalize c.put t key answer = result at hCases ⊢
  cases hCases with
  | unwritten => exact h
  | written =>
      have hEntry {k : CacheKey} {name : String}
          (hName : Assoc.get? k.text (c.enter key).entries = some name) :
          k = key ∧ name = key.artifactName ∨ Assoc.get? k.text c.entries = some name := by
        rw [enter_entries, Assoc.get?_set] at hName
        split at hName
        · exact .inl ⟨CacheKey.text_injective ‹_›, (Option.some.inj hName).symm⟩
        · exact .inr hName
      refine ⟨h.names, fun k hk name hName => ?_, fun k hk name hName k' hk' hNe => ?_⟩
      · rcases hEntry hName with ⟨_, rfl⟩ | hOld
        · exact key.plain_artifactName
        · exact h.plain k hk name hOld
      · rcases hEntry hName with ⟨rfl, rfl⟩ | hOld
        · exact fun hSame => hNe (h.names k' hk' k hk hSame.symm)
        · exact h.apart k hk name hOld k' hk' hNe

/-! ### Answers and misses -/

/-- A key is answered from the file that the manifest names for it, and a miss if that
file is missing or holds no answer of the key. -/
theorem get?_eq_file? (hStands : c.Stands t)
    (hPlain : ∀ name, Assoc.get? key.text c.entries = some name → Path.Plain name) :
    (c.get? t key).1 = (Assoc.get? key.text c.entries).bind fun name =>
      (t.file? c.artifacts name).bind (answerIn? key) := by
  cases hEntry : Assoc.get? key.text c.entries with
  | none => exact get?_of_no_entry hEntry
  | some name =>
      have hRead {content : Bytes} : t.read (c.artifacts.join name) = .ok content ↔
          t.file? c.artifacts name = some content :=
        FileTree.read_iff_file? (hPlain name hEntry) hStands.walks
      rw [Option.bind_some]
      cases hFile : t.read (c.artifacts.join name) with
      | ok bytes => rw [get?_of_entry hEntry hFile, hRead.mp hFile, Option.bind_some]
      | error fault =>
          have hNone : t.file? c.artifacts name = none := by
            rw [Option.eq_none_iff_forall_ne_some]
            intro bytes hSome
            rw [hRead.mpr hSome] at hFile
            cases hFile
          rw [get?_of_unreadable hEntry hFile, hNone, Option.bind_none]

/-- What touches none of the files of the keys leaves answers and misses as they are. -/
theorem get?_eq_of_touches (hOwns : c.Owns keys) (hStands : c.Stands t) (hMem : key ∈ keys)
    (h : FileTree.Touches S t t') (hOut : ∀ name, Path.Plain name → ¬ S (t.location c.artifacts ++ [name])) :
    (c.get? t' key).1 = (c.get? t key).1 := by
  have hPlain := hOwns.plain key hMem
  rw [get?_eq_file? (hStands.keep h.toKeepsDirectories) hPlain, get?_eq_file? hStands hPlain]
  cases hEntry : Assoc.get? key.text c.entries with
  | none => rfl
  | some name => rw [Option.bind_some, Option.bind_some, h.file? (hOut name (hPlain name hEntry))]

/-- What is kept for another key leaves answers and misses as they are. -/
theorem get?_put_of_ne (hOwns : c.Owns keys) (hStands : c.Stands t) (hMem : key ∈ keys)
    (hOther : other ∈ keys) (hNe : other ≠ key) (answer : Json) :
    ((c.put t other answer).2.1.get? (c.put t other answer).2.2 key).1 = (c.get? t key).1 := by
  have hEntries : Assoc.get? key.text (c.put t other answer).2.1.entries =
      Assoc.get? key.text c.entries := by
    have hCases := kept c t other answer
    generalize c.put t other answer = result at hCases ⊢
    cases hCases with
    | unwritten => rfl
    | written =>
        rw [enter_entries, Assoc.get?_set, if_neg fun hText => hNe (CacheKey.text_injective hText).symm]
  have hStands' := hStands.put other answer
  have hOwns' := hOwns.put hOther t answer
  have hDirectory := put_directory c t other answer
  have hTouches := (put_alters c t other answer).touches
  generalize c.put t other answer = result at *
  obtain ⟨done, c', t'⟩ := result
  have hArtifacts : c'.artifacts = c.artifacts := congrArg (Path.join · "artifacts") hDirectory
  rw [get?_eq_file? hStands' (hOwns'.plain key hMem), get?_eq_file? hStands (hOwns.plain key hMem),
    hEntries, hArtifacts]
  cases hEntry : Assoc.get? key.text c.entries with
  | none => rfl
  | some name =>
      rw [Option.bind_some, Option.bind_some, hTouches.file?]
      rintro (hFile | hManifest)
      · exact hOwns.apart key hMem name hEntry other hOther hNe (by simpa using hFile)
      · exact file_ne_manifest c t name hManifest

/-- What is kept for a key is found unless it could not be written, even if the
manifest could not be. -/
theorem get?_put_self (hLasting : Lasting key answer) :
    (c.put t key answer).2 = (c, t) ∨
      ((c.put t key answer).2.1.get? (c.put t key answer).2.2 key).1 = some answer := by
  have hCases := kept c t key answer
  generalize c.put t key answer = result at hCases ⊢
  cases hCases with
  | unwritten => exact .inl rfl
  | @written middle hWrite =>
      right
      obtain ⟨s, hText⟩ := hLasting.read
      have hAnswer := answerIn?_record hLasting.fits []
      rw [List.append_nil, Json.parse?_render_again hText] at hAnswer
      have hFile := FileTree.read_write_same key.plain_artifactName hWrite
      refine get?_eq_some_iff_answerIn?.mpr ⟨key.artifactName, record key answer, ?_, ?_, hAnswer⟩
      · rw [enter_entries, Assoc.get?_set, if_pos rfl]
      · -- The manifest is written after the file and stands at another location.
        have hLoc : middle.location (c.file key) ≠ middle.location c.directory ++ ["manifest.json"] := by
          rw [location_file]
          exact file_ne_manifest c middle key.artifactName
        exact (flush_alters (c.enter key) middle).touches.read hLoc hFile

end DiskCache

namespace Cache

variable {cache : Cache} {t t' : FileTree} {key other : CacheKey} {answer : Json}
variable {keys : List CacheKey} {S : Location → Prop}

/-- Each of the keys has a file of its own. In memory there are no files. -/
def Owns (keys : List CacheKey) : Cache → Prop
  | memory _ => True
  | disk c => c.Owns keys

/-- The directory of the cache is there, if it has one. -/
def Stands (t : FileTree) : Cache → Prop
  | memory _ => True
  | disk c => c.Stands t

/-- A cache stands from the moment when it is opened. -/
theorem Opens.stands (h : cache.Opens t) : cache.Stands t := by
  cases cache with
  | memory answers => trivial
  | disk c => exact DiskCache.Opens.isDirectory h

theorem Stands.keep (h : cache.Stands t) (hKeeps : FileTree.KeepsDirectories t t') :
    cache.Stands t' := by
  cases cache with
  | memory answers => trivial
  | disk c => exact DiskCache.Stands.keep h hKeeps

theorem Stands.put (h : cache.Stands t) (key : CacheKey) (answer : Json) :
    (cache.put t key answer).2.1.Stands (cache.put t key answer).2.2 := by
  cases cache with
  | memory answers => trivial
  | disk c =>
      simp only [put_disk]
      exact DiskCache.Stands.put h key answer

theorem Owns.put (h : cache.Owns keys) (hMem : key ∈ keys) (t : FileTree) (answer : Json) :
    (cache.put t key answer).2.1.Owns keys := by
  cases cache with
  | memory answers => trivial
  | disk c =>
      simp only [put_disk]
      exact DiskCache.Owns.put h hMem t answer

/-- What is touched away from all artifacts has no effect on what a cache answers. -/
theorem get?_eq_of_touches (hOwns : cache.Owns keys) (hStands : cache.Stands t) (hMem : key ∈ keys)
    (h : FileTree.Touches S t t')
    (hOut : ∀ directory : Path, ∀ name, Path.Plain name →
      ¬ S (t.location directory ++ ["artifacts", name])) :
    (cache.get? t' key).1 = (cache.get? t key).1 := by
  cases cache with
  | memory answers => rfl
  | disk c =>
      refine DiskCache.get?_eq_of_touches hOwns hStands hMem h fun name hName => ?_
      rw [DiskCache.location_artifacts, List.append_assoc]
      exact hOut c.directory name hName

/-- Putting an answer has no effect on what the cache answers for another of its keys. -/
theorem get?_put_of_ne (hOwns : cache.Owns keys) (hStands : cache.Stands t) (hMem : key ∈ keys)
    (hOther : other ∈ keys) (hNe : other ≠ key) (answer : Json) :
    ((cache.put t other answer).2.1.get? (cache.put t other answer).2.2 key).1 =
      (cache.get? t key).1 := by
  cases cache with
  | memory answers =>
      rw [Cache.put, Cache.get?, Assoc.get?_set, if_neg hNe.symm]
      rfl
  | disk c =>
      simp only [put_disk]
      exact DiskCache.get?_put_of_ne hOwns hStands hMem hOther hNe answer

/-- Putting a lasting answer changes nothing at all, or the cache gives it from then on. -/
theorem get?_put_self (hLasting : cache.Lasting key answer) :
    (cache.put t key answer).2 = (cache, t) ∨
      ((cache.put t key answer).2.1.get? (cache.put t key answer).2.2 key).1 = some answer := by
  cases cache with
  | memory answers => exact .inr (by simp [Cache.put, Cache.get?, Assoc.get?_set])
  | disk c =>
      simp only [put_disk]
      rcases DiskCache.get?_put_self (t := t) hLasting with hSame | hFound
      · left
        rw [hSame]
      · exact .inr hFound

end Cache

end LockTriage
