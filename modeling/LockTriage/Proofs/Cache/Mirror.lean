import LockTriage.Proofs.Cache.Own

/-!
A cache directory beside a cache in memory. While both are given the same answers, and the
files can be written, a key that has a file of its own is found in both with the same
answer or is new to both.
-/

namespace LockTriage.DiskCache

variable {c c' : DiskCache} {t t' : FileTree} {key : CacheKey} {answer : Json}
variable {keys : List CacheKey} {known : List (CacheKey × Json)} {S : Location → Prop}

/-- There is nothing to note about an answer that is found. -/
theorem get?_of_found (h : (c.get? t key).1 = some answer) : c.get? t key = (some answer, []) := by
  obtain ⟨name, bytes, hEntry, hRead, hAnswer⟩ := get?_eq_some_iff_answerIn?.mp h
  rw [answerIn?, Option.bind_eq_some_iff] at hAnswer
  obtain ⟨artifact, hDecode, hBody⟩ := hAnswer
  split_ifs at hBody with hKey
  simp [get?, hEntry, hRead, hDecode, hKey, hBody]

/-- A file of a cache directory could not be written: the manifest, or the file of one of
the keys. -/
def WriteError (directory : Path) (keys : List CacheKey) (e : ScanError) : Prop :=
  ∃ path fault, e = .file path fault ∧
    (path = manifest ⟨directory, []⟩ ∨ ∃ key ∈ keys, path = file ⟨directory, []⟩ key)

theorem writeError_of_put {e : ScanError} (hMem : key ∈ keys)
    (h : c.put t key answer = (.error e, c', t')) : WriteError c.directory keys e := by
  obtain ⟨path, fault, hError, hPath⟩ := put_eq_error h
  refine ⟨path, fault, hError, hPath.symm.imp id fun hFile => ⟨key, hMem, ?_⟩⟩
  rw [hFile, file, file, artifacts, artifacts]

/-- The cache directory has for each of the keys what is known in memory, and its manifest
names none of them that is not known. -/
structure Mirrors (c : DiskCache) (t : FileTree) (keys : List CacheKey)
    (known : List (CacheKey × Json)) : Prop where
  owns : c.Owns keys
  stands : c.Stands t
  answers : ∀ k ∈ keys, (c.get? t k).1 = Assoc.get? k known
  unnamed : ∀ k ∈ keys, Assoc.get? k known = none → Assoc.get? k.text c.entries = none

/-- The answers are the same, and there is nothing to note about them. -/
theorem Mirrors.get? (h : c.Mirrors t keys known) (hMem : key ∈ keys) :
    c.get? t key = (Assoc.get? key known, []) := by
  cases hKnown : Assoc.get? key known with
  | some answer => exact get?_of_found ((h.answers key hMem).trans hKnown)
  | none => rw [DiskCache.get?, h.unnamed key hMem hKnown]

/-- An empty cache directory has nothing, as an empty memory. -/
theorem mirrors_empty {directory : Path} (hStands : Stands ⟨directory, []⟩ t)
    (hNames : ∀ k ∈ keys, ∀ k' ∈ keys, k.artifactName = k'.artifactName → k = k') :
    Mirrors ⟨directory, []⟩ t keys [] := by
  refine ⟨⟨hNames, ?_, ?_⟩, hStands, fun _ _ => rfl, fun _ _ _ => rfl⟩
  · intro k _ name hName
    cases hName
  · intro k _ name hName
    cases hName

/-- What touches no file among the artifacts changes no answer. -/
theorem Mirrors.of_touches (h : c.Mirrors t keys known) (hTouches : FileTree.Touches S t t')
    (hOut : ∀ name, Path.Plain name → ¬ S (t.location c.artifacts ++ [name])) :
    c.Mirrors t' keys known :=
  ⟨h.owns, h.stands.keep hTouches.toKeepsDirectories,
    fun k hk => (get?_eq_of_touches h.owns h.stands hk hTouches hOut).trans (h.answers k hk), h.unnamed⟩

/-- An answer that is kept in the directory and in memory is found in both. -/
theorem Mirrors.put (h : c.Mirrors t keys known) (hMem : key ∈ keys) (hLasting : Lasting key answer)
    (hPut : c.put t key answer = (.ok (), c', t')) :
    c'.Mirrors t' keys (Assoc.set key answer known) := by
  have hOwns := h.owns.put hMem t answer
  have hStands := h.stands.put key answer
  have hOther : ∀ k ∈ keys, key ≠ k → (c'.get? t' k).1 = (c.get? t k).1 := by
    intro k hk hNe
    have hSame := get?_put_of_ne h.owns h.stands hk hMem hNe answer
    rwa [hPut] at hSame
  have hEntries : c'.entries = Assoc.set key.text key.artifactName c.entries := by
    obtain ⟨_, _, rfl, _⟩ := put_eq_ok hPut
    rfl
  rw [hPut] at hOwns hStands
  refine ⟨hOwns, hStands, fun k hk => ?_, fun k hk hUnknown => ?_⟩
  · rw [Assoc.get?_set]
    split_ifs with hSame
    · subst hSame
      exact get?_put_same hLasting hPut
    · rw [hOther k hk (Ne.symm hSame), h.answers k hk]
  · rw [Assoc.get?_set] at hUnknown
    split_ifs at hUnknown with hSame
    rw [hEntries, Assoc.get?_set, if_neg fun hText => hSame (CacheKey.text_injective hText)]
    exact h.unnamed k hk hUnknown

end LockTriage.DiskCache
