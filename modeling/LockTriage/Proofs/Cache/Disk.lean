import LockTriage.Cache.Disk
import LockTriage.Proofs.Cache.Artifact
import LockTriage.Proofs.Cache.Key
import LockTriage.Proofs.Cache.Manifest
import LockTriage.Proofs.Files.Frame

/-!
What each operation of a cache directory does, when it succeeds, to the cache in
memory and to the files. Answers and the manifest stand at different locations,
so writing one of them leaves the others as they are.
-/

namespace LockTriage.DiskCache

variable {c c' : DiskCache} {t t' : FileTree} {key : CacheKey} {answer : Json} {name : String}

theorem plain_artifacts : Path.Plain "artifacts" :=
  ⟨by decide, by decide, by decide, by decide⟩

theorem plain_manifest : Path.Plain "manifest.json" :=
  ⟨by decide, by decide, by decide, by decide⟩

/-- The bytes that are kept for an answer. -/
def record (key : CacheKey) (answer : Json) : Bytes := Artifact.encode ⟨key.text, answer.render⟩

/-- The file of a key. -/
def file (c : DiskCache) (key : CacheKey) : Path := c.artifacts.join key.artifactName

/-- The files of answers and the manifest stand at different locations. -/
theorem file_ne_manifest (c : DiskCache) (t : FileTree) (name : String) :
    t.location c.artifacts ++ [name] ≠ t.location c.directory ++ ["manifest.json"] := by
  rw [artifacts, FileTree.location_join t _ plain_artifacts]
  intro hSame
  have hLength := congrArg List.length hSame
  simp at hLength

/-! ### Reading answers -/

/-- What the bytes of a file say about a key. -/
def answerIn? (key : CacheKey) (bytes : Bytes) : Option Json :=
  (Artifact.decode? bytes).bind fun artifact =>
    if artifact.key = key.text then Json.parse? artifact.body else none

/-- A key that the manifest names is answered from its file alone. -/
theorem get?_of_entry (hEntry : Assoc.get? key.text c.entries = some name) {bytes : Bytes}
    (hRead : t.read (c.artifacts.join name) = .ok bytes) :
    (c.get? t key).1 = answerIn? key bytes := by
  unfold get? answerIn?
  cases hDecode : Artifact.decode? bytes with
  | none => simp [hEntry, hRead, hDecode]
  | some artifact =>
      by_cases hKey : artifact.key = key.text
      · cases hBody : Json.parse? artifact.body <;> simp [hEntry, hRead, hDecode, hKey, hBody]
      · simp [hEntry, hRead, hDecode, hKey]

/-- A key that the manifest does not name is a miss. -/
theorem get?_of_no_entry (hEntry : Assoc.get? key.text c.entries = none) :
    (c.get? t key).1 = none := by
  rw [get?, hEntry]

/-- A key whose file cannot be read is a miss. -/
theorem get?_of_unreadable {fault : Fault} (hEntry : Assoc.get? key.text c.entries = some name)
    (hRead : t.read (c.artifacts.join name) = .error fault) : (c.get? t key).1 = none := by
  simp [get?, hEntry, hRead]

/-- Bytes answer a key if they hold an artifact of it whose body can be read. -/
theorem answerIn?_eq_some_iff {bytes : Bytes} :
    answerIn? key bytes = some answer ↔
      ∃ artifact, Artifact.Holds bytes artifact ∧ artifact.key = key.text ∧
        Json.parse? artifact.body = some answer := by
  simp only [answerIn?, Option.bind_eq_some_iff, Artifact.decode?_eq_some_iff]
  constructor
  · rintro ⟨artifact, hHolds, hAnswer⟩
    split at hAnswer
    · exact ⟨artifact, hHolds, ‹_›, hAnswer⟩
    · cases hAnswer
  · rintro ⟨artifact, hHolds, hKey, hAnswer⟩
    exact ⟨artifact, hHolds, by rw [if_pos hKey, hAnswer]⟩

/-- What is kept for a key answers it, whatever follows. -/
theorem answerIn?_record (hFits : Artifact.Fits ⟨key.text, answer.render⟩) (more : Bytes) :
    answerIn? key (record key answer ++ more) = Json.parse? answer.render := by
  have hDecode := Artifact.decode?_eq_some_iff.mpr (hFits.holds_encode.append more)
  rw [answerIn?, record, hDecode, Option.bind_some, if_pos rfl]

/-- What is kept for one key answers no other. -/
theorem answerIn?_foreign {other : CacheKey} (hOther : other ≠ key)
    (hFits : Artifact.Fits ⟨other.text, answer.render⟩) :
    answerIn? key (record other answer) = none := by
  have hDecode := Artifact.decode?_eq_some_iff.mpr hFits.holds_encode
  have hText : other.text ≠ key.text := fun hSame => hOther (CacheKey.text_injective hSame)
  rw [answerIn?, record, hDecode, Option.bind_some, if_neg hText]

/-- A part of what is kept for a key does not answer it. -/
theorem answerIn?_take (hFits : Artifact.Fits ⟨key.text, answer.render⟩) {count : Nat}
    (hPart : count < (record key answer).length) :
    answerIn? key ((record key answer).take count) = none := by
  rw [record, Artifact.length_encode] at hPart
  rw [answerIn?, record, hFits.decode?_take hPart, Option.bind_none]

/-! ### Writing

The entries of the manifest may be written in any order. -/

section Writing

variable [o : Manifest.Order]

/-- The manifest is written as the text of the entries. -/
theorem flush_eq_ok_iff :
    c.flush t = (.ok (), t') ↔
      t.write c.manifest (Bytes.ofText (Manifest.write (o.order c.entries))) = .ok t' := by
  unfold flush
  split
  · rename_i hWrite
    simp [hWrite]
  · rename_i hWrite
    simp [hWrite]

section Flush

variable (hFlush : c.flush t = (.ok (), t'))
include hFlush

/-- The manifest that was written can be read. -/
theorem flush_manifest :
    t'.read c.manifest = .ok (Bytes.ofText (Manifest.write (o.order c.entries))) :=
  FileTree.read_write_same plain_manifest (flush_eq_ok_iff.mp hFlush)

/-- Writing the manifest leaves the directory of the answers. -/
theorem flush_artifacts (h : t.isDirectory c.artifacts = true) :
    t'.isDirectory c.artifacts = true :=
  FileTree.isDirectory_write plain_manifest (flush_eq_ok_iff.mp hFlush) plain_artifacts h

/-- Writing the manifest leaves the files of answers as they are. -/
theorem flush_file (hName : Path.Plain name) {bytes : Bytes}
    (h : t.read (c.artifacts.join name) = .ok bytes) :
    t'.read (c.artifacts.join name) = .ok bytes :=
  FileTree.read_write_other plain_manifest (flush_eq_ok_iff.mp hFlush) hName
    (file_ne_manifest c t name) h

end Flush

/-- An answer that is kept was written to its file and entered, and the manifest
was written after that. -/
theorem put_eq_ok (h : c.put t key answer = (.ok (), c', t')) :
    ∃ middle, t.write (c.file key) (record key answer) = .ok middle ∧
      c' = { c with entries := Assoc.set key.text key.artifactName c.entries } ∧
      c'.flush middle = (.ok (), t') := by
  unfold put at h
  dsimp only at h
  split at h
  · cases h
  · rename_i middle hWrite
    refine ⟨middle, hWrite, ?_⟩
    simp only [Prod.mk.injEq] at h
    obtain ⟨hDone, rfl, rfl⟩ := h
    exact ⟨rfl, Prod.ext hDone rfl⟩

/-- Only the manifest itself can fail to be written. -/
theorem flush_eq_error {e : ScanError} (h : c.flush t = (.error e, t')) :
    ∃ fault, e = .file c.manifest fault := by
  unfold flush at h
  split at h
  · cases h
    exact ⟨_, rfl⟩
  · cases h

/-- An answer is kept, unless its own file or the manifest cannot be written. -/
theorem put_eq_error {e : ScanError} (h : c.put t key answer = (.error e, c', t')) :
    ∃ path fault, e = .file path fault ∧ (path = c.file key ∨ path = c.manifest) := by
  unfold put at h
  dsimp only at h
  split at h
  · obtain ⟨hError, _⟩ := Prod.mk.inj h
    cases hError
    exact ⟨_, _, rfl, .inl rfl⟩
  · obtain ⟨hFlush, _⟩ := Prod.mk.inj h
    obtain ⟨fault, hError⟩ := flush_eq_error (Prod.ext hFlush rfl)
    exact ⟨_, fault, hError, .inr rfl⟩

section Put

variable (hPut : c.put t key answer = (.ok (), c', t'))
include hPut

/-- Keeping an answer leaves the directory of the answers. -/
theorem put_artifacts (h : t.isDirectory c.artifacts = true) :
    t'.isDirectory c.artifacts = true := by
  obtain ⟨middle, hWrite, rfl, hFlush⟩ := put_eq_ok hPut
  have hMiddle : middle.isDirectory c.artifacts = true :=
    FileTree.isDirectory_write key.plain_artifactName hWrite plain_artifacts h
  have hLast := flush_artifacts hFlush hMiddle
  exact hLast

/-- A key that is kept is named by the manifest. -/
theorem put_entry : Assoc.get? key.text c'.entries = some key.artifactName := by
  obtain ⟨_, _, rfl, _⟩ := put_eq_ok hPut
  rw [Assoc.get?_set, if_pos rfl]

/-- The manifest is written with the new entry. -/
theorem put_manifest :
    t'.read c'.manifest = .ok (Bytes.ofText (Manifest.write (o.order c'.entries))) := by
  obtain ⟨_, _, _, hFlush⟩ := put_eq_ok hPut
  exact flush_manifest hFlush

/-- The file of the key holds its answer. -/
theorem put_file_same : t'.read (c.file key) = .ok (record key answer) := by
  obtain ⟨middle, hWrite, rfl, hFlush⟩ := put_eq_ok hPut
  -- The manifest is written after the file and stands at another location.
  have hMiddle := FileTree.read_write_same key.plain_artifactName hWrite
  exact flush_file hFlush key.plain_artifactName hMiddle

/-- The files of other names stay as they are. -/
theorem put_file_other (hName : Path.Plain name) (hOther : name ≠ key.artifactName)
    {bytes : Bytes} (h : t.read (c.artifacts.join name) = .ok bytes) :
    t'.read (c.artifacts.join name) = .ok bytes := by
  obtain ⟨middle, hWrite, rfl, hFlush⟩ := put_eq_ok hPut
  have hMiddle : middle.read (c.artifacts.join name) = .ok bytes := by
    refine FileTree.read_write_other key.plain_artifactName hWrite hName ?_ h
    intro hSame
    exact hOther (by simpa using hSame)
  exact flush_file hFlush hName hMiddle

end Put

/-- A cleared cache has no entries, and an empty manifest beside the directory of
the answers. -/
theorem clear_eq_ok (h : c.clear t = (.ok (), c', t')) :
    c' = { c with entries := [] } ∧ t'.isDirectory c.artifacts = true ∧
      t'.read c'.manifest = .ok (Bytes.ofText (Manifest.write (o.order c'.entries))) := by
  unfold clear at h
  dsimp only at h
  split at h
  · cases h
  · split at h
    · cases h
    · rename_i middle hMade
      simp only [Prod.mk.injEq] at h
      obtain ⟨hDone, rfl, rfl⟩ := h
      have hFlush : ({ c with entries := [] } : DiskCache).flush middle = (.ok (), _) :=
        Prod.ext hDone rfl
      have hMiddle := FileTree.makeDirectories_isDirectory plain_artifacts hMade
      have hLast := flush_artifacts hFlush hMiddle
      exact ⟨rfl, hLast, flush_manifest hFlush⟩

end Writing

/-! ### Opening -/

/-- No manifest of the present version stands in the directory: there is no such
file, or its text reads as no manifest or as one of another version. -/
def Fresh (t : FileTree) (directory : Path) : Prop :=
  ∀ content text entries, t.child? directory "manifest.json" = some (.file content) →
    Bytes.text? content = some text → Manifest.read text ≠ .current entries

/-- A cache that is opened is that of its directory, which is made if it is missing. -/
theorem load_eq_ok {directory : Path} {notes : List Note}
    (h : load t directory = (.ok c, t', notes)) :
    t.makeDirectories (artifacts ⟨directory, []⟩) = (.ok (), t') ∧
      c.directory = directory := by
  unfold load at h
  dsimp only at h
  split at h
  · cases h
  · rename_i middle hMade
    split at h
    · cases h
      exact ⟨hMade, rfl⟩
    · split at h
      · cases h
      · split at h
        all_goals
          cases h
          exact ⟨hMade, rfl⟩

/-- A cache that was opened has a directory for its answers. -/
theorem load_artifacts {directory : Path} {notes : List Note}
    (h : load t directory = (.ok c, t', notes)) : t'.isDirectory c.artifacts = true := by
  obtain ⟨hMade, rfl⟩ := load_eq_ok h
  exact FileTree.makeDirectories_isDirectory plain_artifacts hMade

/-- Opening a second time gives the same cache and changes no file. -/
theorem load_again {directory : Path} {notes : List Note}
    (h : load t directory = (.ok c, t', notes)) :
    load t' c.directory = (.ok c, t', notes) := by
  obtain ⟨hMade, rfl⟩ := load_eq_ok h
  have hDir := FileTree.makeDirectories_isDirectory plain_artifacts hMade
  have hAgain : t'.makeDirectories (artifacts ⟨c.directory, []⟩) = (.ok (), t') :=
    FileTree.makeDirectories_of_isDirectory plain_artifacts hDir
  unfold load at h ⊢
  dsimp only at h ⊢
  rw [hMade] at h
  rw [hAgain]
  exact h

/-- What opening comes to depends on the manifest alone, if the directory of the answers is
there, and no file is changed. -/
theorem load_of_stat_eq {directory : Path}
    (hDir : t.isDirectory (directory.join "artifacts") = true)
    (hDir' : t'.isDirectory (directory.join "artifacts") = true)
    (hStat : t'.stat (directory.join "manifest.json") = t.stat (directory.join "manifest.json")) :
    ∃ opened notes, load t directory = (opened, t, notes) ∧
      load t' directory = (opened, t', notes) := by
  have hMade : t.makeDirectories (artifacts ⟨directory, []⟩) = (.ok (), t) :=
    FileTree.makeDirectories_of_isDirectory plain_artifacts hDir
  have hMade' : t'.makeDirectories (artifacts ⟨directory, []⟩) = (.ok (), t') :=
    FileTree.makeDirectories_of_isDirectory plain_artifacts hDir'
  have hExists : t'.pathExists (manifest ⟨directory, []⟩) =
      t.pathExists (manifest ⟨directory, []⟩) := by
    unfold FileTree.pathExists manifest
    rw [hStat]
  have hText : t'.readText (manifest ⟨directory, []⟩) = t.readText (manifest ⟨directory, []⟩) := by
    unfold FileTree.readText FileTree.read manifest
    rw [hStat]
  unfold load
  dsimp only
  rw [hMade, hMade']
  dsimp only
  rw [hExists, hText]
  split
  · exact ⟨_, _, rfl, rfl⟩
  · split
    · exact ⟨_, _, rfl, rfl⟩
    · split <;> exact ⟨_, _, rfl, rfl⟩

/-- A cache that opens as itself still does if its manifest is as it was. -/
theorem load_of_stat {directory : Path} {notes : List Note}
    (h : load t directory = (.ok c, t, notes))
    (hDir : t'.isDirectory (directory.join "artifacts") = true)
    (hStat : t'.stat (directory.join "manifest.json") = t.stat (directory.join "manifest.json")) :
    load t' directory = (.ok c, t', notes) := by
  have hThere : t.isDirectory (directory.join "artifacts") = true := by
    obtain ⟨_, rfl⟩ := load_eq_ok h
    exact load_artifacts h
  obtain ⟨opened, found, hLoad, hLoad'⟩ := load_of_stat_eq hThere hDir hStat
  rw [h] at hLoad
  cases hLoad
  exact hLoad'

/-- A cache that is opened has each key once. -/
theorem load_nodup {directory : Path} {notes : List Note}
    (h : load t directory = (.ok c, t', notes)) : (Assoc.keys c.entries).Nodup := by
  unfold load at h
  dsimp only at h
  split at h
  · cases h
  · split at h
    · cases h
      exact List.nodup_nil
    · split at h
      · cases h
      · split at h
        · rename_i hRead
          cases h
          exact Manifest.nodup_of_read hRead
        · cases h
          exact List.nodup_nil
        · cases h
          exact List.nodup_nil

/-- A cache that is opened where no current manifest stands is empty. -/
theorem load_fresh {directory : Path} {notes : List Note} (hFresh : Fresh t directory)
    (h : load t directory = (.ok c, t', notes)) : c = ⟨directory, []⟩ := by
  have hMade := (load_eq_ok h).1
  unfold load at h
  dsimp only at h
  rw [hMade] at h
  dsimp only at h
  split at h
  · cases h
    rfl
  · split at h
    · cases h
    · rename_i text hText
      split at h
      · rename_i entries hRead
        obtain ⟨content, hContent, hDecode⟩ := FileTree.readText_eq_ok_iff.mp hText
        have hChild := ((FileTree.read_join_iff plain_manifest).mp hContent).2
        have hBefore := (FileTree.makeDirectories_grown hMade).child? hChild
        exact absurd hRead (hFresh content text entries hBefore hDecode)
      · cases h
        rfl
      · cases h
        rfl

/-- A directory that holds the manifest of a cache opens as that cache. -/
theorem load_manifest (hDir : t.isDirectory c.artifacts = true)
    (hManifest : t.read c.manifest = .ok (Bytes.ofText (Manifest.write c.entries)))
    (hKeys : (Assoc.keys c.entries).Nodup) : load t c.directory = (.ok c, t, []) := by
  have hMade : t.makeDirectories (artifacts ⟨c.directory, []⟩) = (.ok (), t) :=
    FileTree.makeDirectories_of_isDirectory plain_artifacts hDir
  have hExists : t.pathExists (manifest ⟨c.directory, []⟩) = true :=
    FileTree.pathExists_of_read hManifest
  have hText : t.readText (manifest ⟨c.directory, []⟩) =
      .ok (Manifest.write c.entries) :=
    FileTree.readText_eq_ok_iff.mpr ⟨_, hManifest, Bytes.text?_ofText _⟩
  unfold load
  simp [hMade, hExists, hText, Manifest.read_write hKeys]

end LockTriage.DiskCache
